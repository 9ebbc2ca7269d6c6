import RoomBridge.Proofs.Delivery.Batch
import RoomBridge.Proofs.Requests

/-!
# Uploads

Nothing empty and nothing above the limit is ever uploaded, and what is uploaded is named and
labelled by the type that its own content has. Only a bare `toCloud` takes the type that it is told.

* `Command.Requests.uploadsProperly` : at one command;
* `runAll_uploads` : in every run of commands, in every world.
-/

namespace RoomBridge

/-- What holds of an upload: its content is not empty and within the limit, and its name and labels
are those of the content; to the cloud they need be so only if the type was `sniffed`. -/
def Call.UploadsProperly (limit : Nat) (sniffed : Bool) : Call → Prop
  | .uploadContent _ upload =>
    1 ≤ upload.content.length ∧ upload.content.length ≤ limit ∧
      upload.mimeType = mediaType upload.content ∧
      upload.fileName = "whatsapp-media-" ++ Nat.repr upload.content.length ++ "." ++
        MimeType.extension upload.mimeType
  | .uploadMedia _ upload =>
    1 ≤ upload.content.length ∧ upload.content.length ≤ limit ∧
      (sniffed = true →
        upload.mimeType = mediaType upload.content ∧
        upload.category = (MimeType.category upload.mimeType).label ∧
        upload.fileName = "media." ++ MimeType.extension upload.mimeType)
  | _ => True

/-! ## One command -/

namespace Relay.Fits

variable {limit : Nat} {content : Bytes}

theorem length_pos (h : Fits limit content) : 1 ≤ content.length := List.length_pos_iff.mpr h.1

theorem roomUpload (h : Fits limit content) (room : RoomId) (sniffed : Bool) :
    (Call.uploadContent room (Relay.roomUpload content)).UploadsProperly limit sniffed :=
  ⟨h.length_pos, h.2, rfl, rfl⟩

theorem cloudUpload (h : Fits limit content) (session : Session) (sniffed : Bool) :
    (Call.uploadMedia session (Relay.cloudUpload content)).UploadsProperly limit sniffed :=
  ⟨h.length_pos, h.2, fun _ => ⟨rfl, rfl, rfl⟩⟩

end Relay.Fits

section

variable {limit : Nat} {c : Call}

theorem Delivery.Requests.uploadsProperly (h : Delivery.Requests limit c) (sniffed : Bool) :
    c.UploadsProperly limit sniffed := by
  cases h with
  | upload room content hfits => exact hfits.roomUpload room sniffed
  | _ => trivial

theorem Sending.Requests.uploadsProperly (h : Sending.Requests limit c) (sniffed : Bool) :
    c.UploadsProperly limit sniffed := by
  cases h with
  | upload session content hfits => exact hfits.cloudUpload session sniffed
  | _ => trivial

/-- A registration uploads nothing. -/
theorem Registration.Requests.uploadsProperly (h : Registration.Requests c) (sniffed : Bool) :
    c.UploadsProperly limit sniffed := by
  cases h <;> trivial

end

namespace Command

/-- Whether a command finds out for itself what it brings to the cloud. -/
def sniffs : Command → Bool
  | toCloud _ _ _ _ => false
  | _ => true

/-- Whatever is uploaded at a command is uploaded properly. -/
theorem Requests.uploadsProperly {command : Command} {limit : Nat} {c : Call}
    (h : command.Requests limit c) : c.UploadsProperly limit command.sniffs := by
  cases command with
  | dispatch | receive | fetch | toRoomStore | notifyFailure =>
    exact Delivery.Requests.uploadsProperly h _
  | handleToCloud | convert | send => exact Sending.Requests.uploadsProperly h _
  | register | registerJson => exact Registration.Requests.uploadsProperly h _
  | toCloud =>
    obtain ⟨hfits, rfl⟩ := h
    exact ⟨hfits.length_pos, hfits.2, Bool.noConfusion⟩

end Command

/-- **No upload is empty, too large or labelled by hearsay.** In every run of commands, however the
services behave, an upload has at least one byte and no more than the limit. To the room side it has
the type that its content has, and a name made of its length and that type; to the cloud it has that
type, its category and a name by it, unless the command is one that was told the type. -/
theorem runAll_uploads {σ : Type} (settings : Settings) (world : World σ) (commands : List Command)
    (s : σ) :
    ∀ p ∈ commands.zip (Command.runAll settings world commands s),
      ∀ c ∈ Event.calls p.2.events, c.UploadsProperly settings.maxFileSize p.1.sniffs := by
  induction commands generalizing s with
  | nil => simp
  | cons command commands ih =>
    rw [Command.runAll, List.zip_cons_cons]
    refine List.forall_mem_cons.mpr ⟨?_, ih _⟩
    have huploads : (command.perform settings).Asks
        (Call.UploadsProperly settings.maxFileSize command.sniffs) :=
      (Command.perform_asks settings command).mono fun _ h => h.uploadsProperly
    exact huploads.mem_calls world s

/-- A world that answers everything, where the room side keeps one content. -/
def World.keeping (content : Bytes) : World Unit where
  answer
    | .downloadContent _, s => (.ok content, s)
    | c, s => (World.answering fun _ => none).answer c s
  isCancelled _ := false

/-- What somebody sends as an image. -/
def imageCommand : Command :=
  .send ⟨"W1", "P1", "token", "App", "@agent", none⟩ ⟨"!room"⟩ (.ofAccount "1")
    ⟨"$event", "@somebody", "m.image", "", none, some ⟨"mxc"⟩⟩

theorem runAll_uploads_image :
    ∃ p ∈ [imageCommand].zip (Command.runAll Delivery.trialSettings
      (.keeping (Bytes.ascii "GIF89a")) [imageCommand] ()),
      ∃ session upload, Call.uploadMedia session upload ∈ Event.calls p.2.events ∧
        1 ≤ upload.content.length ∧ upload.content.length ≤ 1000 ∧
        upload.mimeType = mediaType upload.content := by
  have hany : (([imageCommand].zip (Command.runAll Delivery.trialSettings
      (.keeping (Bytes.ascii "GIF89a")) [imageCommand] ())).any fun p =>
        p.1.sniffs && (Event.calls p.2.events).any fun
          | .uploadMedia _ _ => true
          | _ => false) = true := by
    decide +kernel
  obtain ⟨p, hp, hcall⟩ := List.any_eq_true.mp hany
  rw [Bool.and_eq_true] at hcall
  obtain ⟨c, hc, hmedia⟩ := List.any_eq_true.mp hcall.2
  have hproper := runAll_uploads Delivery.trialSettings (.keeping (Bytes.ascii "GIF89a"))
    [imageCommand] () p hp c hc
  cases c with
  | uploadMedia session upload =>
    obtain ⟨hpos, hle, hlabels⟩ := hproper
    exact ⟨p, hp, session, upload, hc, hpos, hle, (hlabels hcall.1).1⟩
  | _ => cases hmedia

end RoomBridge
