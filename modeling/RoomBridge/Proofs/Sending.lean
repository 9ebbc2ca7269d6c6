import RoomBridge.Proofs.Delivery.LostMedia
import RoomBridge.Proofs.Requests

/-!
# What a sending does

A message is sent once, and only if it became a payload. What has no kind or may not be sent is
refused before anything is asked; a text only takes its sending. An attachment is brought to the
cloud before; if it strays on the way, the room is told of it once and nothing is sent.

* `Relay.Brought`, `Relay.Strayed` : what becomes of a content on its way to the cloud;
* `Sending.Fulfils` : what the payload for a message has to be;
* `Sending.Converted` : how a message became a payload, or why it did not;
* `effect_send_converted`, `effect_send_unconverted` : a sending after that;
* `send_effects` : all of it, for every message and in every world.
-/

namespace RoomBridge

variable {σ : Type} {world : World σ}

/-! ## Bringing a content to the cloud -/

namespace Relay

variable {limit : Nat} {session : Session} {s t : σ} {xs : List Exchange}

/-- What can be wrong with a content, and the failure for it. -/
inductive Unfit (limit : Nat) : Bytes → Failure → Prop
  | empty : Unfit limit [] .emptyMedia
  | oversized (content : Bytes) : limit < content.length →
    Unfit limit content (.mediaTooLarge content.length limit)

theorem unfit_of_checkContent {content : Bytes} {failure : Failure}
    (h : checkContent limit content = .error failure) : Unfit limit content failure := by
  unfold checkContent checkSize at h
  split at h
  · rename_i hempty
    cases h
    rw [List.isEmpty_iff.mp hempty]
    exact .empty
  · split at h
    · rename_i hlarge
      cases h
      exact .oversized content hlarge
    · cases h

/-- A content that reached the cloud was uploaded, and has an id there. -/
theorem toCloud_ok {content : Bytes} {mimeType mediaId : String} {category : MediaCategory}
    (h : (toCloud limit session content mimeType category).effect world s = ⟨.ok mediaId, t, xs⟩) :
    Fits limit content ∧ Text.blank mediaId = false ∧
      xs = [⟨.uploadMedia session
        ⟨content, "media." ++ MimeType.extension mimeType, mimeType, category.label⟩,
        .ok mediaId⟩] := by
  unfold toCloud at h
  obtain ⟨_, hcheck, h₁⟩ := Attempt.effect_check_bind_ok h
  obtain ⟨answer, u, ys, zs, hup, h₂, rfl⟩ := Attempt.effect_bind_ok h₁
  split at h₂
  · simp at h₂
  · rename_i hblank
    rw [Attempt.effect_note_bind, Attempt.effect_pure, Effect.mk.injEq, Except.ok.injEq] at h₂
    obtain ⟨rfl, -, rfl⟩ := h₂
    refine ⟨checkContent_ok hcheck, by simpa using hblank, ?_⟩
    rw [Attempt.effect_ask_eq (Attempt.effect_orElseFail_ok hup)]
    rfl

/-- A content that did not reach the cloud is unfit, or was uploaded in vain. -/
theorem toCloud_error {content : Bytes} {mimeType : String} {category : MediaCategory}
    {failure : Failure}
    (h : (toCloud limit session content mimeType category).effect world s =
      ⟨.error failure, t, xs⟩) :
    let upload : CloudUpload :=
      ⟨content, "media." ++ MimeType.extension mimeType, mimeType, category.label⟩
    (Unfit limit content failure ∧ xs = []) ∨
      Fits limit content ∧
        ((∃ reason, failure = reason.duringUpload ∧
            xs = [⟨.uploadMedia session upload, .error reason⟩]) ∨
          ∃ mediaId, Text.blank mediaId = true ∧
            failure = .mediaUploadFailed "cloud returned an empty media id" ∧
            xs = [⟨.uploadMedia session upload, .ok mediaId⟩]) := by
  intro upload
  unfold toCloud at h
  rcases Attempt.effect_check_bind_error h with ⟨hcheck, -, rfl⟩ | ⟨_, hcheck, h₁⟩
  · exact Or.inl ⟨unfit_of_checkContent hcheck, rfl⟩
  refine Or.inr ⟨checkContent_ok hcheck, ?_⟩
  rcases Attempt.effect_bind_error h₁ with hup | ⟨mediaId, u, ys, zs, hup, h₂, rfl⟩
  · obtain ⟨reason, hasked, rfl⟩ := Attempt.effect_orElseFail_error hup
    exact Or.inl ⟨reason, rfl, Attempt.effect_ask_eq hasked⟩
  · rw [Attempt.effect_ask_eq (Attempt.effect_orElseFail_ok hup)]
    split at h₂
    · rename_i hblank
      rw [Attempt.effect_throw, Effect.mk.injEq, Except.error.injEq] at h₂
      obtain ⟨rfl, -, rfl⟩ := h₂
      exact Or.inr ⟨mediaId, hblank, rfl, rfl⟩
    · rw [Attempt.effect_note_bind] at h₂
      simp at h₂

/-- A content of the room side reached the cloud: the calls for it, and the id it has there. -/
inductive Brought (limit : Nat) (session : Session) (handle : ContentHandle) :
    List Exchange → String → Prop
  | brought (content : Bytes) (mediaId : String) : Fits limit content →
    Text.blank mediaId = false →
    Brought limit session handle
      [⟨.downloadContent handle, .ok content⟩,
        ⟨.uploadMedia session (cloudUpload content), .ok mediaId⟩] mediaId

/-- It did not: the calls until it was given up, and the failure. -/
inductive Strayed (limit : Nat) (session : Session) (handle : ContentHandle) :
    List Exchange → Failure → Prop
  | undownloaded (reason : Failure) :
    Strayed limit session handle [⟨.downloadContent handle, .error reason⟩]
      (reason.duringFetch .content)
  | unfit (content : Bytes) (failure : Failure) : Unfit limit content failure →
    Strayed limit session handle [⟨.downloadContent handle, .ok content⟩] failure
  | unuploaded (content : Bytes) (reason : Failure) : Fits limit content →
    Strayed limit session handle
      [⟨.downloadContent handle, .ok content⟩,
        ⟨.uploadMedia session (cloudUpload content), .error reason⟩] reason.duringUpload
  | unnamed (content : Bytes) (mediaId : String) : Fits limit content →
    Text.blank mediaId = true →
    Strayed limit session handle
      [⟨.downloadContent handle, .ok content⟩,
        ⟨.uploadMedia session (cloudUpload content), .ok mediaId⟩]
      (.mediaUploadFailed "cloud returned an empty media id")

/-- A content that is uploaded by its own descriptor is uploaded by the type that it has. -/
theorem upload_ofContent (source : MediaSource) (content : Bytes) :
    let d := MediaDescriptor.ofContent source content
    (⟨content, "media." ++ MimeType.extension d.mimeType, d.mimeType, d.category.label⟩ :
      CloudUpload) = cloudUpload content := by
  dsimp only [MediaDescriptor.ofContent, cloudUpload]

theorem handleToCloud_ok {handle : ContentHandle} {p : String × MediaDescriptor}
    (h : (handleToCloud limit session handle).effect world s = ⟨.ok p, t, xs⟩) :
    Brought limit session handle xs p.1 := by
  unfold handleToCloud at h
  obtain ⟨content, u, ys, zs, hdown, h₁, rfl⟩ := Attempt.effect_bind_ok h
  obtain ⟨mediaId, v, us, vs, hcloud, h₂, rfl⟩ := Attempt.effect_bind_ok h₁
  rw [Attempt.effect_pure, Effect.mk.injEq, Except.ok.injEq] at h₂
  obtain ⟨rfl, -, rfl⟩ := h₂
  obtain ⟨hfits, hblank, rfl⟩ := toCloud_ok hcloud
  rw [Attempt.effect_ask_eq (Attempt.effect_orElseFail_ok hdown), upload_ofContent]
  exact .brought content mediaId hfits hblank

theorem handleToCloud_error {handle : ContentHandle} {failure : Failure}
    (h : (handleToCloud limit session handle).effect world s = ⟨.error failure, t, xs⟩) :
    Strayed limit session handle xs failure := by
  unfold handleToCloud at h
  rcases Attempt.effect_bind_error h with hdown | ⟨content, u, ys, zs, hdown, h₁, rfl⟩
  · obtain ⟨reason, hasked, rfl⟩ := Attempt.effect_orElseFail_error hdown
    rw [Attempt.effect_ask_eq hasked]
    exact .undownloaded reason
  rw [Attempt.effect_ask_eq (Attempt.effect_orElseFail_ok hdown)]
  rcases Attempt.effect_bind_error h₁ with hcloud | ⟨_, v, us, vs, -, h₂, -⟩
  · rcases toCloud_error hcloud with
      ⟨hunfit, rfl⟩ | ⟨hfits, ⟨reason, rfl, rfl⟩ | ⟨mediaId, hblank, rfl, rfl⟩⟩
    · exact .unfit content failure hunfit
    · rw [upload_ofContent]
      exact .unuploaded content reason hfits
    · rw [upload_ofContent]
      exact .unnamed content mediaId hfits hblank
  · simp at h₂

/-- A call that brings a content of the room side to the cloud. -/
def Brings (session : Session) (c : Call) : Prop :=
  (∃ handle, c = .downloadContent handle) ∨ ∃ upload, c = .uploadMedia session upload

theorem Brings.quiet {c : Call} (h : Brings session c) : c.Quiet := by
  rcases h with ⟨handle, rfl⟩ | ⟨upload, rfl⟩ <;> exact fun _ _ => Call.noConfusion

theorem Brings.unsent {c : Call} (h : Brings session c) :
    ∀ session payload, c ≠ .sendMessage session payload := by
  rcases h with ⟨handle, rfl⟩ | ⟨upload, rfl⟩ <;> exact fun _ _ => Call.noConfusion

theorem Brought.brings {handle : ContentHandle} {mediaId : String}
    (h : Brought limit session handle xs mediaId) : ∀ x ∈ xs, Brings session x.call := by
  cases h with
  | brought => simp [Brings]

theorem Strayed.brings {handle : ContentHandle} {failure : Failure}
    (h : Strayed limit session handle xs failure) : ∀ x ∈ xs, Brings session x.call := by
  cases h <;> simp [Brings]

end Relay

/-! ## Attachments -/

namespace Sending

open Delivery (SameOutcome)

variable {settings : Settings} {session : Session} {room : RoomId} {chat : ChatKey}
  {m : RoomMessage} {s t : σ} {xs : List Exchange}

/-- The attachment that a message names; an empty address names none. -/
def address? (m : RoomMessage) : Option ContentHandle := m.url.filter fun handle => handle.text ≠ ""

/-- The attachment of a message is lost: the calls until then, and the failure. -/
inductive Lost (limit : Nat) (session : Session) (m : RoomMessage) :
    List Exchange → Failure → Prop
  | unaddressed : address? m = none → Lost limit session m [] (.missingField "url")
  | strayed (handle : ContentHandle) (tried : List Exchange) (failure : Failure) :
    address? m = some handle → Relay.Strayed limit session handle tried failure →
    Lost limit session m tried failure

theorem Lost.brings {limit : Nat} {failure : Failure} (h : Lost limit session m xs failure) :
    ∀ x ∈ xs, Relay.Brings session x.call := by
  cases h with
  | unaddressed hnone => simp
  | strayed handle tried failure haddress hstrayed => exact hstrayed.brings

theorem relayAttachment_ok {mediaId : String}
    (h : (relayAttachment settings session m).effect world s = ⟨.ok mediaId, t, xs⟩) :
    ∃ handle, address? m = some handle ∧
      Relay.Brought settings.maxFileSize session handle xs mediaId := by
  unfold relayAttachment at h
  split at h
  · simp at h
  · rename_i handle hhandle
    obtain ⟨⟨found, descriptor⟩, u, ys, zs, hrelay, hend, rfl⟩ := Attempt.effect_bind_ok h
    rw [Attempt.effect_pure, Effect.mk.injEq, Except.ok.injEq] at hend
    obtain ⟨rfl, -, rfl⟩ := hend
    rw [List.append_nil]
    exact ⟨handle, hhandle, Relay.handleToCloud_ok hrelay⟩

theorem relayAttachment_error {failure : Failure}
    (h : (relayAttachment settings session m).effect world s = ⟨.error failure, t, xs⟩) :
    Lost settings.maxFileSize session m xs failure := by
  unfold relayAttachment at h
  split at h
  · rename_i hnone
    rw [Attempt.effect_throw, Effect.mk.injEq, Except.error.injEq] at h
    obtain ⟨rfl, -, rfl⟩ := h
    exact .unaddressed hnone
  · rename_i handle hhandle
    rcases Attempt.effect_bind_error h with hrelay | ⟨_, u, ys, zs, -, hend, -⟩
    · exact .strayed handle xs failure hhandle (Relay.handleToCloud_error hrelay)
    · simp at hend

theorem relayAttachment_brings (world : World σ) (settings : Settings) (session : Session)
    (m : RoomMessage) (s : σ) :
    ∀ x ∈ ((relayAttachment settings session m).effect world s).exchanges,
      Relay.Brings session x.call := by
  rcases hrun : (relayAttachment settings session m).effect world s with ⟨failure | mediaId, t, xs⟩
  · exact (relayAttachment_error hrun).brings
  · obtain ⟨handle, -, hbrought⟩ := relayAttachment_ok hrun
    exact hbrought.brings

/-! ## Kinds -/

/-- A message to everybody, where these are not sent. -/
def Barred (settings : Settings) (chat : ChatKey) : Prop :=
  settings.statusBroadcastDisabled = true ∧ chat.receiver = statusBroadcast

theorem kindFor_of_ne (h : ∀ kind : OutgoingKind, m.msgtype ≠ kind.roomType) :
    kindFor settings chat m = .error (.unsupportedMessageType m.msgtype) := by
  unfold kindFor
  rw [OutgoingKind.ofRoomType_of_ne h]

theorem kindFor_of_barred {kind : OutgoingKind} (hkind : m.msgtype = kind.roomType)
    (hbarred : Barred settings chat) :
    kindFor settings chat m = .error .statusBroadcastDisabled := by
  unfold kindFor
  rw [OutgoingKind.ofRoomType_eq_ok_iff.mpr hkind]
  exact if_pos (by simp [hbarred.1, hbarred.2])

theorem kindFor_of_not_barred {kind : OutgoingKind} (hkind : m.msgtype = kind.roomType)
    (hfree : ¬ Barred settings chat) : kindFor settings chat m = .ok kind := by
  unfold kindFor
  rw [OutgoingKind.ofRoomType_eq_ok_iff.mpr hkind]
  refine if_neg fun h => hfree ?_
  rw [Bool.and_eq_true, beq_iff_eq] at h
  exact h

/-- A message has a kind if its type asks for it and it may be sent. -/
theorem kindFor_eq_ok_iff {kind : OutgoingKind} :
    kindFor settings chat m = .ok kind ↔
      m.msgtype = kind.roomType ∧ ¬ Barred settings chat := by
  constructor
  · intro h
    have hkind : m.msgtype = kind.roomType := by
      unfold kindFor at h
      split at h
      · cases h
      · rename_i found hfound
        split at h
        · cases h
        · cases h
          exact OutgoingKind.ofRoomType_eq_ok_iff.mp hfound
    refine ⟨hkind, fun hbarred => ?_⟩
    rw [kindFor_of_barred hkind hbarred] at h
    cases h
  · exact fun h => kindFor_of_not_barred h.1 h.2

/-! ## Payloads -/

/-- All that converting a message can come to: the calls, and the end. -/
inductive Converted (settings : Settings) (session : Session) (room : RoomId) (chat : ChatKey)
    (m : RoomMessage) : List Exchange → Except Failure Payload → Prop
  | refused (failure : Failure) : kindFor settings chat m = .error failure →
    Converted settings session room chat m [] (.error failure)
  | text : kindFor settings chat m = .ok .text →
    Converted settings session room chat m [] (.ok (.text chat.receiver m.body))
  | media (kind : OutgoingKind) (handle : ContentHandle) (mediaId : String)
      (carried : List Exchange) :
    kindFor settings chat m = .ok kind → kind.isMedia = true → address? m = some handle →
    Relay.Brought settings.maxFileSize session handle carried mediaId →
    Converted settings session room chat m carried
      (.ok (.media chat.receiver kind mediaId (some m.body) m.fileName))
  | lost (kind : OutgoingKind) (failure : Failure) (tried : List Exchange)
      (reply : (Call.sendNotice room (Notice.mediaNotSent failure.message)).Reply) :
    kindFor settings chat m = .ok kind → kind.isMedia = true →
    Lost settings.maxFileSize session m tried failure →
    Converted settings session room chat m
      (tried ++ [⟨.sendNotice room (Notice.mediaNotSent failure.message), reply⟩])
      (.error failure)

theorem convert_converted (world : World σ) (settings : Settings) (session : Session)
    (room : RoomId) (chat : ChatKey) (m : RoomMessage) (s : σ) :
    Converted settings session room chat m
      ((convert settings session room chat m).effect world s).exchanges
      ((convert settings session room chat m).effect world s).result := by
  unfold convert
  cases hkind : kindFor settings chat m with
  | error failure => exact .refused failure hkind
  | ok kind =>
    rw [Attempt.effect_bind, Attempt.effect_check]
    dsimp only
    rw [Effect.after_nil]
    split
    · rename_i hmedia
      unfold convertMedia
      rw [Attempt.effect_settle_bind]
      rcases hrun : (relayAttachment settings session m).effect world s with
        ⟨failure | mediaId, t, xs⟩
      · obtain ⟨u, reply, htold⟩ := Relay.effect_notifyFailure world room .toCloud failure t
        dsimp only
        rw [Attempt.effect_action_bind, htold, Attempt.effect_throw]
        exact .lost kind failure xs reply hkind hmedia (relayAttachment_error hrun)
      · dsimp only
        rw [Attempt.effect_pure, Effect.after, List.append_nil]
        obtain ⟨handle, haddress, hbrought⟩ := relayAttachment_ok hrun
        exact .media kind handle mediaId xs hkind hmedia haddress hbrought
    · rename_i htext
      obtain rfl : kind = .text := by simpa [OutgoingKind.isMedia] using htext
      exact .text hkind

/-- What a payload for a message has to be, if converting it took the calls `xs`: it is for the
receiver of the chat and of the kind that the message has, and names an attachment by the id that
the cloud gave to the content downloaded. -/
structure Fulfils (settings : Settings) (session : Session) (chat : ChatKey) (m : RoomMessage)
    (xs : List Exchange) (payload : Payload) : Prop where
  msgtype_eq : m.msgtype = payload.kind.roomType
  receiver_eq : payload.receiver = chat.receiver
  to_eq : payload.body.member? "to" = some (.string chat.receiver)
  type_eq : payload.body.member? "type" = some (.string payload.kind.label)
  attachment : payload.kind.isMedia = true → ∃ handle mediaId,
    address? m = some handle ∧ Relay.Brought settings.maxFileSize session handle xs mediaId ∧
    (payload.body.member? payload.kind.label).bind (·.member? "id") = some (.string mediaId)

namespace Converted

variable {r : Except Failure Payload} {payload : Payload}

/-- Nothing is sent while a message is converted. -/
theorem unsent (h : Converted settings session room chat m xs r) :
    ∀ x ∈ xs, ∀ session payload, x.call ≠ .sendMessage session payload := by
  cases h with
  | refused failure hkind => simp
  | text hkind => simp
  | media kind handle mediaId carried hkind hmedia haddress hbrought =>
    exact fun x hx => (hbrought.brings x hx).unsent
  | lost kind failure tried reply hkind hmedia hlost =>
    refine List.forall_mem_append.mpr ⟨fun x hx => (hlost.brings x hx).unsent, ?_⟩
    exact List.forall_mem_singleton.mpr fun _ _ => Call.noConfusion

/-- A message with a kind that is not converted has lost its attachment, and its room is told. -/
theorem of_error {failure : Failure}
    (h : Converted settings session room chat m xs (.error failure)) {kind : OutgoingKind}
    (hkind : kindFor settings chat m = .ok kind) :
    kind.isMedia = true ∧ ∃ tried reply,
      Lost settings.maxFileSize session m tried failure ∧
      xs = tried ++ [⟨.sendNotice room (Notice.mediaNotSent failure.message), reply⟩] := by
  cases h with
  | refused failure hrefused =>
    rw [hkind] at hrefused
    cases hrefused
  | lost found failure tried reply hfound hmedia hlost =>
    rw [hkind] at hfound
    cases hfound
    exact ⟨hmedia, tried, reply, hlost, rfl⟩

/-- A notice is only posted for an attachment that is lost. -/
theorem notices_cases (h : Converted settings session room chat m xs r) :
    notices xs = [] ∨ ∃ kind failure, kindFor settings chat m = .ok kind ∧ kind.isMedia = true ∧
      r = .error failure := by
  cases h with
  | refused failure hkind => exact Or.inl rfl
  | text hkind => exact Or.inl rfl
  | media kind handle mediaId carried hkind hmedia haddress hbrought =>
    exact Or.inl (notices_eq_nil fun x hx => (hbrought.brings x hx).quiet)
  | lost kind failure tried reply hkind hmedia hlost =>
    exact Or.inr ⟨kind, failure, hkind, hmedia, rfl⟩

theorem fulfils (h : Converted settings session room chat m xs (.ok payload)) :
    Fulfils settings session chat m xs payload := by
  cases h with
  | text hkind =>
    exact ⟨(kindFor_eq_ok_iff.mp hkind).1, rfl, Payload.to_frame _ _ _, Payload.type_frame _ _ _,
      nofun⟩
  | media kind handle mediaId carried hkind hmedia haddress hbrought =>
    exact ⟨(kindFor_eq_ok_iff.mp hkind).1, rfl, Payload.to_frame _ _ _, Payload.type_frame _ _ _,
      fun _ => ⟨handle, mediaId, haddress, hbrought, Payload.id_media _ _ _ _ _⟩⟩

end Converted

theorem effect_convert_refused {failure : Failure} (h : kindFor settings chat m = .error failure)
    (world : World σ) (s : σ) :
    (convert settings session room chat m).effect world s = ⟨.error failure, s, []⟩ := by
  unfold convert
  rw [h]
  rfl

theorem effect_convert_text (h : kindFor settings chat m = .ok .text) (world : World σ) (s : σ) :
    (convert settings session room chat m).effect world s =
      ⟨.ok (.text chat.receiver m.body), s, []⟩ := by
  unfold convert
  rw [h]
  rfl

/-! ## Sending -/

/-- What is not converted is not sent. -/
theorem effect_send_unconverted {failure : Failure}
    (h : (convert settings session room chat m).effect world s = ⟨.error failure, t, xs⟩) :
    (send settings session room chat m).effect world s = ⟨.error failure, t, xs⟩ := by
  unfold send
  rw [Attempt.effect_bind, h]

/-- What is converted is sent once, and its receipt has what the cloud replied. -/
theorem effect_send_converted {payload : Payload}
    (h : (convert settings session room chat m).effect world s = ⟨.ok payload, t, xs⟩) :
    let (reply, u) := world.answer (.sendMessage session payload) t
    (send settings session room chat m).effect world s =
      ⟨Except.map (fun cloudId => ⟨.ofParts chat.chat ⟨session.phoneId⟩ cloudId, cloudId,
        payload.kind, m.sender⟩) reply, u, xs ++ [⟨.sendMessage session payload, reply⟩]⟩ := by
  unfold send
  rw [Attempt.effect_bind, h]
  dsimp only
  rw [Attempt.effect_bind]
  unfold post
  rw [Attempt.effect_settle_bind, Attempt.effect_ask]
  dsimp only
  cases (world.answer (.sendMessage session payload) t).1 with
  | error failure => rfl
  | ok cloudId => rfl

/-- What is refused is refused without a call. -/
theorem send_refused {failure : Failure} (h : kindFor settings chat m = .error failure)
    (world : World σ) (s : σ) :
    (send settings session room chat m).effect world s = ⟨.error failure, s, []⟩ :=
  effect_send_unconverted (effect_convert_refused h world s)

/-- A message that is not converted ends there. -/
theorem send_of_unconverted {failure : Failure}
    (h : ((convert settings session room chat m).effect world s).result = .error failure) :
    let converted := (convert settings session room chat m).effect world s
    let run := (send settings session room chat m).effect world s
    run.result = .error failure ∧ run.exchanges = converted.exchanges := by
  rcases hrun : (convert settings session room chat m).effect world s with ⟨result, t, xs⟩
  rw [hrun] at h
  obtain rfl : result = .error failure := h
  rw [effect_send_unconverted hrun]
  exact ⟨rfl, rfl⟩

/-- A message that is converted is sent then, and its receipt has the id that the cloud replied. -/
theorem send_of_converted {payload : Payload}
    (h : ((convert settings session room chat m).effect world s).result = .ok payload) :
    let converted := (convert settings session room chat m).effect world s
    let run := (send settings session room chat m).effect world s
    ∃ reply, run.exchanges = converted.exchanges ++ [⟨.sendMessage session payload, reply⟩] ∧
      run.result.map (·.cloudId) = reply := by
  rcases hrun : (convert settings session room chat m).effect world s with ⟨result, t, xs⟩
  rw [hrun] at h
  obtain rfl : result = .ok payload := h
  intro converted run
  refine ⟨(world.answer (.sendMessage session payload) t).1, ?_⟩
  rw [show run = _ from effect_send_converted hrun]
  refine ⟨rfl, ?_⟩
  cases (world.answer (.sendMessage session payload) t).1 with
  | error failure => rfl
  | ok cloudId => rfl

/-- A text only takes its sending. -/
theorem send_text (hkind : m.msgtype = OutgoingKind.text.roomType) (world : World σ) (s : σ) :
    ∀ x ∈ ((send settings session room chat m).effect world s).exchanges,
      x.call = .sendMessage session (.text chat.receiver m.body) := by
  by_cases hbarred : Barred settings chat
  · rw [send_refused (kindFor_of_barred hkind hbarred)]
    simp
  · have hconverted : (convert settings session room chat m).effect world s = _ :=
      effect_convert_text (kindFor_of_not_barred hkind hbarred) world s
    rw [effect_send_converted hconverted]
    simp

/-- Sending what was converted is no notice. -/
theorem notices_send (world : World σ) (settings : Settings) (session : Session) (room : RoomId)
    (chat : ChatKey) (m : RoomMessage) (s : σ) :
    notices ((send settings session room chat m).effect world s).exchanges =
      notices ((convert settings session room chat m).effect world s).exchanges := by
  cases hresult : ((convert settings session room chat m).effect world s).result with
  | error failure => rw [(send_of_unconverted hresult).2]
  | ok payload =>
    obtain ⟨reply, hasked, -⟩ := send_of_converted hresult
    rw [hasked, notices_append]
    exact List.append_nil _

/-! ## Replies to notices -/

theorem sameOutcome_convert {other : World σ} (hworlds : world.AgreesOn Call.Quiet other) :
    SameOutcome world other (convert settings session room chat m) := by
  unfold convert
  refine .bind (.check _) fun kind => ?_
  split
  · unfold convertMedia
    refine .settle_bind (fun s => ?_) fun outcome => ?_
    · exact Action.effect_congr hworlds _ s fun x hx =>
        (relayAttachment_brings world settings session m s x hx).quiet
    cases outcome with
    | ok mediaId => exact .pure _
    | error failure =>
      refine .fails failure fun w s => ?_
      rw [Attempt.effect_action_bind, Attempt.effect_throw]
      exact ⟨_, _, rfl⟩
  · exact .pure _

theorem sameOutcome_post {other : World σ} (hworlds : world.AgreesOn Call.Quiet other)
    (payload : Payload) : SameOutcome world other (post session m payload) := by
  unfold post
  refine .settle_bind (fun s => ?_) fun outcome => ?_
  · refine Action.effect_congr hworlds _ s fun x hx => ?_
    rw [List.mem_singleton.mp hx]
    exact fun _ _ => Call.noConfusion
  cases outcome with
  | ok cloudId => exact .pure _
  | error failure =>
    refine .fails failure fun w s => ?_
    rw [Attempt.effect_note_bind]
    exact ⟨_, _, rfl⟩

/-- How a sending ends does not depend on the reply to its notice. -/
theorem send_congr {other : World σ} (hworlds : world.AgreesOn Call.Quiet other) (s : σ) :
    ((send settings session room chat m).effect other s).result =
      ((send settings session room chat m).effect world s).result := by
  have hsend : SameOutcome world other (send settings session room chat m) :=
    .bind (sameOutcome_convert hworlds) fun payload =>
      .bind (sameOutcome_post hworlds payload) fun cloudId => .bind (.note _) fun _ => .pure _
  exact hsend.result_eq s

/-! ## The whole -/

/-- **A message is sent once or not at all, and only a lost attachment is told of.** A message that
is converted is sent once, after all that converting it took, and its receipt has the id that the
cloud replied; one that is not is not sent. A message without a kind, and one to everybody where
these are barred, takes no call, and a text none but its sending. An attachment that is lost is
told of once, in the room given, by the failure that lost it and that the sending ends with,
whatever is replied; nothing else is told of. -/
theorem send_effects (world : World σ) (settings : Settings) (session : Session) (room : RoomId)
    (chat : ChatKey) (m : RoomMessage) (s : σ) :
    let run := (send settings session room chat m).effect world s
    let converted := (convert settings session room chat m).effect world s
    let barred := settings.statusBroadcastDisabled = true ∧ chat.receiver = "status@broadcast"
    (∀ x ∈ converted.exchanges, ∀ session payload, x.call ≠ .sendMessage session payload) ∧
    (∀ failure, converted.result = .error failure →
      run.result = .error failure ∧ run.exchanges = converted.exchanges) ∧
    (∀ payload, converted.result = .ok payload →
      Fulfils settings session chat m converted.exchanges payload ∧
      ∃ reply, run.exchanges = converted.exchanges ++ [⟨.sendMessage session payload, reply⟩] ∧
        run.result.map (·.cloudId) = reply) ∧
    ((∀ kind : OutgoingKind, m.msgtype ≠ kind.roomType) →
      run.exchanges = [] ∧ run.result = .error (.unsupportedMessageType m.msgtype)) ∧
    (∀ kind : OutgoingKind, m.msgtype = kind.roomType → barred →
      run.exchanges = [] ∧ run.result = .error .statusBroadcastDisabled) ∧
    (m.msgtype = "m.text" →
      ∀ x ∈ run.exchanges, x.call = .sendMessage session (.text chat.receiver m.body)) ∧
    (∀ (kind : OutgoingKind) (failure : Failure), m.msgtype = kind.roomType → ¬ barred →
      converted.result = .error failure →
      kind.isMedia = true ∧
      notices run.exchanges = [(room, "Failed to send media to WhatsApp: " ++ failure.message)] ∧
      ∃ tried reply, Lost settings.maxFileSize session m tried failure ∧
        run.exchanges = tried ++ [⟨.sendNotice room
          ("Failed to send media to WhatsApp: " ++ failure.message), reply⟩]) ∧
    (notices run.exchanges ≠ [] → ¬ barred ∧
      (∃ kind : OutgoingKind, m.msgtype = kind.roomType ∧ kind.isMedia = true) ∧
      ∃ failure, converted.result = .error failure) ∧
    ∀ other, world.AgreesOn Call.Quiet other →
      ((send settings session room chat m).effect other s).result = run.result := by
  intro run converted barred
  have hconverted : Converted settings session room chat m converted.exchanges converted.result :=
    convert_converted world settings session room chat m s
  refine ⟨hconverted.unsent, fun _ => send_of_unconverted, ?_, ?_, ?_, ?_, ?_, ?_,
    fun other hworlds => send_congr hworlds s⟩
  · intro payload hpayload
    rw [hpayload] at hconverted
    exact ⟨hconverted.fulfils, send_of_converted hpayload⟩
  · intro hkind
    rw [show run = _ from send_refused (kindFor_of_ne hkind) world s]
    exact ⟨rfl, rfl⟩
  · intro kind hkind hbarred
    rw [show run = _ from send_refused (kindFor_of_barred hkind hbarred) world s]
    exact ⟨rfl, rfl⟩
  · exact fun hkind => send_text hkind world s
  · intro kind failure hkind hfree hfailure
    obtain ⟨hresult, hasked⟩ := send_of_unconverted hfailure
    rw [hfailure] at hconverted
    obtain ⟨hmedia, tried, reply, hlost, hxs⟩ :=
      hconverted.of_error (kindFor_of_not_barred hkind hfree)
    have hrun : run.exchanges = _ := hasked.trans hxs
    refine ⟨hmedia, ?_, tried, reply, hlost, hrun⟩
    rw [hrun, notices_append, notices_eq_nil fun x hx => (hlost.brings x hx).quiet]
    rfl
  · intro htold
    rw [show notices run.exchanges = _ from notices_send world settings session room chat m s]
      at htold
    obtain hnone | ⟨kind, failure, hkind, hmedia, hfailure⟩ := hconverted.notices_cases
    · exact absurd hnone htold
    · obtain ⟨hroomType, hfree⟩ := kindFor_eq_ok_iff.mp hkind
      exact ⟨hfree, ⟨kind, hroomType, hmedia⟩, failure, hfailure⟩

/-- An image that turns out to be empty. -/
example : notices ((send Delivery.trialSettings ⟨"W1", "P1", "token", "App", "@agent", none⟩
      ⟨"!room"⟩ (.ofAccount "1") ⟨"$event", "@somebody", "m.image", "", none, some ⟨"mxc"⟩⟩).effect
        (.answering fun _ => none) ()).exchanges =
      [(⟨"!room"⟩, "Failed to send media to WhatsApp: media data is empty")] := by
  decide +kernel

end Sending

end RoomBridge
