import Mathlib.Data.List.Nodup
import Mathlib.Tactic.MkIffOfInductiveProp
import RoomBridge.Message.Outgoing
import RoomBridge.Proofs.Json.Record

/-!
# What a payload carries

A request to send a message is a frame around a content. Both are objects whose members can be
listed, and the kind's own name, under which the content stands, is none of the frame's other names.
So a payload carries just what it was made from, and can be told from every other.

* `Json.Value.ConsistsOf` : an object has the listed members, once each, and no others;
* `frame_consistsOf`, `mediaContent_consistsOf`, `textContent_consistsOf` : frames and contents;
* `frame_body_eq_iff`, `mediaContent_eq_iff`, `textContent_eq_iff` : when they are the same;
* `payload_exact` : all of it together.
-/

namespace RoomBridge

/-! ## Objects -/

namespace Json.Value

/-- An object with just the members that are listed, and one member for a name. -/
def ConsistsOf (value : Value) (Listed : String → Value → Prop) : Prop :=
  ∃ members, value = .object members ∧ (members.map Prod.fst).Nodup ∧
    ∀ name v, (name, v) ∈ members ↔ Listed name v

variable {Listed Others : String → Value → Prop} {value v : Value} {name : String}
  {members : List (String × Value)}

theorem ConsistsOf.member?_eq_some_iff (h : value.ConsistsOf Listed) :
    value.member? name = some v ↔ Listed name v := by
  obtain ⟨members, rfl, hnodup, hmem⟩ := h
  rw [← hmem]
  exact lookup_eq_some_iff_mem hnodup

/-- An object does not consist of two different things. -/
theorem ConsistsOf.iff (h : value.ConsistsOf Listed) (h' : value.ConsistsOf Others) (name : String)
    (v : Value) : Listed name v ↔ Others name v := by
  rw [← h.member?_eq_some_iff, h'.member?_eq_some_iff]

theorem ConsistsOf.congr (h : value.ConsistsOf Listed)
    (hiff : ∀ name v, Listed name v ↔ Others name v) : value.ConsistsOf Others := by
  obtain ⟨members, heq, hnodup, hmem⟩ := h
  exact ⟨members, heq, hnodup, fun name v => (hmem name v).trans (hiff name v)⟩

/-- A member with a new name takes no other's place. -/
theorem perm_insertMember (h : name ∉ members.map Prod.fst) :
    (insertMember name v members).Perm ((name, v) :: members) := by
  induction members with
  | nil => exact .refl _
  | cons p members ih =>
    obtain ⟨k, w⟩ := p
    rw [List.map_cons, List.mem_cons, not_or] at h
    unfold insertMember
    split
    · exact .refl _
    · rw [if_neg h.1]
      exact ((ih h.2).cons _).trans (.swap _ _ _)

/-- Members with different names are put in one after the other. -/
theorem perm_foldl_insertMember {sorted : List (String × Value)}
    (h : ((sorted ++ members).map Prod.fst).Nodup) :
    (members.foldl (fun sorted (k, v) => insertMember k v sorted) sorted).Perm
      (sorted ++ members) := by
  induction members generalizing sorted with
  | nil =>
    rw [List.append_nil]
    exact .refl _
  | cons p members ih =>
    have hfresh : p.1 ∉ sorted.map Prod.fst := by
      rw [List.map_append, List.map_cons, List.nodup_middle, List.nodup_cons] at h
      exact fun hp => h.1 (List.mem_append_left _ hp)
    have hinsert : (insertMember p.1 p.2 sorted ++ members).Perm (sorted ++ p :: members) :=
      ((perm_insertMember hfresh).append_right members).trans List.perm_middle.symm
    exact (ih ((hinsert.map Prod.fst).nodup_iff.mpr h)).trans hinsert

theorem ofMembers_consistsOf (h : (members.map Prod.fst).Nodup) :
    (ofMembers members).ConsistsOf fun name v => (name, v) ∈ members := by
  have hperm : (members.foldl (fun sorted (k, v) => insertMember k v sorted) []).Perm
      ([] ++ members) := perm_foldl_insertMember h
  exact ⟨_, rfl, (hperm.map Prod.fst).nodup_iff.mpr h, fun _ _ => hperm.mem_iff⟩

end Json.Value

theorem OutgoingKind.label_injective {kind other : OutgoingKind} (h : kind.label = other.label) :
    kind = other := by
  cases kind <;> cases other <;> first | rfl | exact absurd h (by decide)

namespace Payload

variable {receiver receiver' mediaId mediaId' body body' : String} {kind kind' : OutgoingKind}
  {caption caption' fileName fileName' : Option String} {content content' : Json.Value}

/-! ## The members of a payload -/

/-- The members of a frame. -/
@[mk_iff]
inductive FrameMember (receiver : String) (kind : OutgoingKind) (content : Json.Value) :
    String → Json.Value → Prop
  | product : FrameMember receiver kind content "messaging_product" (.string "whatsapp")
  | recipient : FrameMember receiver kind content "recipient_type" (.string "individual")
  | receiver : FrameMember receiver kind content "to" (.string receiver)
  | type : FrameMember receiver kind content "type" (.string kind.label)
  | content : FrameMember receiver kind content kind.label content

/-- The members of the content of a text message. -/
@[mk_iff]
inductive TextMember (body : String) : String → Json.Value → Prop
  | previewUrl : TextMember body "preview_url" (.bool false)
  | body : TextMember body "body" (.string body)

/-- The members of the content of a message with an attachment: its id; the caption, unless it is
audio, and the file name of a document, if they are there and not empty. -/
@[mk_iff]
inductive MediaMember (kind : OutgoingKind) (mediaId : String) (caption fileName : Option String) :
    String → Json.Value → Prop
  | id : MediaMember kind mediaId caption fileName "id" (.string mediaId)
  | caption {s : String} : kind ≠ .audio → caption = some s → s ≠ "" →
    MediaMember kind mediaId caption fileName "caption" (.string s)
  | fileName {s : String} : kind = .document → fileName = some s → s ≠ "" →
    MediaMember kind mediaId caption fileName "filename" (.string s)

/-- What a text message holds inside its frame. -/
def textContent (body : String) : Json.Value :=
  .ofMembers [("preview_url", .bool false), ("body", .string body)]

/-- What a message with an attachment holds inside its frame. -/
def mediaContent (kind : OutgoingKind) (mediaId : String) (caption fileName : Option String) :
    Json.Value :=
  .ofMembers (("id", .string mediaId) ::
    (captionMember? kind caption).toList ++ (fileNameMember? kind fileName).toList)

theorem text_eq_frame (receiver body : String) :
    text receiver body = frame receiver .text (textContent body) := rfl

theorem frame_consistsOf (receiver : String) (kind : OutgoingKind) (content : Json.Value) :
    (frame receiver kind content).body.ConsistsOf (FrameMember receiver kind content) := by
  refine (Json.Value.ofMembers_consistsOf ?_).congr fun name v => ?_
  · -- No kind is called like another member of the frame.
    simp only [List.map_cons, List.map_nil]
    cases kind <;> decide
  · simp only [frameMember_iff, List.mem_cons, Prod.mk.injEq, List.not_mem_nil, or_false]

theorem textContent_consistsOf (body : String) :
    (textContent body).ConsistsOf (TextMember body) := by
  refine (Json.Value.ofMembers_consistsOf ?_).congr fun name v => ?_
  · simp only [List.map_cons, List.map_nil]
    decide
  · simp only [textMember_iff, List.mem_cons, Prod.mk.injEq, List.not_mem_nil, or_false]

/-! ## Captions and file names -/

/-- The caption that is carried: audio has none, and an empty one counts for nothing. -/
def carriedCaption? (kind : OutgoingKind) (caption : Option String) : Option String :=
  if kind = .audio then none else caption.filter (· ≠ "")

/-- The file name that is carried: only a document has one. -/
def carriedFileName? (kind : OutgoingKind) (fileName : Option String) : Option String :=
  if kind = .document then fileName.filter (· ≠ "") else none

theorem captionMember?_eq (kind : OutgoingKind) (caption : Option String) :
    captionMember? kind caption =
      (carriedCaption? kind caption).map fun s => ("caption", .string s) := by
  unfold captionMember? carriedCaption?
  split <;> rfl

theorem fileNameMember?_eq (kind : OutgoingKind) (fileName : Option String) :
    fileNameMember? kind fileName =
      (carriedFileName? kind fileName).map fun s => ("filename", .string s) := by
  unfold fileNameMember? carriedFileName?
  split <;> rfl

theorem carriedCaption?_eq_some_iff {s : String} :
    carriedCaption? kind caption = some s ↔ kind ≠ .audio ∧ caption = some s ∧ s ≠ "" := by
  unfold carriedCaption?
  by_cases hkind : kind = .audio <;> simp [hkind]

theorem carriedFileName?_eq_some_iff {s : String} :
    carriedFileName? kind fileName = some s ↔ kind = .document ∧ fileName = some s ∧ s ≠ "" := by
  unfold carriedFileName?
  by_cases hkind : kind = .document <;> simp [hkind]

theorem mediaContent_consistsOf (kind : OutgoingKind) (mediaId : String)
    (caption fileName : Option String) :
    (mediaContent kind mediaId caption fileName).ConsistsOf
      (MediaMember kind mediaId caption fileName) := by
  unfold mediaContent
  rw [captionMember?_eq, fileNameMember?_eq]
  refine (Json.Value.ofMembers_consistsOf ?_).congr fun name v => ?_
  · cases carriedCaption? kind caption <;> cases carriedFileName? kind fileName <;> simp
  · simp only [List.cons_append, List.mem_cons, List.mem_append, Option.mem_toList,
      Option.map_eq_some_iff, carriedCaption?_eq_some_iff, carriedFileName?_eq_some_iff,
      Prod.mk.injEq]
    constructor
    · rintro (⟨rfl, rfl⟩ | ⟨s, ⟨hkind, hs, hne⟩, rfl, rfl⟩ | ⟨s, ⟨hkind, hs, hne⟩, rfl, rfl⟩)
      exacts [.id, .caption hkind hs hne, .fileName hkind hs hne]
    · intro h
      cases h with
      | id => simp
      | caption hkind hs hne => simp [hkind, hs, hne]
      | fileName hkind hs hne => simp [hkind, hs, hne]

/-! ## Equal payloads -/

theorem frame_body_eq_iff :
    (frame receiver kind content).body = (frame receiver' kind' content').body ↔
      receiver = receiver' ∧ kind = kind' ∧ content = content' := by
  constructor
  · intro h
    have hto := to_frame receiver kind content
    have htype := type_frame receiver kind content
    have hcontent := content_frame receiver kind content
    rw [h, to_frame] at hto
    rw [h, type_frame] at htype
    obtain rfl : receiver' = receiver := by simpa using hto
    obtain rfl : kind' = kind := OutgoingKind.label_injective (by simpa using htype)
    rw [h, content_frame] at hcontent
    exact ⟨rfl, rfl, (Option.some.inj hcontent).symm⟩
  · rintro ⟨rfl, rfl, rfl⟩
    rfl

/-- A payload is known by its body. -/
theorem frame_eq_iff :
    frame receiver kind content = frame receiver' kind' content' ↔
      (frame receiver kind content).body = (frame receiver' kind' content').body := by
  refine ⟨congrArg Payload.body, fun h => ?_⟩
  obtain ⟨rfl, rfl, rfl⟩ := frame_body_eq_iff.mp h
  rfl

theorem textContent_eq_iff : textContent body = textContent body' ↔ body = body' := by
  constructor
  · intro h
    have hsame := (textContent_consistsOf body).iff (h ▸ textContent_consistsOf body')
    simpa [textMember_iff] using (hsame "body" (.string body)).mp .body
  · rintro rfl
    rfl

theorem mediaContent_eq_iff :
    mediaContent kind mediaId caption fileName = mediaContent kind mediaId' caption' fileName' ↔
      mediaId = mediaId' ∧ carriedCaption? kind caption = carriedCaption? kind caption' ∧
        carriedFileName? kind fileName = carriedFileName? kind fileName' := by
  constructor
  · intro h
    have hsame := (mediaContent_consistsOf kind mediaId caption fileName).iff
      (h ▸ mediaContent_consistsOf kind mediaId' caption' fileName')
    refine ⟨?_, Option.ext fun s => ?_, Option.ext fun s => ?_⟩
    · simpa [mediaMember_iff] using (hsame "id" (.string mediaId)).mp .id
    · simpa [mediaMember_iff, carriedCaption?_eq_some_iff] using hsame "caption" (.string s)
    · simpa [mediaMember_iff, carriedFileName?_eq_some_iff] using hsame "filename" (.string s)
  · rintro ⟨rfl, hcaption, hname⟩
    unfold mediaContent
    rw [captionMember?_eq, fileNameMember?_eq, hcaption, hname, ← captionMember?_eq,
      ← fileNameMember?_eq]

/-- No text message has an attachment's id. -/
theorem mediaContent_ne_textContent :
    mediaContent kind mediaId caption fileName ≠ textContent body := by
  intro h
  have hsame := (mediaContent_consistsOf kind mediaId caption fileName).iff
    (h ▸ textContent_consistsOf body)
  simpa [textMember_iff] using (hsame "id" (.string mediaId)).mp .id

/-- **A payload carries just what it was made from.** Whatever the kind of an attachment, the body of
its payload has the members of a frame for the receiver and the kind, and no others; the object under
the kind's name has the attachment's id, a caption unless it is audio, and a file name if it is a
document, where they are given and not empty, word for word, and no more. Two such payloads, or
their bodies alone, are the same just if receiver, kind, id and the caption and file name that are
carried are; none is the same as one for a text; and those for texts are the same just if receiver
and text are. -/
theorem payload_exact (receiver : String) (kind : OutgoingKind) (mediaId : String)
    (caption fileName : Option String) :
    let payload := media receiver kind mediaId caption fileName
    payload.receiver = receiver ∧ payload.kind = kind ∧
    (∃ content, payload.body.ConsistsOf (FrameMember receiver kind content) ∧
      content.ConsistsOf (MediaMember kind mediaId caption fileName)) ∧
    (∀ receiver' kind' mediaId' caption' fileName',
      let other := media receiver' kind' mediaId' caption' fileName'
      let same := receiver = receiver' ∧ kind = kind' ∧ mediaId = mediaId' ∧
        carriedCaption? kind caption = carriedCaption? kind' caption' ∧
        carriedFileName? kind fileName = carriedFileName? kind' fileName'
      (payload.body = other.body ↔ same) ∧ (payload = other ↔ same)) ∧
    (∀ receiver' body,
      payload.body ≠ (text receiver' body).body ∧ payload ≠ text receiver' body) ∧
    ∀ r body r' body',
      ((text r body).body = (text r' body').body ↔ r = r' ∧ body = body') ∧
      (text r body = text r' body' ↔ r = r' ∧ body = body') := by
  intro payload
  have htext : ∀ receiver' body, payload.body ≠ (text receiver' body).body := by
    intro receiver' body h
    exact mediaContent_ne_textContent (frame_body_eq_iff.mp h).2.2
  refine ⟨rfl, rfl, ⟨_, frame_consistsOf _ _ _, mediaContent_consistsOf _ _ _ _⟩, ?_, ?_, ?_⟩
  · intro receiver' kind' mediaId' caption' fileName' other same
    have hbody : payload.body = other.body ↔ same := by
      refine frame_body_eq_iff.trans (and_congr_right fun _ => and_congr_right fun hkind => ?_)
      subst hkind
      exact mediaContent_eq_iff
    exact ⟨hbody, frame_eq_iff.trans hbody⟩
  · exact fun r body => ⟨htext r body, fun h => htext r body (congrArg Payload.body h)⟩
  · intro r body r' body'
    have hbody : (text r body).body = (text r' body').body ↔ r = r' ∧ body = body' := by
      rw [text_eq_frame, text_eq_frame, frame_body_eq_iff, textContent_eq_iff]
      simp
    exact ⟨hbody, frame_eq_iff.trans hbody⟩

end Payload

end RoomBridge
