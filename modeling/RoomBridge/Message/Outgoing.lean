import RoomBridge.Failure
import RoomBridge.Identifier
import RoomBridge.Json.Value

/-!
# Outgoing messages

A message that somebody wrote in a room, and the request that the cloud wants for it: a frame with
the receiver and the kind, and under the kind's own name the content.
-/

namespace RoomBridge

/-- Kinds of messages the cloud accepts. -/
inductive OutgoingKind
  | text
  | image
  | video
  | audio
  | document
  deriving DecidableEq, Repr

namespace OutgoingKind

/-- The cloud's name of a kind. -/
def label : OutgoingKind → String
  | text => "text"
  | image => "image"
  | video => "video"
  | audio => "audio"
  | document => "document"

/-- Everything but text has an attachment. -/
def isMedia (kind : OutgoingKind) : Bool := kind ≠ text

/-- The kind that a room's message type asks for. -/
def ofRoomType (msgtype : String) : Except Failure OutgoingKind :=
  match msgtype with
  | "m.text" => .ok text
  | "m.image" => .ok image
  | "m.video" => .ok video
  | "m.audio" => .ok audio
  | "m.file" => .ok document
  | _ => .error (.unsupportedMessageType msgtype)

/-- The message type of a room that asks for a kind. -/
def roomType : OutgoingKind → String
  | text => "m.text"
  | image => "m.image"
  | video => "m.video"
  | audio => "m.audio"
  | document => "m.file"

theorem ofRoomType_eq_ok_iff {msgtype : String} {kind : OutgoingKind} :
    ofRoomType msgtype = .ok kind ↔ msgtype = kind.roomType := by
  constructor
  · intro h
    unfold ofRoomType at h
    split at h <;> cases h <;> rfl
  · rintro rfl
    cases kind <;> rfl

/-- A message type that asks for no kind is refused by its name. -/
theorem ofRoomType_of_ne {msgtype : String} (h : ∀ kind : OutgoingKind, msgtype ≠ kind.roomType) :
    ofRoomType msgtype = .error (.unsupportedMessageType msgtype) := by
  unfold ofRoomType
  split
  · exact absurd rfl (h text)
  · exact absurd rfl (h image)
  · exact absurd rfl (h video)
  · exact absurd rfl (h audio)
  · exact absurd rfl (h document)
  · rfl

end OutgoingKind

/-- A message written in a room. -/
structure RoomMessage where
  eventId : String
  sender : String
  msgtype : String
  body : String
  fileName : Option String
  url : Option ContentHandle
  deriving DecidableEq, Repr

/-- A request to send a message. -/
structure Payload where
  receiver : String
  kind : OutgoingKind
  body : Json.Value
  deriving Repr

namespace Payload

/-- The frame of every request around a content. -/
def frame (receiver : String) (kind : OutgoingKind) (content : Json.Value) : Payload where
  receiver
  kind
  body := .ofMembers [
    ("messaging_product", .string "whatsapp"),
    ("recipient_type", .string "individual"),
    ("to", .string receiver),
    ("type", .string kind.label),
    (kind.label, content)]

/-- A text message. -/
def text (receiver body : String) : Payload :=
  frame receiver .text (.ofMembers [("preview_url", .bool false), ("body", .string body)])

/-- A member for a text that is there and not empty. -/
def member? (name : String) (value : Option String) : Option (String × Json.Value) :=
  (value.filter (· ≠ "")).map fun s => (name, .string s)

/-- The caption that counts: audio cannot carry one. -/
def captionMember? (kind : OutgoingKind) (caption : Option String) :
    Option (String × Json.Value) :=
  if kind = .audio then none else member? "caption" caption

/-- The file name that counts: only a document has one. -/
def fileNameMember? (kind : OutgoingKind) (fileName : Option String) :
    Option (String × Json.Value) :=
  if kind = .document then member? "filename" fileName else none

/-- A message with an attachment that the cloud already has. -/
def media (receiver : String) (kind : OutgoingKind) (mediaId : String)
    (caption fileName : Option String) : Payload :=
  frame receiver kind (.ofMembers (
    ("id", .string mediaId) ::
      (captionMember? kind caption).toList ++ (fileNameMember? kind fileName).toList))

/-! ## Members -/

theorem to_frame (receiver : String) (kind : OutgoingKind) (content : Json.Value) :
    (frame receiver kind content).body.member? "to" = some (.string receiver) := by
  refine Json.Value.member?_ofMembers [_, _] ?_
  cases kind <;> simp [OutgoingKind.label]

theorem type_frame (receiver : String) (kind : OutgoingKind) (content : Json.Value) :
    (frame receiver kind content).body.member? "type" = some (.string kind.label) := by
  refine Json.Value.member?_ofMembers [_, _, _] ?_
  cases kind <;> simp [OutgoingKind.label]

theorem content_frame (receiver : String) (kind : OutgoingKind) (content : Json.Value) :
    (frame receiver kind content).body.member? kind.label = some content :=
  Json.Value.member?_ofMembers [_, _, _, _] (by simp)

/-- The members beside it are never called like the id of the attachment. -/
theorem id_media (receiver : String) (kind : OutgoingKind) (mediaId : String)
    (caption fileName : Option String) :
    ((media receiver kind mediaId caption fileName).body.member? kind.label).bind
      (·.member? "id") = some (.string mediaId) := by
  have hname : ∀ {name : String} {value : Option String} {p : String × Json.Value},
      member? name value = some p → p.1 = name := by
    intro name value p h
    obtain ⟨s, -, rfl⟩ := Option.map_eq_some_iff.mp h
    rfl
  unfold media
  rw [content_frame, Option.bind_some]
  refine Json.Value.member?_ofMembers [] fun p hp => ?_
  rcases List.mem_append.mp hp with hp | hp
  · rw [Option.mem_toList, captionMember?] at hp
    split at hp
    · cases hp
    · rw [hname hp]
      decide
  · rw [Option.mem_toList, fileNameMember?] at hp
    split at hp
    · rw [hname hp]
      decide
    · cases hp

end Payload

/-- What is known of a message the cloud has taken. -/
structure SendReceipt where
  messageId : MessageId
  cloudId : String
  kind : OutgoingKind
  roomSender : String
  deriving DecidableEq, Repr

end RoomBridge
