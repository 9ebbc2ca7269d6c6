import RoomBridge.Failure

/-!
# Kinds of messages and media

A message's type tag alone decides what it is: `Route.ofTag`. Attachments come in five kinds, which
the cloud's upload interface knows as four categories.
-/

namespace RoomBridge

/-- Coarse classes of media. -/
inductive MediaCategory
  | image
  | video
  | audio
  | document
  deriving DecidableEq, Repr

def MediaCategory.label : MediaCategory → String
  | .image => "image"
  | .video => "video"
  | .audio => "audio"
  | .document => "document"

/-- Kinds of attachments. -/
inductive MediaKind
  | image
  | video
  | audio
  | document
  | sticker
  deriving DecidableEq, Repr

def MediaKind.label : MediaKind → String
  | .image => "image"
  | .video => "video"
  | .audio => "audio"
  | .document => "document"
  | .sticker => "sticker"

/-- A sticker is shown as an image. -/
def MediaKind.category : MediaKind → MediaCategory
  | .image | .sticker => .image
  | .video => .video
  | .audio => .audio
  | .document => .document

/-- What a room is told a message is. -/
inductive MessageKind
  | text
  | media (kind : MediaKind)
  | unknown
  deriving DecidableEq, Repr

def MessageKind.label : MessageKind → String
  | .text => "text"
  | .media kind => kind.label
  | .unknown => "unknown"

/-- How a message is carried over. -/
inductive Route
  | text
  | media (kind : MediaKind)
  deriving DecidableEq, Repr

/-- The route that a message's type tag asks for. -/
def Route.ofTag (tag : String) : Except Failure Route :=
  match tag with
  | "text" => .ok .text
  | "image" => .ok (.media .image)
  | "video" => .ok (.media .video)
  | "audio" => .ok (.media .audio)
  | "document" => .ok (.media .document)
  | "sticker" => .ok (.media .sticker)
  | _ => .error (.unsupportedMessageType tag)

/-- The type tag that asks for a route. -/
def Route.label : Route → String
  | .text => "text"
  | .media kind => kind.label

theorem Route.ofTag_eq_ok_iff {tag : String} {route : Route} :
    ofTag tag = .ok route ↔ tag = route.label := by
  constructor
  · intro h
    unfold ofTag at h
    split at h <;> cases h <;> rfl
  · rintro rfl
    cases route with
    | text => rfl
    | media kind => cases kind <;> rfl

theorem Route.label_injective {r q : Route} (h : r.label = q.label) : r = q := by
  have hr := ofTag_eq_ok_iff.mpr h
  rw [ofTag_eq_ok_iff.mpr rfl] at hr
  exact Except.ok.inj hr

/-- A tag that asks for no route is refused by its name. -/
theorem Route.ofTag_of_ne {tag : String} (h : ∀ route : Route, tag ≠ route.label) :
    ofTag tag = .error (.unsupportedMessageType tag) := by
  unfold ofTag
  split
  · exact absurd rfl (h .text)
  · exact absurd rfl (h (.media .image))
  · exact absurd rfl (h (.media .video))
  · exact absurd rfl (h (.media .audio))
  · exact absurd rfl (h (.media .document))
  · exact absurd rfl (h (.media .sticker))
  · rfl

end RoomBridge
