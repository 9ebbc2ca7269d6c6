import RoomBridge.Json.Value
import RoomBridge.Media.Kind

/-!
# Webhook envelopes

What the cloud posts: entries, one a business account, with changes, each carrying messages and the
profiles of people who wrote them. Nothing here has to be given; what a delivery must have is
checked where it is delivered.
-/

namespace RoomBridge

/-- The text of a text message. -/
structure TextBody where
  body : String
  deriving DecidableEq, Repr

/-- An attachment as its sender declares it. -/
structure MediaObject where
  id : String
  mimeType : Option String
  sha256 : Option String
  caption : Option String
  fileName : Option String
  animated : Option Bool
  voice : Option Bool
  deriving DecidableEq, Repr

/-- A message of the cloud. Its tag says which of the objects counts. -/
structure CloudMessage where
  sender : String
  id : String
  timestamp : String
  tag : String
  text : Option TextBody
  image : Option MediaObject
  video : Option MediaObject
  audio : Option MediaObject
  document : Option MediaObject
  sticker : Option MediaObject
  deriving DecidableEq, Repr

/-- The attachment of a kind. -/
def CloudMessage.media? (m : CloudMessage) : MediaKind → Option MediaObject
  | .image => m.image
  | .video => m.video
  | .audio => m.audio
  | .document => m.document
  | .sticker => m.sticker

/-- The name under which an account shows itself. -/
structure Contact where
  profileName : String
  waId : String
  deriving DecidableEq, Repr

/-- The phone that a change is about. -/
structure PhoneMetadata where
  displayPhoneNumber : String
  phoneNumberId : String
  deriving DecidableEq, Repr

structure ChangeValue where
  messagingProduct : String
  metadata : Option PhoneMetadata
  contacts : List Contact
  messages : List CloudMessage
  statuses : List Json.Value
  deriving Repr

/-- A change that holds nothing. -/
def ChangeValue.empty : ChangeValue := ⟨"", none, [], [], []⟩

/-- The first contact that is exactly the account `sender`. -/
def ChangeValue.contactOf? (value : ChangeValue) (sender : String) : Option Contact :=
  value.contacts.find? (·.waId = sender)

structure Change where
  field : String
  value : ChangeValue
  deriving Repr

/-- What happened at one business account. -/
structure Entry where
  id : String
  changes : List Change
  deriving Repr

structure Envelope where
  object : String
  entries : List Entry
  deriving Repr

end RoomBridge
