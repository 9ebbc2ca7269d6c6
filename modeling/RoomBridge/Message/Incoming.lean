import RoomBridge.Envelope
import RoomBridge.Identifier
import RoomBridge.Instant
import RoomBridge.Media.Descriptor
import RoomBridge.Notice

/-!
# Incoming messages

A message of the cloud as a room receives it. `Origin` is what every such message takes over from the
cloud's; text, attachment and notice differ in the rest.
-/

namespace RoomBridge

/-- A message for a room. -/
structure IncomingMessage where
  id : MessageId
  kind : MessageKind
  sender : UserId
  senderName : Option String
  senderOrdinal : Nat
  remoteId : String
  timestamp : Instant
  body : String
  fileName : Option String
  media : Option MediaDescriptor
  deriving DecidableEq, Repr

/-- Where a message comes from. -/
structure Origin where
  chat : ChatId
  sender : UserId
  senderName : Option String
  remoteId : String
  timestamp : Instant
  deriving DecidableEq, Repr

namespace Origin

/-- The origin of a cloud message in a chat; a blank name is no name. -/
def ofCloud (chat : ChatId) (m : CloudMessage) (senderName : Option String) : Origin where
  chat
  sender := ⟨m.sender⟩
  senderName := senderName.bind Text.nonblank?
  remoteId := m.id
  timestamp := Instant.ofText m.timestamp

/-- The id of the message. -/
def messageId (o : Origin) : MessageId := .ofParts o.chat o.sender o.remoteId

/-- A message without an attachment. -/
def message (o : Origin) (kind : MessageKind) (body : String) : IncomingMessage where
  id := o.messageId
  kind
  sender := o.sender
  senderName := o.senderName
  senderOrdinal := o.sender.ordinal
  remoteId := o.remoteId
  timestamp := o.timestamp
  body
  fileName := none
  media := none

/-- A text message. -/
def text (o : Origin) (body : String) : IncomingMessage := o.message .text body

/-- The notice for a message that cannot be shown. -/
def unknown (o : Origin) : IncomingMessage := o.message .unknown Notice.unknownMessage

/-- The name of an attached file: a document may bring its own, everything else is called by its
kind. -/
def fileName (kind : MediaKind) (media : MediaObject) (descriptor : MediaDescriptor) : String :=
  match kind, (media.fileName.map Text.trim).bind Text.nonblank? with
  | .document, some name => name
  | _, _ => kind.label ++ "." ++ descriptor.extension

/-- A message with an attachment; what its sender declared is only kept for the record. -/
def attachment (o : Origin) (kind : MediaKind) (media : MediaObject)
    (descriptor : MediaDescriptor) : IncomingMessage :=
  { o.message (.media kind) (media.caption.getD "") with
    fileName := some (fileName kind media descriptor)
    media := some { descriptor with
      declaredMime := descriptor.declaredMime.or media.mimeType } }

end Origin

end RoomBridge
