import RoomBridge.Relay

/-!
# Sending

A message written in a room goes to the cloud as a payload. An attachment is brought to the cloud
first; if it is lost, the room is told.
-/

namespace RoomBridge.Sending

/-- The receiver that stands for everybody. -/
def statusBroadcast : String := "status@broadcast"

/-- Brings the attachment of a message to the cloud and returns its id there. -/
def relayAttachment (settings : Settings) (session : Session) (m : RoomMessage) :
    Attempt String :=
  match m.url.filter fun handle => handle.text ≠ "" with
  | none => throw (.missingField "url")
  | some handle => do
    let (mediaId, _) ← Relay.handleToCloud settings.maxFileSize session handle
    return mediaId

/-- Whether a message may be sent, and as what. -/
def kindFor (settings : Settings) (chat : ChatKey) (m : RoomMessage) :
    Except Failure OutgoingKind :=
  match OutgoingKind.ofRoomType m.msgtype with
  | .error failure => .error failure
  | .ok kind =>
    if settings.statusBroadcastDisabled && chat.receiver == statusBroadcast then
      .error .statusBroadcastDisabled
    else .ok kind

/-- The payload for a message with an attachment; the room is told if it is lost. -/
def convertMedia (settings : Settings) (session : Session) (room : RoomId) (chat : ChatKey)
    (kind : OutgoingKind) (m : RoomMessage) : Attempt Payload := do
  match ← (relayAttachment settings session m).settle with
  | .error failure => do
    Relay.notifyFailure room .toCloud failure
    throw failure
  | .ok mediaId => return .media chat.receiver kind mediaId (some m.body) m.fileName

/-- The payload for a message. -/
def convert (settings : Settings) (session : Session) (room : RoomId) (chat : ChatKey)
    (m : RoomMessage) : Attempt Payload := do
  let kind ← kindFor settings chat m
  if kind.isMedia then convertMedia settings session room chat kind m
  else return .text chat.receiver m.body

/-- Sends a payload. -/
def post (session : Session) (m : RoomMessage) (payload : Payload) : Attempt String := do
  match ← (Attempt.ask (.sendMessage session payload)).settle with
  | .ok cloudId => return cloudId
  | .error failure => do
    Action.note ⟨.error, "cloud send failed",
      [("event_id", m.eventId), ("to", payload.receiver), ("error", failure.message)]⟩
    throw failure

/-- Sends a message. -/
def send (settings : Settings) (session : Session) (room : RoomId) (chat : ChatKey)
    (m : RoomMessage) : Attempt SendReceipt := do
  let payload ← convert settings session room chat m
  let cloudId ← post session m payload
  let messageId := MessageId.ofParts chat.chat ⟨session.phoneId⟩ cloudId
  Action.note ⟨.info, "sent message to cloud",
    [("event_id", m.eventId), ("message_id", messageId.text), ("kind", payload.kind.label)]⟩
  return ⟨messageId, cloudId, payload.kind, m.sender⟩

end RoomBridge.Sending
