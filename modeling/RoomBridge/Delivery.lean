import RoomBridge.DisplayName
import RoomBridge.Envelope.Reader
import RoomBridge.Relay

/-!
# Deliveries

A delivery is one body posted by the cloud. It is accepted if it holds one change of one entry with
at least one message, and the entry's account is registered. Its messages then go to their rooms one
by one; the first failure ends the delivery, and what was queued before stays queued. The room of a
sender is asked for once a delivery.

* `Delivery.accept` : what a delivery must have;
* `Delivery.deliverMessage`, `Delivery.deliverAll` : one message, all of them;
* `Delivery.dispatch` : the whole delivery, `Delivery.acknowledge` its answer to the cloud.
-/

namespace RoomBridge

/-- How a delivery ended. -/
structure Delivery where
  /-- The account it was for, once that is known. -/
  businessId : Option String
  /-- The messages handed to the queues of their rooms, in order. -/
  queued : List MessageId
  /-- Why it ended early, if it did. -/
  failure : Option Failure
  deriving DecidableEq, Repr

namespace Delivery

/-! ## Acceptance -/

/-- The change that a delivery is about. -/
structure Accepted where
  businessId : String
  value : ChangeValue
  deriving Repr

/-- The one change of the one entry of an envelope, if it has messages. -/
def acceptEnvelope (envelope : Envelope) : Except Failure Accepted :=
  match envelope.entries with
  | [entry] =>
    match entry.changes with
    | [change] =>
      if change.value.messages.isEmpty then .error .noMessages
      else .ok ⟨entry.id, change.value⟩
    | _ => .error .multipleChanges
  | _ => .error .multipleEntries

/-- What a body must be to be delivered. -/
def accept (body : Bytes) : Except Failure Accepted :=
  match Envelope.ofJson? body with
  | none => .error (.malformedPayload "not a webhook envelope")
  | some envelope => acceptEnvelope envelope

/-- The session of the account that a delivery is for. -/
def findSession (businessId : String) : Attempt Session :=
  if Text.blank businessId then throw (.unregisteredAccount businessId)
  else do
    match ← Attempt.ask (.findSession .businessId businessId) with
    | some session => return session
    | none => throw (.unregisteredAccount businessId)

/-! ## One message -/

/-- The rooms of the senders met so far in a delivery. -/
abbrev Portals := List (String × RoomId)

/-- The name that a sender's contact gives; empty is no name. -/
def profileName? (value : ChangeValue) (sender : String) : Option String :=
  ((value.contactOf? sender).map (·.profileName)).filter (· ≠ "")

/-- The request for the room of a sender. -/
def portalRequest (settings : Settings) (session : Session) (sender : String)
    (profileName : Option String) : PortalRequest where
  chat := .ofAccount sender
  name := (ContactCard.ofProfile sender profileName).displayName settings.displayNameTemplate
  remoteUser := ⟨sender⟩
  remoteName := profileName
  login := session.bridgeIdentity
  powerLevels := settings.powerLevels
  defaultUserLevel := settings.defaultUserLevel

/-- The room of a sender, asked for only if it is not known yet. -/
def portal (settings : Settings) (session : Session) (portals : Portals) (sender : String)
    (profileName : Option String) : Attempt (RoomId × Portals) :=
  match portals.lookup sender with
  | some room => return (room, portals)
  | none => do
    let room ← Attempt.ask (.ensurePortal (portalRequest settings session sender profileName))
    return (room, (sender, room) :: portals)

/-- Tells a room of a failure that loses an attachment. -/
def announce (room : RoomId) (failure : Failure) : Action Unit :=
  if failure.losesMedia then Relay.notifyFailure room .toRoom failure else return ()

/-- Gets an attachment and hands it to the room side. -/
def fetchToRoom (settings : Settings) (session : Session) (mediaId : String) (room : RoomId) :
    Attempt MediaDescriptor := do
  let content ← Relay.fetch settings.maxFileSize session mediaId
  Relay.toRoomStore settings.maxFileSize content room

/-- Gets an attachment and hands it to the room side; the room is told if it is lost. -/
def relayMedia (settings : Settings) (session : Session) (mediaId : String) (room : RoomId) :
    Attempt MediaDescriptor := do
  match ← (fetchToRoom settings session mediaId room).settle with
  | .ok descriptor => return descriptor
  | .error failure => do
    announce room failure
    throw failure

/-- A message with an attachment; without a usable object it can only be announced. -/
def convertMedia (settings : Settings) (session : Session) (m : CloudMessage) (kind : MediaKind)
    (origin : Origin) (room : RoomId) : Attempt IncomingMessage :=
  match (m.media? kind).filter fun media => !Text.blank media.id with
  | none => do
    Action.note ⟨.warn, "media message without media object",
      [("message_id", m.id), ("kind", kind.label)]⟩
    return origin.unknown
  | some media => do
    let descriptor ← relayMedia settings session media.id room
    return origin.attachment kind media descriptor

/-- A message as its room receives it. -/
def convert (settings : Settings) (session : Session) (m : CloudMessage) (route : Route)
    (origin : Origin) (room : RoomId) : Attempt IncomingMessage :=
  match route with
  | .text =>
    match m.text with
    | some text => return origin.text text.body
    | none => return origin.unknown
  | .media kind => convertMedia settings session m kind origin room

/-- How a message is carried over; without an id it is none. -/
def routeOf (m : CloudMessage) : Except Failure Route :=
  if Text.blank m.id then .error .emptyMessageData else Route.ofTag m.tag

/-- Brings a message to the room of its sender. -/
def deliverMessage (settings : Settings) (session : Session) (value : ChangeValue)
    (portals : Portals) (m : CloudMessage) : Attempt (MessageId × Portals) := do
  let route ← routeOf m
  Action.note ⟨.debug, "routing message",
    [("message_id", m.id), ("kind", m.tag), ("from", m.sender)]⟩
  let profileName := profileName? value m.sender
  let (room, portals) ← portal settings session portals m.sender profileName
  let origin := Origin.ofCloud (.ofAccount m.sender) m profileName
  let message ← convert settings session m route origin room
  Attempt.ask (.queueMessage room message)
  Action.note ⟨.debug, "queued message", [("message_id", message.id.text), ("room", room.text)]⟩
  return (message.id, portals)

/-! ## The whole delivery -/

/-- The log line for what ended a delivery. -/
def failureLine (failure : Failure) (businessId : Option String) : LogLine :=
  let fields := [("business_id", businessId.getD "-"), ("error", failure.message)]
  if failure.isNoise then ⟨.warn, "ignoring webhook", fields⟩
  else
    match failure with
    | .unsupportedMessageType _ | .emptyMessageData => ⟨.warn, "stopped webhook batch", fields⟩
    | _ => ⟨.error, "webhook dispatch failed", fields⟩

/-- Delivers messages in order, up to the first that fails. -/
def deliverAll (settings : Settings) (session : Session) (businessId : String)
    (value : ChangeValue) : Portals → List CloudMessage → Action (List MessageId × Option Failure)
  | _, [] => return ([], none)
  | portals, m :: ms => do
    match ← (deliverMessage settings session value portals m).run with
    | .error failure =>
      Action.note (failureLine failure (some businessId))
      return ([], some failure)
    | .ok (id, portals) =>
      let (ids, failure) ← deliverAll settings session businessId value portals ms
      return (id :: ids, failure)

/-- Delivers an accepted change. -/
def dispatchAccepted (settings : Settings) (accepted : Accepted) : Action Delivery := do
  match ← (findSession accepted.businessId).run with
  | .error failure =>
    Action.note (failureLine failure (some accepted.businessId))
    return ⟨some accepted.businessId, [], some failure⟩
  | .ok session =>
    let (queued, failure) ←
      deliverAll settings session accepted.businessId accepted.value [] accepted.value.messages
    Action.note ⟨.info, "webhook dispatched",
      [("business_id", accepted.businessId), ("queued", Nat.repr queued.length),
        ("total", Nat.repr accepted.value.messages.length)]⟩
    return ⟨some accepted.businessId, queued, failure⟩

/-- Delivers a body. -/
def dispatch (settings : Settings) (body : Bytes) : Action Delivery :=
  match accept body with
  | .error failure => do
    Action.note (failureLine failure none)
    return ⟨none, [], some failure⟩
  | .ok accepted => dispatchAccepted settings accepted

/-! ## The acknowledgement -/

/-- The answer to the cloud. -/
structure Acknowledgement where
  status : Nat
  message : String
  deriving DecidableEq, Repr

/-- A delivery is acknowledged however it ended, so that it is not sent again. -/
def acknowledge (d : Delivery) : Acknowledgement where
  status := 200
  message :=
    match d.failure with
    | none => "dispatched " ++ Nat.repr d.queued.length ++ " message(s)"
    | some failure => failure.message

/-- Delivers a body and answers the cloud. -/
def receive (settings : Settings) (body : Bytes) : Action Acknowledgement :=
  return (← dispatch settings body).acknowledge

end Delivery

end RoomBridge
