import RoomBridge.Delivery
import RoomBridge.Registration
import RoomBridge.Sending
import RoomBridge.Service.Store

/-!
# Commands

All that the bridge can be told to do, and what it reports. `Command.perform` is the action of a
command, `Command.runAll` the runs of several commands in one world.
-/

namespace RoomBridge

inductive Command
  | dispatch (body : Bytes)
  | receive (body : Bytes)
  | fetch (session : Session) (mediaId : String)
  | toRoomStore (content : Bytes) (room : RoomId)
  | toCloud (session : Session) (content : Bytes) (mimeType : String) (category : MediaCategory)
  | handleToCloud (session : Session) (handle : ContentHandle)
  | notifyFailure (room : RoomId) (direction : RelayDirection) (failure : Failure)
  | convert (session : Session) (room : RoomId) (chat : ChatKey) (message : RoomMessage)
  | send (session : Session) (room : RoomId) (chat : ChatKey) (message : RoomMessage)
  | register (identity : String) (request : RegistrationRequest)
  | registerJson (identity : String) (body : Bytes)

inductive Report
  | delivery (d : Delivery)
  | acknowledgement (a : Delivery.Acknowledgement)
  | content (result : Except Failure Bytes)
  | descriptor (result : Except Failure MediaDescriptor)
  | mediaId (result : Except Failure String)
  | relayed (result : Except Failure (String × MediaDescriptor))
  | notified
  | payload (result : Except Failure Payload)
  | receipt (result : Except Failure SendReceipt)
  | registration (r : Registration)

namespace Command

/-- What the bridge does at a command. -/
def perform (settings : Settings) : Command → Action Report
  | dispatch body => .delivery <$> Delivery.dispatch settings body
  | receive body => .acknowledgement <$> Delivery.receive settings body
  | fetch session mediaId => .content <$> (Relay.fetch settings.maxFileSize session mediaId).run
  | toRoomStore content room =>
    .descriptor <$> (Relay.toRoomStore settings.maxFileSize content room).run
  | toCloud session content mimeType category =>
    .mediaId <$> (Relay.toCloud settings.maxFileSize session content mimeType category).run
  | handleToCloud session handle =>
    .relayed <$> (Relay.handleToCloud settings.maxFileSize session handle).run
  | notifyFailure room direction failure =>
    (fun _ => .notified) <$> Relay.notifyFailure room direction failure
  | convert session room chat message =>
    .payload <$> (Sending.convert settings session room chat message).run
  | send session room chat message =>
    .receipt <$> (Sending.send settings session room chat message).run
  | register identity request => .registration <$> Registration.register identity request
  | registerJson identity body => .registration <$> Registration.registerJson identity body

/-- Runs commands one after the other. -/
def runAll {σ : Type} (settings : Settings) (world : World σ) :
    List Command → σ → List (Run σ Report)
  | [], _ => []
  | c :: cs, s =>
    let r := (c.perform settings).run world s
    r :: runAll settings world cs r.state

end Command

end RoomBridge
