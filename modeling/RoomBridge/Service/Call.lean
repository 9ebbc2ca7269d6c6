import RoomBridge.Message.Incoming
import RoomBridge.Message.Outgoing
import RoomBridge.SessionTable
import RoomBridge.Settings

/-!
# Calls to other services

All that the bridge can ask of others: the session store, the cloud, the room store, the queues of
the rooms, and whoever binds sessions. `Call.Answer` is the type of the answer to a call; every call
may fail instead.
-/

namespace RoomBridge

/-- Where an attachment can be downloaded for a while, and what the cloud says about it. -/
structure MediaLink where
  url : String
  mimeType : Option String
  sha256 : Option String
  fileSize : Option Nat
  deriving DecidableEq, Repr

/-- An attachment on its way to the cloud. -/
structure CloudUpload where
  content : Bytes
  fileName : String
  mimeType : String
  category : String
  deriving DecidableEq, Repr

/-- An attachment on its way to the room side's media store. -/
structure RoomUpload where
  content : Bytes
  fileName : String
  mimeType : String
  deriving DecidableEq, Repr

/-- What is needed to find or make the room of a chat. -/
structure PortalRequest where
  chat : ChatKey
  name : String
  remoteUser : UserId
  remoteName : Option String
  login : String
  powerLevels : PowerLevels
  defaultUserLevel : Int
  deriving DecidableEq, Repr

/-- The services the bridge talks to. -/
inductive Service
  | store
  | binder
  | cloud
  | rooms
  | queue
  deriving DecidableEq, Repr

/-- A call to one of the services. -/
inductive Call
  | findSession (key : SessionKey) (value : String)
  | insertSession (session : Session)
  | removeSession (businessId : String)
  | bind (session : Session)
  | mediaLink (session : Session) (mediaId : String)
  | downloadMedia (session : Session) (url : String)
  | uploadMedia (session : Session) (upload : CloudUpload)
  | sendMessage (session : Session) (payload : Payload)
  | ensurePortal (request : PortalRequest)
  | uploadContent (room : RoomId) (upload : RoomUpload)
  | downloadContent (handle : ContentHandle)
  | sendNotice (room : RoomId) (body : String)
  | queueMessage (room : RoomId) (message : IncomingMessage)

namespace Call

/-- What a call answers when it does not fail. The two calls that fetch an attachment answer nothing
when they are given up because the delivery has been cancelled. -/
abbrev Answer : Call → Type
  | findSession _ _ => Option Session
  | insertSession _ => Session
  | removeSession _ => Unit
  | bind _ => Unit
  | mediaLink _ _ => Option MediaLink
  | downloadMedia _ _ => Option Bytes
  | uploadMedia _ _ => String
  | sendMessage _ _ => String
  | ensurePortal _ => RoomId
  | uploadContent _ _ => ContentHandle
  | downloadContent _ => Bytes
  | sendNotice _ _ => Unit
  | queueMessage _ _ => Unit

/-- A call's answer, or why there is none. -/
abbrev Reply (c : Call) : Type := Except Failure c.Answer

/-- The service a call goes to. -/
def service : Call → Service
  | findSession _ _ | insertSession _ | removeSession _ => .store
  | bind _ => .binder
  | mediaLink _ _ | downloadMedia _ _ | uploadMedia _ _ | sendMessage _ _ => .cloud
  | ensurePortal _ | uploadContent _ _ | downloadContent _ | sendNotice _ _ => .rooms
  | queueMessage _ _ => .queue

end Call

end RoomBridge
