import RoomBridge.Service.Action

/-!
# Relaying media

Attachments go through the bridge in two directions. `fetch` gets one from the cloud, `toRoomStore`
hands one to the room side, `toCloud` and `handleToCloud` bring one to the cloud. Nothing empty or
larger than the limit is handed on, and a content's type is read off the content. `notifyFailure`
tells a room that an attachment is lost.
-/

namespace RoomBridge

/-- Where an attachment was going. -/
inductive RelayDirection
  | toRoom
  | toCloud
  deriving DecidableEq, Repr

def RelayDirection.label : RelayDirection → String
  | .toRoom => "ToRoom"
  | .toCloud => "ToCloud"

/-- The notice for an attachment lost in a direction. -/
def RelayDirection.notice (reason : String) : RelayDirection → String
  | .toRoom => Notice.mediaNotReceived reason
  | .toCloud => Notice.mediaNotSent reason

/-- A failure met while fetching, told as one of the fetch. -/
def Failure.duringFetch (step : FetchStep) : Failure → Failure
  | mediaFetchFailed step reason => mediaFetchFailed step reason
  | mediaTooLarge size max => mediaTooLarge size max
  | other => mediaFetchFailed step other.message

/-- A failure met while uploading, told as one of the upload. -/
def Failure.duringUpload : Failure → Failure
  | mediaUploadFailed reason => mediaUploadFailed reason
  | other => mediaUploadFailed other.message

namespace Relay

/-- A step of a fetch that was given up. -/
def givenUp (step : FetchStep) : Failure := .mediaFetchFailed step "cancelled"

/-- Refuses a size above the limit. -/
def checkSize (limit size : Nat) : Except Failure Unit :=
  if limit < size then .error (.mediaTooLarge size limit) else .ok ()

/-- Refuses what is empty or above the limit. -/
def checkContent (limit : Nat) (content : Bytes) : Except Failure Unit :=
  if content.isEmpty then .error .emptyMedia else checkSize limit content.length

/-! ## From the cloud -/

/-- One step of a fetch: not begun once the delivery is cancelled, and given up if it is cancelled
meanwhile. -/
def fetchStep {α : Type} (step : FetchStep) (request : Attempt (Option α)) : Attempt α := do
  if ← Action.cancelled then throw (givenUp step)
  else
    match ← request.orElseFail (Failure.duringFetch step) with
    | some answer => return answer
    | none => throw (givenUp step)

/-- A link that can be followed: it has an address and does not declare too large a size. -/
def checkLink (limit : Nat) (link : MediaLink) : Except Failure Unit :=
  if Text.blank link.url then
    .error (.mediaFetchFailed .metadata "response carried no download url")
  else checkSize limit (link.fileSize.getD 0)

/-- Gets an attachment from the cloud: first where it is, then its content. -/
def fetch (limit : Nat) (session : Session) (mediaId : String) : Attempt Bytes := do
  let link ← fetchStep .metadata (Attempt.ask (.mediaLink session mediaId))
  checkLink limit link
  let content ← fetchStep .content (Attempt.ask (.downloadMedia session link.url))
  checkSize limit content.length
  Action.note ⟨.debug, "fetched cloud media",
    [("media_id", mediaId), ("size", Nat.repr content.length)]⟩
  return content

/-! ## To the room side -/

/-- The upload of a content to the room side. -/
def roomUpload (content : Bytes) : RoomUpload :=
  let mimeType := mediaType content
  ⟨content,
    "whatsapp-media-" ++ Nat.repr content.length ++ "." ++ MimeType.extension mimeType,
    mimeType⟩

/-- Hands a content to the room side and describes it by the handle it has there. -/
def toRoomStore (limit : Nat) (content : Bytes) (room : RoomId) : Attempt MediaDescriptor := do
  checkContent limit content
  let handle ←
    (Attempt.ask (.uploadContent room (roomUpload content))).orElseFail Failure.duringUpload
  Action.note ⟨.info, "relayed media to room store",
    [("room", room.text), ("handle", handle.text), ("mime", mediaType content)]⟩
  return .ofContent (.remote handle) content

/-! ## To the cloud -/

/-- Brings a content to the cloud and returns the id it has there. -/
def toCloud (limit : Nat) (session : Session) (content : Bytes) (mimeType : String)
    (category : MediaCategory) : Attempt String := do
  checkContent limit content
  let upload : CloudUpload :=
    ⟨content, "media." ++ MimeType.extension mimeType, mimeType, category.label⟩
  let mediaId ← (Attempt.ask (.uploadMedia session upload)).orElseFail Failure.duringUpload
  if Text.blank mediaId then throw (.mediaUploadFailed "cloud returned an empty media id")
  else do
    Action.note ⟨.info, "relayed media to cloud",
      [("phone_id", session.phoneId), ("media_id", mediaId)]⟩
    return mediaId

/-- Brings a content of the room side to the cloud, by the type that it has. -/
def handleToCloud (limit : Nat) (session : Session) (handle : ContentHandle) :
    Attempt (String × MediaDescriptor) := do
  let content ←
    (Attempt.ask (.downloadContent handle)).orElseFail (Failure.duringFetch .content)
  let descriptor := MediaDescriptor.ofContent (.remote handle) content
  let mediaId ← toCloud limit session content descriptor.mimeType descriptor.category
  return (mediaId, descriptor)

/-! ## Lost media -/

/-- Tells a room that an attachment is lost. If even that fails, only the log has it. -/
def notifyFailure (room : RoomId) (direction : RelayDirection) (failure : Failure) :
    Action Unit := do
  Action.note ⟨.error, "media relay failed",
    [("room", room.text), ("direction", direction.label), ("error", failure.message)]⟩
  match ← Action.ask (.sendNotice room (direction.notice failure.message)) with
  | .ok () => return ()
  | .error e =>
    Action.note ⟨.error, "failed to post media failure notice",
      [("room", room.text), ("error", e.message)]⟩

end Relay

end RoomBridge
