import RoomBridge.Http
import RoomBridge.Json.Printer
import RoomBridge.Json.Record
import RoomBridge.Log
import RoomBridge.Media.Syntax
import RoomBridge.Service.Call

/-!
# The cloud's interface

The four requests of the cloud's interface: where an attachment is, its content, an upload and a
message. Each is one request to a peer and one reading of its answer. An `Exchange` has the result,
the request that was sent, and the log lines.
-/

namespace RoomBridge

open Json (Reader Record)

structure CloudClient where
  baseUrl : String
  version : String
  maxDownload : Nat
  deriving DecidableEq, Repr

namespace CloudClient

/-- One request and what came of it. -/
structure Exchange (α : Type) where
  result : Except Failure α
  request : Option Http.Request
  log : List LogLine

/-- A client for a base address, written with or without slashes at its end. -/
def ofBase (baseUrl version : String) : CloudClient where
  baseUrl := Text.dropTrailing '/' baseUrl
  version
  maxDownload := Settings.defaultMaxFileSize

/-- The client that the settings ask for. -/
def ofSettings (s : Settings) : CloudClient :=
  { ofBase s.cloudApiUrl s.cloudApiVersion with maxDownload := s.maxFileSize }

/-- The address of what a phone can be asked for. -/
def phoneUrl (client : CloudClient) (phoneId endpoint : String) : String :=
  client.baseUrl ++ "/" ++ client.version ++ "/" ++ phoneId ++ "/" ++ endpoint

/-! ## Answers -/

/-- Characters of an error's body that are told. -/
def bodyLimit : Nat := 200

/-- A request that was not granted, in words. -/
def refusal (what : String) (response : Http.Response) : String :=
  what ++ " failed: " ++ Http.statusText response.status ++ " " ++
    String.ofList (response.text.toList.take bodyLimit)

/-- An answer that was granted: its body, read as `read` says. -/
def readBody {α : Type} (read : Reader α) (response : Http.Response) : Option α :=
  response.body?.bind (Json.ofText? read)

/-! ## Where an attachment is -/

/-- The answer to where an attachment is. -/
structure LinkAnswer where
  url : Option String
  mimeType : Option String
  sha256 : Option String
  fileSize : Option Nat
  error : Option Json.Value

def LinkAnswer.reader : Reader LinkAnswer := fun budget t => do
  let r ← Record.read? ["url", "mime_type", "sha256", "file_size", "error"] budget t
  return {
    url := ← r.field "url" (Reader.optional Reader.string) none
    mimeType := ← r.field "mime_type" (Reader.optional Reader.string) none
    sha256 := ← r.field "sha256" (Reader.optional Reader.string) none
    fileSize := ← r.field "file_size" (Reader.optional Reader.natural) none
    error := ← r.field "error" (Reader.optional Reader.value) none }

def linkRequest (client : CloudClient) (session : Session) (mediaId : String) :
    Option Http.Request :=
  let address := (Address.read? (client.baseUrl ++ "/" ++ mediaId)).map fun a =>
    a.addQuery "access_token" session.accessToken
  Http.Request.make? .get address session.accessToken .empty

/-- An answer without an error and with an address. -/
def LinkAnswer.link (answer : LinkAnswer) : Except Failure MediaLink :=
  match answer.error with
  | some error => .error (.external ("media lookup returned error: " ++ error.render))
  | none =>
    match answer.url.filter (· ≠ "") with
    | none => .error (.external "media lookup returned no url")
    | some url => .ok ⟨url, answer.mimeType, answer.sha256, answer.fileSize⟩

def readLink : Option Http.Response → Except Failure MediaLink
  | none => .error (.external "media lookup request error: no answer")
  | some response =>
    if response.isSuccess then
      match readBody LinkAnswer.reader response with
      | none => .error (.external "media lookup json error: not an answer")
      | some answer => answer.link
    else .error (.external (refusal "media lookup" response))

/-- Asks where an attachment is. -/
def mediaLink (client : CloudClient) (peer : Http.Peer) (session : Session) (mediaId : String) :
    Exchange MediaLink :=
  let request := client.linkRequest session mediaId
  { result := readLink (request.bind peer)
    request
    log := [⟨.debug, "resolving cloud media url", [("media_id", mediaId)]⟩] }

/-! ## The content of an attachment -/

def downloadRequest (session : Session) (url : String) : Option Http.Request :=
  Http.Request.make? .get (Address.read? url) session.accessToken .empty

/-- Collects chunks as long as they stay within the limit together. -/
def collect (limit : Nat) (got : Bytes) : List Bytes → Except Failure Bytes
  | [] => .ok got
  | chunk :: chunks =>
    if limit < got.length + chunk.length then
      .error (.mediaTooLarge (got.length + chunk.length) limit)
    else collect limit (got ++ chunk) chunks

/-- A body within the limit: neither its declared length nor its chunks exceed it. -/
def readContent (limit : Nat) (response : Http.Response) : Except Failure Bytes :=
  match response.contentLength.filter (limit < ·) with
  | some length => .error (.mediaTooLarge length limit)
  | none =>
    match collect limit [] response.chunks with
    | .error failure => .error failure
    | .ok content =>
      if response.isBroken then .error (.external "media download read error: broken off")
      else .ok content

def readDownload (limit : Nat) : Option Http.Response → Except Failure Bytes
  | none => .error (.external "media download request error: no answer")
  | some response =>
    if response.isSuccess then readContent limit response
    else .error (.external (refusal "media download" response))

/-- Downloads the content of an attachment. -/
def downloadMedia (client : CloudClient) (peer : Http.Peer) (session : Session) (url : String) :
    Exchange Bytes :=
  let request := downloadRequest session url
  { result := readDownload client.maxDownload (request.bind peer)
    request
    log := [] }

/-! ## Uploads -/

/-- The answer to an upload is its id. -/
def uploadReader : Reader String := fun budget t => do
  let r ← Record.read? ["id"] budget t
  r.field "id" Reader.string ""

/-- The form of an upload whose MIME type is sent as `mimeType`. -/
def uploadParts (upload : CloudUpload) (mimeType : String) : List Http.Part := [
  .field "messaging_product" "whatsapp",
  .field "type" upload.category,
  ⟨"file", some upload.fileName, some mimeType, upload.content⟩]

def uploadRequest (client : CloudClient) (session : Session) (upload : CloudUpload)
    (mimeType : String) : Option Http.Request :=
  Http.Request.make? .post (Address.read? (client.phoneUrl session.phoneId "media"))
    session.accessToken (.form (uploadParts upload mimeType))

def readUpload : Option Http.Response → Except Failure String
  | none => .error (.mediaUploadFailed "request error: no answer")
  | some response =>
    if response.isSuccess then
      match readBody uploadReader response with
      | none => .error (.mediaUploadFailed "json error: not an answer")
      | some "" => .error (.mediaUploadFailed "upload response carried no media id")
      | some id => .ok id
    else .error (.mediaUploadFailed (refusal "media upload" response))

/-- The log line of an upload that was not granted. -/
def uploadRefusalLine (session : Session) (response : Http.Response) : List LogLine :=
  if response.isSuccess then []
  else [⟨.error, "cloud media upload failed",
    [("phone_id", session.phoneId), ("error", refusal "media upload" response)]⟩]

/-- Uploads an attachment; its MIME type has to be one. -/
def uploadMedia (client : CloudClient) (peer : Http.Peer) (session : Session)
    (upload : CloudUpload) : Exchange String :=
  match MimeType.canonical? upload.mimeType with
  | none => ⟨.error (.mediaUploadFailed "multipart error: not a MIME type"), none, []⟩
  | some mimeType =>
    let request := client.uploadRequest session upload mimeType
    let response := request.bind peer
    { result := readUpload response
      request
      log :=
        ⟨.debug, "uploading media to cloud",
          [("phone_id", session.phoneId), ("file_name", upload.fileName),
            ("mime", upload.mimeType), ("size", Nat.repr upload.content.length)]⟩ ::
          (response.map (uploadRefusalLine session)).getD [] }

/-! ## Messages -/

/-- A message that was sent has an id. -/
def sentReader : Reader String := fun budget t => do
  let r ← Record.read? ["id"] budget t
  r.required "id" Reader.string

/-- The answer to a message is the ids of what was sent. -/
def sendReader : Reader (List String) := fun budget t => do
  let r ← Record.read? ["messages"] budget t
  r.field "messages" (Reader.list sentReader) []

def sendRequest (client : CloudClient) (session : Session) (payload : Payload) :
    Option Http.Request :=
  Http.Request.make? .post (Address.read? (client.phoneUrl session.phoneId "messages")) session.accessToken
    (.json payload.body)

def readSend : Option Http.Response → Except Failure String
  | none => .error (.external "send request error: no answer")
  | some response =>
    if response.isSuccess then
      match readBody sendReader response with
      | none => .error (.external "send json error: not an answer")
      | some ids =>
        match ids.head?.filter (· ≠ "") with
        | none => .error (.external "send response carried no message id")
        | some id => .ok id
    else .error (.external (refusal "send message" response))

/-- Sends a message. -/
def sendMessage (client : CloudClient) (peer : Http.Peer) (session : Session) (payload : Payload) :
    Exchange String :=
  let request := client.sendRequest session payload
  { result := readSend (request.bind peer)
    request
    log := [⟨.debug, "sending cloud message",
      [("phone_id", session.phoneId), ("to", payload.receiver), ("kind", payload.kind.label)]⟩] }

end CloudClient

end RoomBridge
