import RoomBridge.Http.Address
import RoomBridge.Json.Value

/-!
# HTTP

Requests and responses as far as the cloud's interface needs them. A `Peer` answers a request or
does not; a response arrives in chunks and may break off.
-/

namespace RoomBridge.Http

inductive Method
  | get
  | post
  deriving DecidableEq, Repr

def Method.label : Method → String
  | .get => "GET"
  | .post => "POST"

/-- A part of a form. -/
structure Part where
  name : String
  fileName : Option String
  mimeType : Option String
  content : Bytes
  deriving DecidableEq, Repr

/-- A field of a form. -/
def Part.field (name value : String) : Part := ⟨name, none, none, Utf8.encode value⟩

inductive Body
  | empty
  | json (value : Json.Value)
  | form (parts : List Part)
  deriving Repr

structure Request where
  method : Method
  address : Address
  authorization : String
  body : Body
  deriving Repr

/-- A text that can stand in a header. -/
def isHeaderText (s : String) : Bool :=
  s.toList.all fun c => c = '\t' || (0x20 ≤ c.toNat && c.toNat ≠ 0x7F)

/-- A request with a token, to an address as it is written; none if one of them cannot be sent. -/
def Request.make? (method : Method) (address : Option Address) (token : String) (body : Body) :
    Option Request :=
  if isHeaderText token then
    address.map fun address => ⟨method, address, "Bearer " ++ token, body⟩
  else none

/-! ## Responses -/

structure Response where
  status : Nat
  contentLength : Option Nat
  chunks : List Bytes
  /-- The connection broke before the end of the body. -/
  isBroken : Bool
  deriving DecidableEq, Repr

/-- Whoever answers requests. -/
abbrev Peer := Request → Option Response

namespace Response

/-- The request was granted. -/
def isSuccess (r : Response) : Bool := 200 ≤ r.status && r.status ≤ 299

/-- The whole body, if it has arrived. -/
def body? (r : Response) : Option Bytes := if r.isBroken then none else some r.chunks.flatten

/-- The body as a text; one that has not arrived is empty. -/
def text (r : Response) : String := Utf8.decodeLossy (r.body?.getD [])

end Response

/-- The phrases that go with status codes. -/
def reasons : List (Nat × String) := [
  (100, "Continue"), (101, "Switching Protocols"), (102, "Processing"),
  (200, "OK"), (201, "Created"), (202, "Accepted"), (203, "Non Authoritative Information"),
  (204, "No Content"), (205, "Reset Content"), (206, "Partial Content"), (207, "Multi-Status"),
  (208, "Already Reported"), (226, "IM Used"),
  (300, "Multiple Choices"), (301, "Moved Permanently"), (302, "Found"), (303, "See Other"),
  (304, "Not Modified"), (305, "Use Proxy"), (307, "Temporary Redirect"),
  (308, "Permanent Redirect"),
  (400, "Bad Request"), (401, "Unauthorized"), (402, "Payment Required"), (403, "Forbidden"),
  (404, "Not Found"), (405, "Method Not Allowed"), (406, "Not Acceptable"),
  (407, "Proxy Authentication Required"), (408, "Request Timeout"), (409, "Conflict"),
  (410, "Gone"), (411, "Length Required"), (412, "Precondition Failed"),
  (413, "Payload Too Large"), (414, "URI Too Long"), (415, "Unsupported Media Type"),
  (416, "Range Not Satisfiable"), (417, "Expectation Failed"), (418, "I'm a teapot"),
  (421, "Misdirected Request"), (422, "Unprocessable Entity"), (423, "Locked"),
  (424, "Failed Dependency"), (425, "Too Early"), (426, "Upgrade Required"),
  (428, "Precondition Required"), (429, "Too Many Requests"),
  (431, "Request Header Fields Too Large"), (451, "Unavailable For Legal Reasons"),
  (500, "Internal Server Error"), (501, "Not Implemented"), (502, "Bad Gateway"),
  (503, "Service Unavailable"), (504, "Gateway Timeout"), (505, "HTTP Version Not Supported"),
  (506, "Variant Also Negotiates"), (507, "Insufficient Storage"), (508, "Loop Detected"),
  (510, "Not Extended"), (511, "Network Authentication Required")]

/-- A status code with its phrase. -/
def statusText (status : Nat) : String :=
  Nat.repr status ++ " " ++ (reasons.lookup status).getD "<unknown status code>"

end RoomBridge.Http
