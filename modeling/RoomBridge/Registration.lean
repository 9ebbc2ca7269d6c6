import RoomBridge.Json.Record
import RoomBridge.Service.Action

/-!
# Registration

An account is registered in steps: the request is checked, its keys are looked up, the session is
stored and then bound. Whatever fails, the registration is rejected; a session that could not be
bound is dropped again.
-/

namespace RoomBridge

/-- A request to register an account. -/
structure RegistrationRequest where
  appName : String
  businessId : String
  phoneId : String
  accessToken : String
  noticeRoom : Option String
  deriving DecidableEq, Repr

namespace RegistrationRequest

def reader : Json.Reader RegistrationRequest := fun budget t => do
  let r ← Json.Record.read?
    ["app_name", "waba_id", "app_phone_id", "access_token", "notice_room"] budget t
  return {
    appName := ← r.field "app_name" Json.Reader.string ""
    businessId := ← r.field "waba_id" Json.Reader.string ""
    phoneId := ← r.field "app_phone_id" Json.Reader.string ""
    accessToken := ← r.field "access_token" Json.Reader.string ""
    noticeRoom := ← r.field "notice_room" (Json.Reader.optional Json.Reader.string) none }

/-- The request that a body writes. -/
def ofJson? (body : Bytes) : Option RegistrationRequest := Json.ofText? reader body

/-- A request for a person to read. -/
def describe (r : RegistrationRequest) : String :=
  Text.quotedRecord "RegistrationRequest" [
    ("app_name", Text.quoted r.appName),
    ("waba_id", Text.quoted r.businessId),
    ("app_phone_id", Text.quoted r.phoneId),
    ("access_token", Text.quoted (maskToken r.accessToken)),
    ("notice_room", Text.quotedOption r.noticeRoom)]

/-- The fields that must not be blank, in the order in which they are reported. -/
def requiredFields (r : RegistrationRequest) (identity : String) : List (String × String) := [
  ("bridge_identity", identity),
  ("app_name", r.appName),
  ("waba_id", r.businessId),
  ("app_phone_id", r.phoneId),
  ("access_token", r.accessToken)]

/-- What a request must have before anything is looked up. -/
def check (r : RegistrationRequest) (identity : String) : Except Failure Unit :=
  match (r.requiredFields identity).find? fun (_, value) => Text.blank value with
  | some (field, _) => .error (.missingField field)
  | none =>
    if Text.trim r.businessId = Text.trim r.phoneId then .error .identityCollision else .ok ()

/-- The session that a request asks for. -/
def session (r : RegistrationRequest) (identity : String) : Session where
  businessId := Text.trim r.businessId
  phoneId := Text.trim r.phoneId
  accessToken := r.accessToken
  appName := Text.trim r.appName
  bridgeIdentity := identity
  noticeRoom := r.noticeRoom.bind Text.nonblank?

end RegistrationRequest

/-- How far a registration has come. -/
inductive RegistrationState
  | requested
  | validated
  | registered
  | active
  | rejected (reason : Failure)
  deriving DecidableEq, Repr

def RegistrationState.label : RegistrationState → String
  | requested => "requested"
  | validated => "validated"
  | registered => "registered"
  | active => "active"
  | rejected _ => "rejected"

structure Registration where
  bridgeIdentity : String
  state : RegistrationState
  session : Option Session
  deriving DecidableEq, Repr

namespace Registration

/-- A registration before its first step. -/
def start (identity : String) : Registration := ⟨identity, .requested, none⟩

def isActive (r : Registration) : Bool := r.state = .active

/-- Why it was rejected, if it was. -/
def rejection? (r : Registration) : Option Failure :=
  match r.state with
  | .rejected reason => some reason
  | _ => none

/-- The session of an active registration. -/
def result (r : Registration) : Except Failure Session :=
  match r.state with
  | .rejected reason => .error reason
  | .active =>
    match r.session with
    | some session => .ok session
    | none => .error (.external "active registration without session")
  | state => .error (.external ("registration stopped in state " ++ state.label))

/-! ## Steps -/

/-- The log line of a step. -/
def stepLine (r : Registration) (next : RegistrationState) : LogLine :=
  match next with
  | .rejected reason =>
    ⟨.warn, "registration rejected",
      [("bridge_identity", r.bridgeIdentity), ("from", r.state.label),
        ("reason", reason.message)]⟩
  | _ =>
    ⟨.info, "registration state changed",
      [("bridge_identity", r.bridgeIdentity), ("from", r.state.label), ("to", next.label)]⟩

/-- Takes a step. -/
def advance (r : Registration) (next : RegistrationState) : Action Registration := do
  Action.note (r.stepLine next)
  return { r with state := next }

def reject (r : Registration) (reason : Failure) : Action Registration :=
  r.advance (.rejected reason)

/-- Refuses a key under which the store has a session. -/
def checkFree (key : SessionKey) (value : String) (what : Session → String) : Attempt Unit := do
  match ← Attempt.ask (.findSession key value) with
  | some existing => throw (.alreadyRegistered (what existing))
  | none => return ()

/-- Refuses a request whose keys are taken: the identity's, the account's, the phone's. -/
def checkTaken (identity : String) (request : RegistrationRequest) : Attempt Unit := do
  let businessId := Text.trim request.businessId
  let phoneId := Text.trim request.phoneId
  checkFree .bridgeIdentity identity fun existing =>
    "bridge identity " ++ identity ++ " is bound to business account " ++ existing.businessId
  checkFree .businessId businessId fun _ => "business account " ++ businessId
  checkFree .phoneId phoneId fun _ => "phone id " ++ phoneId

/-- A key taken at the last moment is reported like one found taken before. -/
def duringInsert : Failure → Failure
  | .uniqueViolation what => .alreadyRegistered what
  | other => other

/-- Drops a session that could not be bound. -/
def dropUnbound (session : Session) : Action Unit := do
  match ← Action.ask (.removeSession session.businessId) with
  | .ok () => return ()
  | .error e =>
    Action.note ⟨.error, "failed to remove unbound session",
      [("business_id", session.businessId), ("error", e.message)]⟩

/-- Binds a stored session. -/
def bindStored (r : Registration) (session : Session) : Action Registration := do
  match ← Action.ask (.bind session) with
  | .error e =>
    dropUnbound session
    r.reject e
  | .ok () => advance { r with session := some session } .active

/-- Stores the session of a request whose keys are free, and binds it. -/
def store (r : Registration) (request : RegistrationRequest) : Action Registration := do
  match ← Action.ask (.insertSession (request.session r.bridgeIdentity)) with
  | .error e => r.reject (duringInsert e)
  | .ok session => (← r.advance .registered).bindStored session

/-- Registers an account for an identity. -/
def register (identity : String) (request : RegistrationRequest) : Action Registration :=
  match request.check identity with
  | .error e => (start identity).reject e
  | .ok () => do
    let r ← (start identity).advance .validated
    match ← (checkTaken identity request).run with
    | .error e => r.reject e
    | .ok () => r.store request

/-- Registers the account that a body asks for. -/
def registerJson (identity : String) (body : Bytes) : Action Registration :=
  match RegistrationRequest.ofJson? body with
  | none => (start identity).reject (.malformedPayload "not a registration request")
  | some request => register identity request

end Registration

end RoomBridge
