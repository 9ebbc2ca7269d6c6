import RoomBridge.Failure
import RoomBridge.Session
import RoomBridge.Text.Blank

/-!
# The table of sessions

Sessions in the order in which they came, found by any of three keys. A session is taken in only if
none of its keys is taken; a blank key cannot be asked for.
-/

namespace RoomBridge

/-- What a session can be found by. -/
inductive SessionKey
  | businessId
  | phoneId
  | bridgeIdentity
  deriving DecidableEq, Repr

/-- The name of a key. -/
def SessionKey.label : SessionKey → String
  | .businessId => "business_id"
  | .phoneId => "phone_id"
  | .bridgeIdentity => "bridge_identity"

/-- The value of a key. -/
def Session.key (s : Session) : SessionKey → String
  | .businessId => s.businessId
  | .phoneId => s.phoneId
  | .bridgeIdentity => s.bridgeIdentity

structure SessionTable where
  sessions : List Session
  deriving DecidableEq, Repr

namespace SessionTable

def empty : SessionTable := ⟨[]⟩

/-- The session with a key. -/
def find? (table : SessionTable) (key : SessionKey) (value : String) :
    Except Failure (Option Session) :=
  if Text.blank value then .error (.missingField key.label)
  else .ok (table.sessions.find? fun s => s.key key = value)

/-- The first key that two sessions share. -/
def sharedKey? (s t : Session) : Option SessionKey :=
  [.businessId, .phoneId, .bridgeIdentity].find? fun key => s.key key = t.key key

/-- A key that a session shares with one of the table, the first such session counting. -/
def conflict? (table : SessionTable) (session : Session) : Option SessionKey :=
  table.sessions.findSome? fun existing => sharedKey? existing session

/-- Takes a session in. -/
def insert (table : SessionTable) (session : Session) : Except Failure SessionTable :=
  match table.conflict? session with
  | some key => .error (.uniqueViolation (key.label ++ " " ++ session.key key))
  | none => .ok ⟨table.sessions ++ [session]⟩

/-- Drops the session of a business account, if there is one. -/
def remove (table : SessionTable) (businessId : String) : Except Failure SessionTable :=
  if Text.blank businessId then .error (.missingField SessionKey.businessId.label)
  else .ok ⟨table.sessions.filter fun s => s.businessId ≠ businessId⟩

/-! ## What a table takes in -/

theorem sharedKey?_eq_none_iff (s t : Session) :
    sharedKey? s t = none ↔ ∀ key, s.key key ≠ t.key key := by
  rw [sharedKey?, List.find?_eq_none]
  constructor
  · intro h key
    have := h key (by cases key <;> simp)
    simpa using this
  · intro h key _
    simpa using h key

/-- A session conflicts with a table that holds one of its keys, and with no other. -/
theorem conflict?_eq_none_iff (table : SessionTable) (session : Session) :
    table.conflict? session = none ↔
      ∀ existing ∈ table.sessions, ∀ key, existing.key key ≠ session.key key := by
  simp only [conflict?, List.findSome?_eq_none_iff, sharedKey?_eq_none_iff]

theorem insert_eq_ok_iff (table next : SessionTable) (session : Session) :
    table.insert session = .ok next ↔
      table.conflict? session = none ∧ next = ⟨table.sessions ++ [session]⟩ := by
  rw [insert]
  split
  next key h => simp [h]
  next h => simp [h, eq_comm]

end SessionTable

end RoomBridge
