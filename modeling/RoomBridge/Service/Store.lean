import RoomBridge.Service.Action

/-!
# Worlds with a session table

Of the services, the session store is known: it is a table. `Surroundings` are all the others, and a
verdict for each call to the store: the table may be obeyed, a lookup may miss what is there, or the
call may fail before it reaches the table.
-/

namespace RoomBridge

/-- What becomes of a call to the store. -/
inductive StoreVerdict
  | obey
  | stale
  | fail (failure : Failure)
  deriving DecidableEq, Repr

/-- Everything around the bridge and its session table. -/
structure Surroundings (σ : Type) where
  answer : (c : Call) → σ → c.Reply × σ
  verdict : Call → σ → StoreVerdict × σ
  isCancelled : σ → Bool

namespace SessionTable

/-- A lookup under a verdict. -/
def findUnder (table : SessionTable) (verdict : StoreVerdict) (key : SessionKey) (value : String) :
    Except Failure (Option Session) :=
  match verdict with
  | .obey => table.find? key value
  | .stale => .ok none
  | .fail failure => .error failure

/-- An insertion under a verdict. -/
def insertUnder (table : SessionTable) (verdict : StoreVerdict) (session : Session) :
    Except Failure Session × SessionTable :=
  match verdict with
  | .fail failure => (.error failure, table)
  | _ =>
    match table.insert session with
    | .ok table => (.ok session, table)
    | .error failure => (.error failure, table)

/-- A removal under a verdict. -/
def removeUnder (table : SessionTable) (verdict : StoreVerdict) (businessId : String) :
    Except Failure Unit × SessionTable :=
  match verdict with
  | .fail failure => (.error failure, table)
  | _ =>
    match table.remove businessId with
    | .ok table => (.ok (), table)
    | .error failure => (.error failure, table)

end SessionTable

namespace Surroundings

/-- The reply to a call, and what the state and the table are after it. -/
def answerWith {σ : Type} (around : Surroundings σ) (c : Call) (s : σ × SessionTable) :
    c.Reply × (σ × SessionTable) :=
  match c with
  | .findSession key value =>
    let (verdict, next) := around.verdict (.findSession key value) s.1
    (s.2.findUnder verdict key value, (next, s.2))
  | .insertSession session =>
    let (verdict, next) := around.verdict (.insertSession session) s.1
    let (reply, table) := s.2.insertUnder verdict session
    (reply, (next, table))
  | .removeSession businessId =>
    let (verdict, next) := around.verdict (.removeSession businessId) s.1
    let (reply, table) := s.2.removeUnder verdict businessId
    (reply, (next, table))
  | c =>
    let (reply, next) := around.answer c s.1
    (reply, (next, s.2))

/-- The world of the surroundings and a table. -/
def world {σ : Type} (around : Surroundings σ) : World (σ × SessionTable) where
  answer := around.answerWith
  isCancelled s := around.isCancelled s.1

end Surroundings

end RoomBridge
