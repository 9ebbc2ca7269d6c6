import RoomBridge.Json.Text
import RoomBridge.Json.Tree
import RoomBridge.Json.Value

/-!
# Reading records from JSON

A record has named fields. It is written as an object, whose other members are ignored whatever they
hold, or as an array of its fields in order, from the first on. A field that is not given has a
default; one that is given twice makes the object unreadable, and so does a member whose name is no
text.

Readers take a budget, the number of arrays and objects that may still be opened one inside the
other. What is ignored costs nothing.
-/

namespace RoomBridge.Json

/-- Reads a value from a tree, within a budget. -/
abbrev Reader (α : Type) := Nat → Tree → Option α

/-- The levels a whole text may have. -/
def maxDepth : Nat := 127

/-- Enters an array or object. -/
def enter? : Nat → Option Nat
  | 0 => none
  | budget + 1 => some budget

/-! ## Plain values -/

namespace Reader

def string : Reader String
  | _, .scalar (.string written) => text? written
  | _, _ => none

def bool : Reader Bool
  | _, .scalar (.bool b) => some b
  | _, _ => none

/-- A natural number of 64 bits. -/
def natural : Reader Nat
  | _, .scalar (.number written) =>
    match Number.ofBytes? written with
    | some (.natural n) => some n
    | _ => none
  | _, _ => none

/-- A value or `null`. -/
def optional {α : Type} (read : Reader α) : Reader (Option α)
  | _, .scalar .null => some none
  | budget, t => (read budget t).map some

/-- An array of values. -/
def list {α : Type} (read : Reader α) : Reader (List α)
  | budget, .array items => (enter? budget).bind fun budget => items.mapM (read budget)
  | _, _ => none

mutual

/-- Any value; all its names and strings are texts, and its numbers not too large. -/
def value (budget : Nat) : Tree → Option Value
  | .scalar .null => some .null
  | .scalar (.bool b) => some (.bool b)
  | .scalar (.number written) => (Number.ofBytes? written).map .number
  | .scalar (.string written) => (text? written).map .string
  | .array ts => (enter? budget).bind fun budget => (values budget ts).map .array
  | .object ms => (enter? budget).bind fun budget => (members budget ms).map .ofMembers

/-- The values of some items. -/
def values (budget : Nat) : List Tree → Option (List Value)
  | [] => some []
  | t :: ts => (value budget t).bind fun v => (values budget ts).map (v :: ·)

/-- The values of some members. -/
def members (budget : Nat) : List (Bytes × Tree) → Option (List (String × Value))
  | [] => some []
  | (written, t) :: ms =>
    (text? written).bind fun name =>
      (value budget t).bind fun v => (members budget ms).map ((name, v) :: ·)

end

end Reader

/-! ## Records -/

/-- The fields of a record that are given, and the budget for what is in them. -/
structure Record where
  given : List (String × Tree)
  budget : Nat

namespace Record

/-- The members whose names are among `names`; every name is a text, and none of those is there
twice. -/
def ofMembers? (names : List String) (members : List (Bytes × Tree)) :
    Option (List (String × Tree)) :=
  (members.mapM fun m => (text? m.1).map fun name => (name, m.2)).bind fun named =>
    let given := named.filter fun (name, _) => names.contains name
    if (given.map Prod.fst).Nodup then some given else none

/-- The given fields of a record with the fields `names`. -/
def read? (names : List String) : Reader Record
  | budget, .object members =>
    (enter? budget).bind fun budget =>
      (ofMembers? names members).map fun given => ⟨given, budget⟩
  | budget, .array items =>
    (enter? budget).bind fun budget =>
      if items.length ≤ names.length then some ⟨names.zip items, budget⟩ else none
  | _, _ => none

/-- A field with a default. -/
def field {α : Type} (r : Record) (name : String) (read : Reader α) (default : α) : Option α :=
  match r.given.lookup name with
  | none => some default
  | some t => read r.budget t

/-- A field that has to be given. -/
def required {α : Type} (r : Record) (name : String) (read : Reader α) : Option α :=
  (r.given.lookup name).bind (read r.budget)

end Record

/-- A whole text as a value. -/
def ofText? {α : Type} (read : Reader α) (text : Bytes) : Option α :=
  (Tree.read? text).bind (read maxDepth)

end RoomBridge.Json
