import RoomBridge.Json.Token

/-!
# JSON trees

The tree of a JSON text, with members in the order in which they are written and names that may
stand there twice. `Tree.tokens` writes a tree, `Tree.ofTokens?` reads one, `Tree.read?` reads the
bytes of a whole text.
-/

namespace RoomBridge.Json

inductive Tree
  | scalar (value : Scalar)
  | array (items : List Tree)
  | object (members : List (Bytes × Tree))
  deriving Repr

namespace Tree

/-! ## Writing -/

mutual

/-- The tokens of a tree. -/
def tokens : Tree → List Token
  | scalar s => [.scalar s]
  | array items => .openArray :: itemTokens items ++ [.closeArray]
  | object members => .openObject :: memberTokens members ++ [.closeObject]

/-- Items with commas between them. -/
def itemTokens : List Tree → List Token
  | [] => []
  | [t] => t.tokens
  | t :: u :: ts => t.tokens ++ .comma :: itemTokens (u :: ts)

/-- Members with commas between them. -/
def memberTokens : List (Bytes × Tree) → List Token
  | [] => []
  | [(k, t)] => .scalar (.string k) :: .colon :: t.tokens
  | (k, t) :: m :: ms =>
    .scalar (.string k) :: .colon :: t.tokens ++ .comma :: memberTokens (m :: ms)

end

/-! ## Reading -/

mutual

/-- A tree at the front of some tokens, in at most `fuel` steps down. -/
def valueIn : Nat → List Token → Option (Tree × List Token)
  | 0, _ => none
  | fuel + 1, ts =>
    match ts with
    | .scalar s :: rest => some (scalar s, rest)
    | .openArray :: .closeArray :: rest => some (array [], rest)
    | .openArray :: rest => (itemsIn fuel rest).map fun (items, rest) => (array items, rest)
    | .openObject :: .closeObject :: rest => some (object [], rest)
    | .openObject :: rest =>
      (membersIn fuel rest).map fun (members, rest) => (object members, rest)
    | _ => none

/-- Items up to the closing bracket. -/
def itemsIn : Nat → List Token → Option (List Tree × List Token)
  | 0, _ => none
  | fuel + 1, ts =>
    match valueIn fuel ts with
    | some (t, .comma :: rest) => (itemsIn fuel rest).map fun (items, rest) => (t :: items, rest)
    | some (t, .closeArray :: rest) => some ([t], rest)
    | _ => none

/-- Members up to the closing brace. -/
def membersIn : Nat → List Token → Option (List (Bytes × Tree) × List Token)
  | 0, _ => none
  | fuel + 1, ts =>
    match ts with
    | .scalar (.string k) :: .colon :: rest =>
      match valueIn fuel rest with
      | some (t, .comma :: rest) =>
        (membersIn fuel rest).map fun (members, rest) => ((k, t) :: members, rest)
      | some (t, .closeObject :: rest) => some ([(k, t)], rest)
      | _ => none
    | _ => none

end

/-- The tree that some tokens write. Going down twice takes at least one token. -/
def ofTokens? (ts : List Token) : Option Tree :=
  match valueIn (2 * ts.length + 1) ts with
  | some (t, []) => some t
  | _ => none

/-- The tree of a JSON text. -/
def read? (text : Bytes) : Option Tree := (tokens? text).bind ofTokens?

end Tree

end RoomBridge.Json
