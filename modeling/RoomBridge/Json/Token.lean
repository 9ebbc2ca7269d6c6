import RoomBridge.Bytes

/-!
# JSON tokens

A JSON text is a row of tokens with blanks between them. Numbers and strings are kept as they are
written: which strings are texts and which numbers are too large is decided only where a value is
used, because what nobody reads may hold anything.
-/

namespace RoomBridge.Json

/-- A value without parts, as it is written; a string is what stands between its quotes. -/
inductive Scalar
  | null
  | bool (value : Bool)
  | number (written : Bytes)
  | string (written : Bytes)
  deriving DecidableEq, Repr

inductive Token
  | openArray
  | closeArray
  | openObject
  | closeObject
  | comma
  | colon
  | scalar (value : Scalar)
  deriving DecidableEq, Repr

/-- Space, tab, line feed and carriage return. -/
def isBlank (b : UInt8) : Bool := b == 0x20 || b == 0x09 || b == 0x0A || b == 0x0D

def isDigit (b : UInt8) : Bool := 0x30 ≤ b && b ≤ 0x39

/-- The value of a hexadecimal digit. -/
def hexValue? (b : UInt8) : Option Nat :=
  if isDigit b then some (b.toNat - 0x30)
  else if 0x41 ≤ b && b ≤ 0x46 then some (b.toNat - 0x37)
  else if 0x61 ≤ b && b ≤ 0x66 then some (b.toNat - 0x57)
  else none

def isHex (b : UInt8) : Bool := (hexValue? b).isSome

/-- The letters that stand for one character after a backslash. -/
def isShortEscape (b : UInt8) : Bool := (Bytes.ascii "\"\\/bfnrt").contains b

/-! ## Strings -/

/-- What is written up to the closing quote, and what follows it. Controls are refused, and a
backslash needs a letter it can precede. -/
def takeString? : Bytes → Option (Bytes × Bytes)
  | [] => none
  | b :: rest =>
    if b == 0x22 then some ([], rest)
    else if b == 0x5C then
      match rest with
      | 0x75 :: p :: q :: r :: s :: rest =>
        if isHex p && isHex q && isHex r && isHex s then
          (takeString? rest).map fun (body, after) =>
            (0x5C :: 0x75 :: p :: q :: r :: s :: body, after)
        else none
      | e :: rest =>
        if isShortEscape e then
          (takeString? rest).map fun (body, after) => (0x5C :: e :: body, after)
        else none
      | [] => none
    else if b < 0x20 then none
    else (takeString? rest).map fun (body, after) => (b :: body, after)

/-! ## Numbers -/

/-- Digits, at least one. -/
def takeDigits? (s : Bytes) : Option (Bytes × Bytes) :=
  match s.takeWhile isDigit with
  | [] => none
  | ds => some (ds, s.dropWhile isDigit)

/-- The whole part: zero alone, or digits that do not start with zero. -/
def takeWhole? : Bytes → Option (Bytes × Bytes)
  | 0x30 :: rest => some ([0x30], rest)
  | s => takeDigits? s

/-- The fraction, if a point follows. -/
def takeFraction? : Bytes → Option (Bytes × Bytes)
  | 0x2E :: rest => (takeDigits? rest).map fun (ds, after) => (0x2E :: ds, after)
  | s => some ([], s)

/-- The sign of an exponent, if there is one. -/
def takeSign : Bytes → Bytes × Bytes
  | 0x2B :: rest => ([0x2B], rest)
  | 0x2D :: rest => ([0x2D], rest)
  | s => ([], s)

/-- The exponent, if one of its letters follows. -/
def takeExponent? : Bytes → Option (Bytes × Bytes)
  | [] => some ([], [])
  | b :: rest =>
    if b == 0x65 || b == 0x45 then
      let (sign, rest) := takeSign rest
      (takeDigits? rest).map fun (ds, after) => (b :: sign ++ ds, after)
    else some ([], b :: rest)

/-- A number without its sign. -/
def takeUnsigned? (s : Bytes) : Option (Bytes × Bytes) :=
  (takeWhole? s).bind fun (whole, s) =>
    (takeFraction? s).bind fun (fraction, s) =>
      (takeExponent? s).map fun (exponent, s) => (whole ++ fraction ++ exponent, s)

/-- A number. -/
def takeNumber? : Bytes → Option (Bytes × Bytes)
  | 0x2D :: rest => (takeUnsigned? rest).map fun (written, after) => (0x2D :: written, after)
  | s => takeUnsigned? s

/-! ## Tokens -/

/-- A word at the start of some bytes. -/
def takeWord? (word : String) (value : Scalar) (s : Bytes) : Option (Token × Bytes) :=
  ((Bytes.ascii word).isPrefixOf? s).map fun after => (.scalar value, after)

/-- The token that starts with the byte `b`, and what follows it. -/
def takeToken? (b : UInt8) (rest : Bytes) : Option (Token × Bytes) :=
  if b == 0x5B then some (.openArray, rest)
  else if b == 0x5D then some (.closeArray, rest)
  else if b == 0x7B then some (.openObject, rest)
  else if b == 0x7D then some (.closeObject, rest)
  else if b == 0x2C then some (.comma, rest)
  else if b == 0x3A then some (.colon, rest)
  else if b == 0x22 then
    (takeString? rest).map fun (written, after) => (.scalar (.string written), after)
  else if b == 0x6E then takeWord? "ull" .null rest
  else if b == 0x74 then takeWord? "rue" (.bool true) rest
  else if b == 0x66 then takeWord? "alse" (.bool false) rest
  else (takeNumber? (b :: rest)).map fun (written, after) => (.scalar (.number written), after)

/-- The tokens of a text, in at most `fuel` steps. -/
def tokensIn : Nat → Bytes → Option (List Token)
  | _, [] => some []
  | 0, _ => none
  | fuel + 1, b :: rest =>
    if isBlank b then tokensIn fuel rest
    else
      (takeToken? b rest).bind fun (t, after) => (tokensIn fuel after).map (t :: ·)

/-- The tokens of a text; every token and every blank takes at least one byte. -/
def tokens? (s : Bytes) : Option (List Token) := tokensIn s.length s

end RoomBridge.Json
