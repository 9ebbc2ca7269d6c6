import RoomBridge.Decimal
import RoomBridge.Json.Value

/-!
# Writing JSON

`Value.render` writes a value without blanks. A number with a fraction has the fewest digits that
read back; it is written with a point as long as that takes no more than sixteen digits before the
point or four zeros after it, and with an exponent otherwise.
-/

namespace RoomBridge.Json

/-! ## Strings -/

/-- How a character stands inside quotes: only the quote, the backslash and controls are escaped. -/
def writtenChar (c : Char) : List Char :=
  if c = '"' then ['\\', '"']
  else if c = '\\' then ['\\', '\\']
  else if c = '\x08' then ['\\', 'b']
  else if c = '\x0C' then ['\\', 'f']
  else if c = '\n' then ['\\', 'n']
  else if c = '\r' then ['\\', 'r']
  else if c = '\t' then ['\\', 't']
  else if c.toNat < 0x20 then
    ['\\', 'u', '0', '0', Nat.digitChar (c.toNat / 16), Nat.digitChar (c.toNat % 16)]
  else [c]

def writtenString (s : String) : List Char := '"' :: s.toList.flatMap writtenChar ++ ['"']

/-! ## Numbers -/

/-- Where a number is written with an exponent: above and below which places of the point. -/
structure PointRange where
  low : Int
  high : Int

/-- The point stays within sixteen digits, or five places left of them. -/
def pointRange : PointRange := ⟨-5, 16⟩

/-- A decimal with a point or an exponent. -/
def writtenDecimal (range : PointRange) (d : Decimal) : List Char :=
  let digits := Nat.toDigits 10 d.digits
  let count : Int := digits.length
  let point := count + d.exponent
  let zeros (n : Int) := List.replicate n.toNat '0'
  if 0 ≤ d.exponent ∧ point ≤ range.high then digits ++ zeros d.exponent ++ ['.', '0']
  else if 0 < point ∧ point ≤ range.high then
    digits.take point.toNat ++ '.' :: digits.drop point.toNat
  else if range.low < point ∧ point ≤ 0 then '0' :: '.' :: (zeros (-point) ++ digits)
  else
    let mantissa := if digits.length = 1 then digits else digits.take 1 ++ '.' :: digits.drop 1
    mantissa ++ 'e' :: (Int.repr (point - 1)).toList

def Number.written : Number → List Char
  | .natural n => Nat.toDigits 10 n
  | .negative n => '-' :: Nat.toDigits 10 n
  | .double isNegative x =>
    (if isNegative then ['-'] else []) ++ writtenDecimal pointRange x.shortest

/-! ## Values -/

namespace Value

mutual

/-- The characters of a value. -/
def written : Value → List Char
  | null => "null".toList
  | bool true => "true".toList
  | bool false => "false".toList
  | number n => n.written
  | string s => writtenString s
  | array items => '[' :: writtenItems items ++ [']']
  | object members => '\x7b' :: writtenMembers members ++ ['\x7d']

/-- Items with commas between them. -/
def writtenItems : List Value → List Char
  | [] => []
  | [v] => v.written
  | v :: w :: vs => v.written ++ ',' :: writtenItems (w :: vs)

/-- Members with commas between them. -/
def writtenMembers : List (String × Value) → List Char
  | [] => []
  | [(k, v)] => writtenString k ++ ':' :: v.written
  | (k, v) :: m :: ms =>
    writtenString k ++ ':' :: v.written ++ ',' :: writtenMembers (m :: ms)

end

/-- The text of a value. -/
def render (value : Value) : String := String.ofList value.written

end Value

end RoomBridge.Json
