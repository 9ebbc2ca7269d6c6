import RoomBridge.Binary64
import RoomBridge.Json.Token

/-!
# JSON numbers as values

An integer that fits 64 bits is kept; any other number becomes a floating-point number. Its digits
are read into 64 bits as far as they fit, digits that do not fit only raise the exponent, and the
result is that significand times or through a power of ten.
-/

namespace RoomBridge.Json

inductive Number
  | natural (n : Nat)
  | negative (n : Nat)
  | double (isNegative : Bool) (magnitude : Binary64)
  deriving DecidableEq, Repr

namespace Number

/-- The parts of a number as it is written. -/
structure Written where
  isNegative : Bool
  whole : Bytes
  fraction : Bytes
  exponentNegative : Bool
  exponent : Bytes

/-- Takes apart what `takeNumber?` has accepted. -/
def Written.ofBytes (bytes : Bytes) : Written :=
  let (isNegative, s) :=
    match bytes with
    | 0x2D :: rest => (true, rest)
    | s => (false, s)
  let whole := s.takeWhile isDigit
  let s := s.dropWhile isDigit
  let (fraction, s) :=
    match s with
    | 0x2E :: rest => (rest.takeWhile isDigit, rest.dropWhile isDigit)
    | s => ([], s)
  let (sign, exponent) := takeSign (s.drop 1)
  ⟨isNegative, whole, fraction, sign == [0x2D], exponent⟩

/-- It has neither fraction nor exponent. -/
def Written.isInteger (w : Written) : Bool := w.fraction.isEmpty && w.exponent.isEmpty

/-- Reads digits into a significand of 64 bits until one does not fit; the rest is left over. -/
def fill (significand : Nat) : Bytes → Nat × Bytes
  | [] => (significand, [])
  | b :: bs =>
    let next := significand * 10 + (b.toNat - 0x30)
    if next < Nat.pow 2 64 then fill next bs else (significand, b :: bs)

/-- The value of digits. -/
def digitsValue (digits : Bytes) : Nat := digits.foldl (fun n b => n * 10 + (b.toNat - 0x30)) 0

/-- The power of ten as a floating-point number. -/
def powerOfTen? (n : Nat) : Option Binary64 := Binary64.ofRatio? (Nat.pow 10 n) 1

/-- A number through a power of ten, in steps of at most 308. -/
def shrink? (x : Binary64) (n : Nat) : Option Binary64 :=
  if x.isZero then some x
  else if n ≤ 308 then (powerOfTen? n).bind x.div?
  else ((powerOfTen? 308).bind x.div?).bind fun y => shrink? y (n - 308)
termination_by n

/-- A significand with a decimal exponent; none if it is too large. -/
def scale? (significand : Nat) (exponent : Int) : Option Binary64 :=
  (Binary64.ofRatio? significand 1).bind fun x =>
    if exponent < 0 then shrink? x (-exponent).toNat
    else if exponent ≤ 308 then (powerOfTen? exponent.toNat).bind x.mul?
    else if x.isZero then some x
    else none

/-- The magnitude of a number that is no integer of 64 bits; none if it is too large. An exponent
that takes more than 31 bits counts as infinite. -/
def magnitude? (w : Written) : Option Binary64 :=
  let (s, skipped) := fill 0 w.whole
  let (s, left) := fill s w.fraction
  let point : Int := (skipped.length : Int) - (w.fraction.length - left.length : Nat)
  let e := digitsValue w.exponent
  if e < Nat.pow 2 31 then scale? s (if w.exponentNegative then point - e else point + e)
  else if s = 0 ∨ w.exponentNegative then some .zero
  else none

/-- The value of a number; none if it is too large. -/
def ofBytes? (bytes : Bytes) : Option Number :=
  let w := Written.ofBytes bytes
  let n := digitsValue w.whole
  if w.isInteger && !w.isNegative && n < Nat.pow 2 64 then some (.natural n)
  else if w.isInteger && w.isNegative && 0 < n && n ≤ Nat.pow 2 63 then some (.negative n)
  else (magnitude? w).map (.double w.isNegative)

end Number

end RoomBridge.Json
