import RoomBridge.Binary64

/-!
# Shortest decimals

`Binary64.shortest` gives the decimal with the fewest digits among those that round to a number and,
of these, the nearest to it. For each count of digits only the number's two neighbours on the grid
of such decimals come into question.
-/

namespace RoomBridge

/-- The decimal `digits · 10 ^ exponent`. -/
structure Decimal where
  digits : Nat
  exponent : Int
  deriving DecidableEq, Repr

namespace Decimal

/-- As a fraction. -/
def ratio (d : Decimal) : Nat × Nat :=
  if d.exponent < 0 then (d.digits, Nat.pow 10 (-d.exponent).toNat)
  else (d.digits * Nat.pow 10 d.exponent.toNat, 1)

/-- The distance of a decimal from a fraction, as a fraction. -/
def distance (d : Decimal) (num den : Nat) : Nat × Nat :=
  let (n, m) := d.ratio
  ((n * den - num * m) + (num * m - n * den), m * den)

/-- Without zeros at the end of its digits, in at most `fuel` steps. -/
def strippedIn : Nat → Decimal → Decimal
  | 0, d => d
  | fuel + 1, d =>
    if d.digits ≠ 0 ∧ d.digits % 10 = 0 then strippedIn fuel ⟨d.digits / 10, d.exponent + 1⟩ else d

end Decimal

namespace Binary64

/-- The exponent of ten of the first digit of a fraction that is not zero. -/
def leadingPower (num den : Nat) : Int :=
  let guess : Int := (Nat.toDigits 10 num).length - (Nat.toDigits 10 den).length
  let atLeast (p : Int) : Bool :=
    if p < 0 then den ≤ num * Nat.pow 10 (-p).toNat else den * Nat.pow 10 p.toNat ≤ num
  if atLeast guess then guess else guess - 1

/-- The decimal rounds to the number. -/
def readsAs (x : Binary64) (d : Decimal) : Bool :=
  ofRatio? d.ratio.1 d.ratio.2 == some x

/-- The nearer of the two neighbours with `count` digits that round to the number; the even one of
two that are equally near. -/
def neighbour? (x : Binary64) (count : Nat) : Option Decimal :=
  let (num, den) := x.ratio
  let e : Int := leadingPower num den - (count - 1 : Nat)
  let below : Nat :=
    if e < 0 then num * Nat.pow 10 (-e).toNat / den else num / (den * Nat.pow 10 e.toNat)
  let low : Decimal := ⟨below, e⟩
  let high : Decimal := ⟨below + 1, e⟩
  match x.readsAs low, x.readsAs high with
  | false, false => none
  | true, false => some low
  | false, true => some high
  | true, true =>
    let (a, b) := low.distance num den
    let (c, d) := high.distance num den
    if a * d < c * b ∨ (a * d = c * b ∧ below % 2 = 0) then some low else some high

/-- The shortest decimal of a number; seventeen digits always do. -/
def shortest (x : Binary64) : Decimal :=
  if x.isZero then ⟨0, 0⟩
  else
    match (List.range 17).findSome? fun k => x.neighbour? (k + 1) with
    | some d => Decimal.strippedIn 17 d
    | none => ⟨0, 0⟩

end Binary64

end RoomBridge
