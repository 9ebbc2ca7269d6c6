/-!
# Floating-point numbers of 64 bits

A magnitude is `significand · 2 ^ exponent` with a significand below `2 ^ 53`; among the ways to
write a number so, it is the one with the least exponent from -1074 on. `ofRatio?` rounds a fraction
to the nearest magnitude, a tie to the even significand, and refuses what is too large; products and
quotients are rounded so too.
-/

namespace RoomBridge

/-- A finite number that is not negative. -/
structure Binary64 where
  significand : Nat
  exponent : Int
  deriving DecidableEq, Repr

namespace Binary64

def zero : Binary64 := ⟨0, -1074⟩

/-- `num / den · 2 ^ -e` as a fraction. -/
def scaled (num den : Nat) (e : Int) : Nat × Nat :=
  if e < 0 then (num * Nat.pow 2 (-e).toNat, den) else (num, den * Nat.pow 2 e.toNat)

/-- The nearest integer, a tie going to the even one. -/
def roundDiv (num den : Nat) : Nat :=
  let q := num / den
  let r := num % den
  if 2 * r < den ∨ (2 * r = den ∧ q % 2 = 0) then q else q + 1

/-- The exponent that leaves a fraction between `2 ^ 52` and `2 ^ 53`, or the least one. -/
def exponentOf (num den : Nat) : Int :=
  let low : Int := max (-1074) ((num.log2 : Int) - den.log2 - 53)
  let (n, d) := scaled num den low
  if n / d < Nat.pow 2 53 then low else low + 1

/-- The magnitude nearest to a fraction. -/
def ofRatio? (num den : Nat) : Option Binary64 :=
  if num = 0 then some zero
  else
    let e := exponentOf num den
    let (n, d) := scaled num den e
    let m := roundDiv n d
    let (m, e) := if m = Nat.pow 2 53 then (Nat.pow 2 52, e + 1) else (m, e)
    if e ≤ 971 then some ⟨m, e⟩ else none

/-- A magnitude as a fraction. -/
def ratio (x : Binary64) : Nat × Nat := scaled x.significand 1 (-x.exponent)

def isZero (x : Binary64) : Bool := x.significand == 0

/-- The rounded product. -/
def mul? (x y : Binary64) : Option Binary64 :=
  ofRatio? (x.ratio.1 * y.ratio.1) (x.ratio.2 * y.ratio.2)

/-- The rounded quotient. -/
def div? (x y : Binary64) : Option Binary64 :=
  ofRatio? (x.ratio.1 * y.ratio.2) (x.ratio.2 * y.ratio.1)

end Binary64

end RoomBridge
