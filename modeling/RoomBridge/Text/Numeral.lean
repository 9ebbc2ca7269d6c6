/-!
# Whole numbers in texts

A numeral is one or more ASCII digits. `natural?` allows a leading `+`, `integer?` a leading `+` or
`-`; `unsigned?` and `signed?` accept only what fits a word of the given width.
-/

namespace RoomBridge.Text

/-- The value of a digit, `0` to `9` only. -/
def digit? (c : Char) : Option Nat :=
  if '0' ≤ c ∧ c ≤ '9' then some (c.toNat - '0'.toNat) else none

/-- The value of a text of digits read after digits of value `acc`. -/
def digitsFrom? (acc : Nat) : List Char → Option Nat
  | [] => some acc
  | c :: cs => (digit? c).bind fun d => digitsFrom? (10 * acc + d) cs

/-- The value of one or more digits. -/
def digits? : List Char → Option Nat
  | [] => none
  | cs => digitsFrom? 0 cs

/-- A numeral with an optional `+`. -/
def natural? : List Char → Option Nat
  | '+' :: cs => digits? cs
  | cs => digits? cs

/-- A numeral with an optional sign. -/
def integer? : List Char → Option Int
  | '-' :: cs => (digits? cs).map fun n => -(n : Int)
  | cs => (natural? cs).map fun n => (n : Int)

/-- A natural number of at most `bits` bits. -/
def unsigned? (bits : Nat) (s : String) : Option Nat :=
  (natural? s.toList).filter (· < Nat.pow 2 bits)

/-- An integer of `bits` bits in two's complement. -/
def signed? (bits : Nat) (s : String) : Option Int :=
  (integer? s.toList).filter fun i =>
    -(Nat.pow 2 (bits - 1) : Int) ≤ i ∧ i < (Nat.pow 2 (bits - 1) : Int)

end RoomBridge.Text
