import RoomBridge.Text.Blank
import RoomBridge.Text.Numeral

/-!
# Points in time

An `Instant` counts seconds from the beginning of 1970 in UTC. `Instant.ofText` reads the two forms
in which the cloud writes one: a date and time of RFC 3339, or the seconds as an integer. What is
neither is the instant zero, so that a bad time never costs a message.
-/

namespace RoomBridge

/-- A point in time. In a leap second `nanos` is counted on from the second before. -/
structure Instant where
  secs : Int
  nanos : Nat
  deriving DecidableEq, Repr

namespace Instant

/-- The beginning of 1970. -/
def zero : Instant := ⟨0, 0⟩

/-! ## The calendar -/

def isLeapYear (year : Nat) : Bool :=
  year % 4 == 0 && (year % 100 != 0 || year % 400 == 0)

/-- The length of a month, January being 1. -/
def daysInMonth (year month : Nat) : Nat :=
  match month with
  | 2 => if isLeapYear year then 29 else 28
  | 4 | 6 | 9 | 11 => 30
  | _ => 31

/-- The days of the years 0 to `year - 1`. -/
def daysBeforeYear (year : Nat) : Nat :=
  365 * year + (year + 3) / 4 - (year + 99) / 100 + (year + 399) / 400

/-- The days of a year before a month. -/
def daysBeforeMonth (year month : Nat) : Nat :=
  (List.range (month - 1)).foldl (fun days m => days + daysInMonth year (m + 1)) 0

/-- The days from the beginning of 1970 to a date. -/
def dayNumber (year month day : Nat) : Int :=
  (daysBeforeYear year + daysBeforeMonth year month + (day - 1) : Nat) - (daysBeforeYear 1970 : Nat)

/-! ## Date and time of RFC 3339 -/

/-- A date and time as it is written, with its distance from UTC in seconds. -/
structure LocalTime where
  year : Nat
  month : Nat
  day : Nat
  hour : Nat
  minute : Nat
  second : Nat
  nanos : Nat
  offset : Int
  deriving DecidableEq, Repr

/-- The date exists, the time is one of a day, and second 60 may be a leap second. -/
def LocalTime.valid (t : LocalTime) : Bool :=
  1 ≤ t.month && t.month ≤ 12 && 1 ≤ t.day && t.day ≤ daysInMonth t.year t.month &&
    t.hour ≤ 23 && t.minute ≤ 59 && t.second ≤ 60

/-- The instant of a local time. -/
def LocalTime.toInstant (t : LocalTime) : Instant :=
  let second := min t.second 59
  let ofDay : Nat := t.hour * 3600 + t.minute * 60 + second
  ⟨dayNumber t.year t.month t.day * 86400 + ofDay - t.offset,
    t.nanos + (t.second - second) * 1000000000⟩

/-- Exactly `count` digits at the start of a text. -/
def takeNumber? (count : Nat) (cs : List Char) : Option (Nat × List Char) :=
  if cs.length < count then none
  else (Text.digits? (cs.take count)).map fun n => (n, cs.drop count)

/-- One given character at the start of a text. -/
def takeChar? (allowed : List Char) : List Char → Option (List Char)
  | c :: cs => if allowed.contains c then some cs else none
  | [] => none

/-- A fraction of a second: a point and digits, of which nine count. None is zero. -/
def takeFraction? : List Char → Option (Nat × List Char)
  | '.' :: cs =>
    let digits := cs.takeWhile Char.isDigit
    (Text.digits? ((digits ++ List.replicate 9 '0').take 9)).bind fun nanos =>
      if digits.isEmpty then none else some (nanos, cs.dropWhile Char.isDigit)
  | cs => some (0, cs)

/-- The distance from UTC: `Z`, or hours and minutes with a sign. -/
def readOffset? : List Char → Option Int
  | ['Z'] | ['z'] => some 0
  | sign :: cs => do
    let (hours, cs) ← takeNumber? 2 cs
    let cs ← takeChar? [':'] cs
    let (minutes, cs) ← takeNumber? 2 cs
    guard (cs.isEmpty && hours ≤ 23 && minutes ≤ 59)
    let seconds : Int := ((hours * 3600 + minutes * 60 : Nat) : Int)
    match sign with
    | '+' => some seconds
    | '-' | '\u2212' => some (-seconds)
    | _ => none
  | [] => none

/-- A date and time of RFC 3339. -/
def readLocalTime? (cs : List Char) : Option LocalTime := do
  let (year, cs) ← takeNumber? 4 cs
  let cs ← takeChar? ['-'] cs
  let (month, cs) ← takeNumber? 2 cs
  let cs ← takeChar? ['-'] cs
  let (day, cs) ← takeNumber? 2 cs
  let cs ← takeChar? ['T', 't', ' '] cs
  let (hour, cs) ← takeNumber? 2 cs
  let cs ← takeChar? [':'] cs
  let (minute, cs) ← takeNumber? 2 cs
  let cs ← takeChar? [':'] cs
  let (second, cs) ← takeNumber? 2 cs
  let (nanos, cs) ← takeFraction? cs
  let offset ← readOffset? cs
  let t : LocalTime := ⟨year, month, day, hour, minute, second, nanos, offset⟩
  if t.valid then some t else none

/-! ## Texts -/

/-- The first second that counts. -/
def firstSecond : Int := -8334601228800

/-- The last second that counts. -/
def lastSecond : Int := 8210266876799

/-- An instant written as seconds. -/
def ofSeconds? (s : String) : Option Instant :=
  ((Text.signed? 64 s).filter fun n => firstSecond ≤ n ∧ n ≤ lastSecond).map fun n => ⟨n, 0⟩

/-- An instant written as date and time. -/
def ofDateTime? (s : String) : Option Instant := (readLocalTime? s.toList).map LocalTime.toInstant

/-- The instant a text names, white space around it aside. -/
def ofText (raw : String) : Instant :=
  let s := Text.trim raw
  ((ofDateTime? s).or (ofSeconds? s)).getD zero

end Instant

end RoomBridge
