import Mathlib.Logic.Function.Iterate
import Mathlib.Order.Nat
import RoomBridge.Instant

/-!
# Days of the calendar

The day after a date is said by the length of its month and the number of months. Days are counted
from one date to another by going from day to day, forwards or backwards, and the number that
`dayNumber` gives a date without going there is that count from the beginning of 1970.

* `Date.next`, `Date.Valid` : the day after, and the dates there are;
* `Date.number_next` : the day after has the next number;
* `Date.exists_iterate` : every date is reached from the first day of the year zero;
* `Date.daysFrom_iff` : counting days and subtracting their numbers are one.
-/

namespace RoomBridge.Instant

/-- A year, a month and a day. -/
structure Date where
  year : Nat
  month : Nat
  day : Nat
  deriving DecidableEq, Repr

namespace Date

variable {d a b : Date} {n : Int}

/-- The calendar has the date. -/
def Valid (d : Date) : Prop :=
  (1 ≤ d.month ∧ d.month ≤ 12) ∧ 1 ≤ d.day ∧ d.day ≤ daysInMonth d.year d.month

instance (d : Date) : Decidable d.Valid := inferInstanceAs (Decidable (_ ∧ _))

/-- The day after a date. -/
def next (d : Date) : Date :=
  if d.day < daysInMonth d.year d.month then { d with day := d.day + 1 }
  else if d.month < 12 then ⟨d.year, d.month + 1, 1⟩
  else ⟨d.year + 1, 1, 1⟩

/-- From one date to another it is so many days, counted one by one; backwards they count negative. -/
def DaysFrom (a b : Date) (n : Int) : Prop :=
  (∃ k : Nat, n = k ∧ next^[k] a = b) ∨ ∃ k : Nat, n = -k ∧ next^[k] b = a

/-- The number of a date. -/
def number (d : Date) : Int := dayNumber d.year d.month d.day

/-- The beginning of 1970. -/
def epoch : Date := ⟨1970, 1, 1⟩

theorem number_epoch : epoch.number = 0 := by decide

/-! ## Months and years -/

theorem daysInMonth_pos (year month : Nat) : 1 ≤ daysInMonth year month := by
  unfold daysInMonth
  split
  · split <;> omega
  · omega
  · omega
  · omega
  · omega
  · omega

theorem daysBeforeMonth_succ (year : Nat) {month : Nat} (h : 1 ≤ month) :
    daysBeforeMonth year (month + 1) = daysBeforeMonth year month + daysInMonth year month := by
  obtain ⟨m, rfl⟩ := Nat.exists_eq_add_of_le' h
  simp only [daysBeforeMonth, Nat.add_sub_cancel, List.range_succ, List.foldl_append,
    List.foldl_cons, List.foldl_nil]

/-- Twelve months are a year. -/
theorem daysBeforeMonth_thirteen (year : Nat) :
    daysBeforeMonth year 13 = if isLeapYear year then 366 else 365 := by
  have hrange : List.range (13 - 1) = [0, 1, 2, 3, 4, 5, 6, 7, 8, 9, 10, 11] := by decide
  simp only [daysBeforeMonth, hrange, List.foldl_cons, List.foldl_nil, daysInMonth]
  split <;> rfl

theorem isLeapYear_iff (year : Nat) :
    isLeapYear year = true ↔ year % 4 = 0 ∧ (year % 100 ≠ 0 ∨ year % 400 = 0) := by
  simp [isLeapYear]

theorem daysBeforeYear_succ (year : Nat) :
    daysBeforeYear (year + 1) = daysBeforeYear year + if isLeapYear year then 366 else 365 := by
  -- Of the years before the next one, the multiples of a number are one more if this year is one.
  have h4 : (year + 1 + 3) / 4 = (year + 3) / 4 + if year % 4 = 0 then 1 else 0 := by
    split <;> omega
  have h100 : (year + 1 + 99) / 100 = (year + 99) / 100 + if year % 100 = 0 then 1 else 0 := by
    split <;> omega
  have h400 : (year + 1 + 399) / 400 = (year + 399) / 400 + if year % 400 = 0 then 1 else 0 := by
    split <;> omega
  have hle : (year + 99) / 100 ≤ 365 * year := by omega
  have hleap := isLeapYear_iff year
  unfold daysBeforeYear
  rw [h4, h100, h400]
  generalize (year + 99) / 100 = centuries at hle
  by_cases h : isLeapYear year = true
  · obtain ⟨hfour, hrest⟩ := hleap.mp h
    rw [if_pos h, if_pos hfour]
    rcases hrest with hcentury | hfourth
    · rw [if_neg hcentury, if_neg (by omega)]
      omega
    · rw [if_pos hfourth, if_pos (by omega)]
      omega
  · rw [if_neg h]
    by_cases hfour : year % 4 = 0
    · have hcentury : year % 100 = 0 := by
        by_contra hne
        exact h (hleap.mpr ⟨hfour, .inl hne⟩)
      have hfourth : year % 400 ≠ 0 := fun heq => h (hleap.mpr ⟨hfour, .inr heq⟩)
      rw [if_pos hfour, if_pos hcentury, if_neg hfourth]
      omega
    · rw [if_neg hfour, if_neg (by omega), if_neg (by omega)]
      omega

/-! ## The day after -/

theorem valid_next (h : d.Valid) : d.next.Valid := by
  obtain ⟨⟨hmonth, hmonth'⟩, hday, hday'⟩ := h
  unfold next
  by_cases hend : d.day < daysInMonth d.year d.month
  · rw [if_pos hend]
    exact ⟨⟨hmonth, hmonth'⟩, Nat.le_add_left 1 d.day, hend⟩
  rw [if_neg hend]
  by_cases hyear : d.month < 12
  · rw [if_pos hyear]
    exact ⟨⟨Nat.le_add_left 1 d.month, hyear⟩, Nat.le_refl 1, daysInMonth_pos _ _⟩
  · rw [if_neg hyear]
    exact ⟨⟨Nat.le_refl 1, Nat.le_add_left 1 11⟩, Nat.le_refl 1, daysInMonth_pos _ _⟩

theorem number_next (h : d.Valid) : d.next.number = d.number + 1 := by
  obtain ⟨⟨hmonth, hmonth'⟩, hday, hday'⟩ := h
  have hsucc := daysBeforeMonth_succ d.year hmonth
  unfold next
  by_cases hend : d.day < daysInMonth d.year d.month
  · rw [if_pos hend]
    simp only [number, dayNumber]
    omega
  rw [if_neg hend]
  by_cases hyear : d.month < 12
  · rw [if_pos hyear]
    simp only [number, dayNumber, hsucc]
    omega
  · rw [if_neg hyear]
    have hlast : d.month = 12 := by omega
    have hyears := daysBeforeYear_succ d.year
    have hmonths := daysBeforeMonth_thirteen d.year
    have hfirst : daysBeforeMonth (d.year + 1) 1 = 0 := rfl
    rw [hlast] at hsucc hend hday'
    rw [hsucc] at hmonths
    simp only [number, dayNumber, hfirst, hlast, hyears, ← hmonths]
    omega

theorem valid_iterate (h : d.Valid) (k : Nat) : (next^[k] d).Valid := by
  induction k with
  | zero => exact h
  | succ k ih =>
    rw [Function.iterate_succ_apply']
    exact valid_next ih

theorem number_iterate (h : d.Valid) (k : Nat) : (next^[k] d).number = d.number + k := by
  induction k with
  | zero => exact (Int.add_zero _).symm
  | succ k ih =>
    rw [Function.iterate_succ_apply', number_next (valid_iterate h k), ih]
    push_cast
    omega

/-! ## Going to a date -/

/-- The first day of the year zero. -/
def origin : Date := ⟨0, 1, 1⟩

/-- Going on from day to day one comes to the date. -/
def Reached (d : Date) : Prop := ∃ k, next^[k] origin = d

theorem Reached.next (h : d.Reached) : d.next.Reached := by
  obtain ⟨k, rfl⟩ := h
  exact ⟨k + 1, Function.iterate_succ_apply' _ _ _⟩

theorem reached_day {year month : Nat} (h : Reached ⟨year, month, 1⟩) {day : Nat} (hday : 1 ≤ day)
    (hlast : day ≤ daysInMonth year month) : Reached ⟨year, month, day⟩ := by
  induction day, hday using Nat.le_induction with
  | base => exact h
  | succ day _ ih =>
    have hnext := (ih (by omega)).next
    rwa [Date.next, if_pos (by exact hlast)] at hnext

theorem reached_month {year : Nat} (h : Reached ⟨year, 1, 1⟩) {month : Nat} (hmonth : 1 ≤ month)
    (hlast : month ≤ 12) : Reached ⟨year, month, 1⟩ := by
  induction month, hmonth using Nat.le_induction with
  | base => exact h
  | succ month _ ih =>
    have hend := reached_day (ih (by omega)) (daysInMonth_pos year month) (Nat.le_refl _)
    have hnext := hend.next
    rwa [Date.next, if_neg (Nat.lt_irrefl _), if_pos (by exact hlast)] at hnext

theorem reached_year (year : Nat) : Reached ⟨year, 1, 1⟩ := by
  induction year with
  | zero => exact ⟨0, rfl⟩
  | succ year ih =>
    have hmonth := reached_month ih (by decide : 1 ≤ 12) (Nat.le_refl 12)
    have hend := reached_day hmonth (daysInMonth_pos year 12) (Nat.le_refl _)
    have hnext := hend.next
    rwa [Date.next, if_neg (Nat.lt_irrefl _), if_neg (by exact Nat.lt_irrefl 12)] at hnext

theorem exists_iterate (h : d.Valid) : ∃ k, next^[k] origin = d :=
  reached_day (reached_month (reached_year d.year) h.1.1 h.1.2) h.2.1 h.2.2

/-- The days from one date to another are the difference of their numbers. -/
theorem daysFrom_iff (ha : a.Valid) (hb : b.Valid) : DaysFrom a b n ↔ n = b.number - a.number := by
  have horigin : origin.Valid := by decide
  constructor
  · rintro (⟨k, rfl, rfl⟩ | ⟨k, rfl, rfl⟩)
    · rw [number_iterate ha]
      omega
    · rw [number_iterate hb]
      omega
  · rintro rfl
    obtain ⟨i, rfl⟩ := exists_iterate ha
    obtain ⟨j, rfl⟩ := exists_iterate hb
    rw [number_iterate horigin, number_iterate horigin]
    rcases Nat.le_total i j with hle | hle
    · refine .inl ⟨j - i, by omega, ?_⟩
      rw [← Function.iterate_add_apply, Nat.sub_add_cancel hle]
    · refine .inr ⟨i - j, by omega, ?_⟩
      rw [← Function.iterate_add_apply, Nat.sub_add_cancel hle]

/-- Counted from the beginning of 1970, a date has its number of days. -/
theorem daysFrom_epoch (h : d.Valid) : DaysFrom epoch d d.number := by
  rw [daysFrom_iff (by decide) h, number_epoch, Int.sub_zero]

end Date

end RoomBridge.Instant
