import Mathlib.Algebra.Order.Ring.Int
import RoomBridge.Proofs.Text.Trimmed
import RoomBridge.Text.Numeral

/-!
# What a numeral says

Which texts write a natural number or an integer, and which number that is: the digits count in tens,
the most significant first, with any zeros in front of them. A sign may stand before them, but the
minus sign only before an integer, so that no natural number is written with one, not even zero.

* `Digits`, `NaturalText`, `IntegerText` : the texts that write a number;
* `unsigned?_eq_some_iff`, `signed?_eq_some_iff` : the readers read these texts and no others;
* `integerText_repr` : every integer is written.
-/

namespace RoomBridge.Text

variable {ds s : List Char} {n : Nat} {i : Int}

/-- One or more digits, which write a number. -/
structure Digits (ds : List Char) (n : Nat) : Prop where
  ne_nil : ds ≠ []
  isDigit : ∀ c ∈ ds, c.isDigit = true
  value : Nat.ofDigitChars 10 ds 0 = n

/-- A natural number in decimal, with or without a plus sign. -/
inductive NaturalText : List Char → Nat → Prop
  | plain {ds : List Char} {n : Nat} : Digits ds n → NaturalText ds n
  | plus {ds : List Char} {n : Nat} : Digits ds n → NaturalText ('+' :: ds) n

/-- An integer in decimal: a natural number, or digits behind a minus sign. -/
inductive IntegerText : List Char → Int → Prop
  | natural {s : List Char} {n : Nat} : NaturalText s n → IntegerText s n
  | minus {ds : List Char} {n : Nat} : Digits ds n → IntegerText ('-' :: ds) (-n)

/-! ## Digits -/

theorem digit?_eq (c : Char) :
    digit? c = if c.isDigit = true then some (c.toNat - '0'.toNat) else none := by
  unfold digit?
  refine if_congr ?_ rfl rfl
  rw [Char.isDigit_iff_toNat, Char.le_def, Char.le_def, UInt32.le_iff_toNat_le,
    UInt32.le_iff_toNat_le]
  rfl

theorem digitsFrom?_eq_some_iff (acc : Nat) :
    digitsFrom? acc ds = some n ↔
      (∀ c ∈ ds, c.isDigit = true) ∧ Nat.ofDigitChars 10 ds acc = n := by
  induction ds generalizing acc with
  | nil => simp [digitsFrom?]
  | cons c ds ih =>
    rw [digitsFrom?, digit?_eq, Nat.ofDigitChars_cons, List.forall_mem_cons]
    by_cases hc : c.isDigit = true
    · rw [if_pos hc, Option.bind_some, ih]
      simp [hc]
    · simp [hc]

theorem digits?_eq_some_iff : digits? ds = some n ↔ Digits ds n := by
  constructor
  · intro h
    unfold digits? at h
    split at h
    · cases h
    · next hne =>
      obtain ⟨hdigit, hvalue⟩ := (digitsFrom?_eq_some_iff 0).mp h
      exact ⟨hne, hdigit, hvalue⟩
  · intro h
    unfold digits?
    split
    · exact absurd rfl h.ne_nil
    · exact (digitsFrom?_eq_some_iff 0).mpr ⟨h.isDigit, h.value⟩

theorem Digits.unique {m : Nat} (hn : Digits ds n) (hm : Digits ds m) : n = m :=
  hn.value.symm.trans hm.value

theorem ofDigitChars_lt (hds : ∀ c ∈ ds, c.isDigit = true) :
    Nat.ofDigitChars 10 ds 0 < 10 ^ ds.length := by
  induction ds with
  | nil => decide
  | cons c ds ih =>
    obtain ⟨hc, hds⟩ := List.forall_mem_cons.mp hds
    have hdigit : c.toNat - '0'.toNat ≤ 9 := Nat.sub_le_of_le_add (Char.isDigit_iff_toNat.mp hc).2
    have hlt := ih hds
    rw [Nat.ofDigitChars_cons, Nat.ofDigitChars_eq_ofDigitChars_zero, List.length_cons, pow_succ,
      Nat.mul_zero, Nat.zero_add]
    have hle : 10 ^ ds.length * (c.toNat - '0'.toNat) ≤ 10 ^ ds.length * 9 :=
      Nat.mul_le_mul_left _ hdigit
    omega

/-- A digit is not white space. -/
theorem not_isBlank_of_isDigit {c : Char} (h : c.isDigit = true) : isBlank c = false := by
  have hrange : 48 ≤ c.toNat ∧ c.toNat ≤ 57 := Char.isDigit_iff_toNat.mp h
  simp only [isBlank, Bool.or_eq_false_iff, Bool.and_eq_false_iff, decide_eq_false_iff_not,
    beq_eq_false_iff_ne]
  omega

/-! ## Signs -/

theorem natural?_eq_some_iff : natural? s = some n ↔ NaturalText s n := by
  constructor
  · intro h
    unfold natural? at h
    split at h
    · exact .plus (digits?_eq_some_iff.mp h)
    · exact .plain (digits?_eq_some_iff.mp h)
  · rintro (hds | hds)
    · unfold natural?
      split
      · next heq => exact absurd (hds.isDigit '+' List.mem_cons_self) (by decide)
      · exact digits?_eq_some_iff.mpr hds
    · exact digits?_eq_some_iff.mpr hds

theorem integer?_eq_some_iff : integer? s = some i ↔ IntegerText s i := by
  constructor
  · intro h
    unfold integer? at h
    split at h
    all_goals
      simp only [Option.bind_eq_bind, Option.pure_def, Option.map_eq_some_iff,
        Option.bind_eq_some_iff, Option.some.injEq] at h
      obtain ⟨_, ⟨n, hread, rfl⟩, rfl⟩ := h
    · exact .minus (digits?_eq_some_iff.mp hread)
    · exact .natural (natural?_eq_some_iff.mp hread)
  · rintro (hs | hds)
    · unfold integer?
      split
      · exfalso
        rcases hs with hds | _
        exact absurd (hds.isDigit '-' List.mem_cons_self) (by decide)
      · rw [natural?_eq_some_iff.mpr hs]
        rfl
    · rw [integer?, digits?_eq_some_iff.mpr hds]
      rfl

theorem unsigned?_eq_some_iff {bits : Nat} {s : String} :
    unsigned? bits s = some n ↔ NaturalText s.toList n ∧ n < 2 ^ bits := by
  rw [unsigned?, Option.filter_eq_some_iff, natural?_eq_some_iff, decide_eq_true_eq]
  rfl

theorem signed?_eq_some_iff {bits : Nat} {s : String} :
    signed? bits s = some i ↔
      IntegerText s.toList i ∧ -2 ^ (bits - 1) ≤ i ∧ i < 2 ^ (bits - 1) := by
  have hpow : ((Nat.pow 2 (bits - 1) : Nat) : Int) = 2 ^ (bits - 1) := Nat.cast_pow 2 _
  rw [signed?, Option.filter_eq_some_iff, integer?_eq_some_iff, decide_eq_true_eq, hpow]

/-- Every integer is written, without superfluous signs or zeros. -/
theorem integerText_repr (i : Int) : IntegerText i.repr.toList i := by
  have hdigits : ∀ n : Nat, Digits (Nat.toDigits 10 n) n := fun n =>
    ⟨Nat.toDigits_ne_nil, fun c hc => Nat.isDigit_of_mem_toDigits (by decide) (by decide) hc,
      Nat.ofDigitChars_ten_toDigits⟩
  rw [Int.repr_eq_if]
  split
  · next h =>
    have hvalue : (i.toNat : Int) = i := Int.toNat_of_nonneg h
    rw [Nat.toList_repr]
    exact hvalue ▸ .natural (.plain (hdigits _))
  · next h =>
    obtain ⟨n, rfl⟩ : ∃ n : Nat, i = -n := ⟨(-i).toNat, by omega⟩
    have hnat : (- -(n : Int)).toNat = n := by omega
    rw [hnat, String.toList_append, Nat.toList_repr]
    exact .minus (hdigits n)

/-- Behind its first character an integer has digits only. -/
theorem IntegerText.tail_isDigit (h : IntegerText s i) : ∀ c ∈ s.tail, c.isDigit = true := by
  rcases h with (hds | hds) | hds
  · exact fun c hc => hds.isDigit c (List.mem_of_mem_tail hc)
  · exact hds.isDigit
  · exact hds.isDigit

/-- An integer has no white space in it. -/
theorem IntegerText.not_isBlank (h : IntegerText s i) : ∀ c ∈ s, isBlank c = false := by
  have hdigits : ∀ {ds : List Char} {n : Nat}, Digits ds n → ∀ c ∈ ds, isBlank c = false :=
    fun hds c hc => not_isBlank_of_isDigit (hds.isDigit c hc)
  rcases h with (hds | hds) | hds
  · exact hdigits hds
  · exact List.forall_mem_cons.mpr ⟨by decide, hdigits hds⟩
  · exact List.forall_mem_cons.mpr ⟨by decide, hdigits hds⟩

/-- Trimming finds an integer again. -/
theorem IntegerText.toList_trim {raw : String} (h : IntegerText s i) (hpadded : Padded s raw.toList) :
    (trim raw).toList = s :=
  toList_trim_of_padded hpadded (fun c hc => h.not_isBlank c (List.mem_of_mem_head? hc))
    (fun c hc => h.not_isBlank c (List.mem_of_getLast? hc))

end RoomBridge.Text
