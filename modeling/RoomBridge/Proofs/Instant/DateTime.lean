import RoomBridge.Proofs.Instant.Calendar
import RoomBridge.Proofs.Text.Numeral
import RoomBridge.Proofs.Text.Trimmed

/-!
# Dates and times as they are written

RFC 3339 says how a date, a time of day and a distance from UTC are written; the date may be set off
by a space, a small letter may stand for a capital, and the distance may have the minus sign of
mathematics. Every part ends where its digits are counted or where no digit can follow, so a text is
read in one way, and it is read whenever it is written so.

* `FractionText`, `OffsetText`, `DateTimeText` : the texts, with what they say;
* `LocalTime.Exists` : the date and the time of day there are;
* `readLocalTime?_eq_some_iff` : the reader reads these texts and no others.
-/

namespace RoomBridge.Instant

open Text (Digits)

variable {cs rest w : List Char} {count n nanos : Nat} {offset : Int} {t : LocalTime}

/-! ## What is written -/

/-- So many digits, which write a number. -/
def Figures (count : Nat) (w : List Char) (n : Nat) : Prop := w.length = count ∧ Digits w n

/-- The fraction of a second in billionths, rounded down: nine of its digits count. A time without
one is a whole second. -/
inductive FractionText : List Char → Nat → Prop
  | none : FractionText [] 0
  | digits {ds : List Char} {n : Nat} : Digits ds n →
      FractionText ('.' :: ds) (n * 10 ^ 9 / 10 ^ ds.length)

/-- A distance from UTC in seconds, positive to the east. -/
inductive OffsetText : List Char → Int → Prop
  | utc {c : Char} : c ∈ ['Z', 'z'] → OffsetText [c] 0
  | east {h m : List Char} {hours minutes : Nat} : Figures 2 h hours → Figures 2 m minutes →
      hours ≤ 23 → minutes ≤ 59 → OffsetText ('+' :: (h ++ ':' :: m)) (hours * 3600 + minutes * 60)
  | west {sign : Char} {h m : List Char} {hours minutes : Nat} : sign ∈ ['-', '\u2212'] →
      Figures 2 h hours → Figures 2 m minutes → hours ≤ 23 → minutes ≤ 59 →
      OffsetText (sign :: (h ++ ':' :: m)) (-(hours * 3600 + minutes * 60))

/-- A date, a time of day and a distance from UTC in one text. -/
inductive DateTimeText : List Char → LocalTime → Prop
  | of {t : LocalTime} {separator : Char} {year month day hour minute second fraction offset :
      List Char} : Figures 4 year t.year → Figures 2 month t.month → Figures 2 day t.day →
      separator ∈ ['T', 't', ' '] → Figures 2 hour t.hour → Figures 2 minute t.minute →
      Figures 2 second t.second → FractionText fraction t.nanos → OffsetText offset t.offset →
      DateTimeText (year ++ '-' :: (month ++ '-' :: (day ++ separator :: (hour ++ ':' ::
        (minute ++ ':' :: (second ++ (fraction ++ offset))))))) t

/-- The date of a local time. -/
def LocalTime.date (t : LocalTime) : Date := ⟨t.year, t.month, t.day⟩

/-- The calendar has the date, and the day has the time; any minute may have a leap second. -/
structure LocalTime.Exists (t : LocalTime) : Prop where
  date : t.date.Valid
  hour : t.hour ≤ 23
  minute : t.minute ≤ 59
  second : t.second ≤ 60

theorem LocalTime.valid_iff : t.valid = true ↔ t.Exists := by
  simp only [LocalTime.valid, Bool.and_eq_true, decide_eq_true_eq]
  constructor
  · rintro ⟨⟨⟨⟨⟨⟨h₁, h₂⟩, h₃⟩, h₄⟩, h₅⟩, h₆⟩, h₇⟩
    exact ⟨⟨⟨h₁, h₂⟩, h₃, h₄⟩, h₅, h₆, h₇⟩
  · rintro ⟨⟨⟨h₁, h₂⟩, h₃, h₄⟩, h₅, h₆, h₇⟩
    exact ⟨⟨⟨⟨⟨⟨h₁, h₂⟩, h₃⟩, h₄⟩, h₅⟩, h₆⟩, h₇⟩

/-! ## Numbers and marks -/

theorem takeNumber?_eq_some_iff :
    takeNumber? count cs = some (n, rest) ↔ ∃ w, Figures count w n ∧ cs = w ++ rest := by
  constructor
  · intro h
    unfold takeNumber? at h
    split at h
    · cases h
    · next hlength =>
      obtain ⟨m, hread, heq⟩ := Option.map_eq_some_iff.mp h
      cases heq
      refine ⟨cs.take count, ⟨?_, Text.digits?_eq_some_iff.mp hread⟩, (List.take_append_drop _ _).symm⟩
      exact List.length_take_of_le (Nat.not_lt.mp hlength)
  · rintro ⟨w, ⟨rfl, hw⟩, rfl⟩
    have hlength : ¬ (w ++ rest).length < w.length := by simp
    rw [takeNumber?, if_neg hlength, List.take_left, List.drop_left, Text.digits?_eq_some_iff.mpr hw]
    rfl

theorem takeChar?_eq_some_iff {allowed : List Char} :
    takeChar? allowed cs = some rest ↔ ∃ c ∈ allowed, cs = c :: rest := by
  constructor
  · intro h
    cases cs with
    | nil => cases h
    | cons c cs =>
      rw [takeChar?] at h
      split at h
      · next hc =>
        cases h
        exact ⟨c, List.contains_iff_mem.mp hc, rfl⟩
      · cases h
  · rintro ⟨c, hc, rfl⟩
    exact if_pos (List.contains_iff_mem.mpr hc)

/-- A reading that goes on behind a number has read the digits of one. -/
theorem takeNumber?_bind_eq_some_iff {β : Type} {f : Nat × List Char → Option β} {b : β} :
    (takeNumber? count cs >>= f) = some b ↔
      ∃ w n rest, Figures count w n ∧ cs = w ++ rest ∧ f (n, rest) = some b := by
  rw [Option.bind_eq_bind, Option.bind_eq_some_iff]
  constructor
  · rintro ⟨⟨n, rest⟩, hread, h⟩
    obtain ⟨w, hw, rfl⟩ := takeNumber?_eq_some_iff.mp hread
    exact ⟨w, n, rest, hw, rfl, h⟩
  · rintro ⟨w, n, rest, hw, rfl, h⟩
    exact ⟨(n, rest), takeNumber?_eq_some_iff.mpr ⟨w, hw, rfl⟩, h⟩

/-- A reading that goes on behind a mark has read the mark. -/
theorem takeChar?_bind_eq_some_iff {β : Type} {f : List Char → Option β} {b : β}
    {allowed : List Char} :
    (takeChar? allowed cs >>= f) = some b ↔
      ∃ c ∈ allowed, ∃ rest, cs = c :: rest ∧ f rest = some b := by
  rw [Option.bind_eq_bind, Option.bind_eq_some_iff]
  constructor
  · rintro ⟨rest, hread, h⟩
    obtain ⟨c, hc, rfl⟩ := takeChar?_eq_some_iff.mp hread
    exact ⟨c, hc, rest, rfl, h⟩
  · rintro ⟨c, hc, rest, rfl, h⟩
    exact ⟨rest, takeChar?_eq_some_iff.mpr ⟨c, hc, rfl⟩, h⟩

/-! ## Fractions -/

/-- The first nine digits, with zeros for those that are missing, are the billionths. -/
theorem digits_billionths {ds : List Char} (hds : Digits ds n) :
    Digits ((ds ++ List.replicate 9 '0').take 9) (n * 10 ^ 9 / 10 ^ ds.length) := by
  have hzeros : ∀ c ∈ ds ++ List.replicate 9 '0', c.isDigit = true := by
    intro c hc
    rcases List.mem_append.mp hc with hc | hc
    · exact hds.isDigit c hc
    · rw [List.eq_of_mem_replicate hc]
      decide
  have hpos : 1 ≤ ds.length := List.length_pos_iff.mpr hds.ne_nil
  refine ⟨?_, fun c hc => hzeros c (List.mem_of_mem_take hc), ?_⟩
  · rw [← List.length_pos_iff, List.length_take, List.length_append]
    omega
  rcases Nat.le_total ds.length 9 with hle | hle
  · obtain ⟨k, hk⟩ := Nat.exists_eq_add_of_le hle
    have htake : (ds ++ List.replicate 9 '0').take 9 = ds ++ List.replicate k '0' := by
      rw [List.take_append, List.take_of_length_le hle, List.take_replicate]
      congr 2
      omega
    rw [htake, Nat.ofDigitChars_append, hds.value, Nat.ofDigitChars_replicate_zero, hk, Nat.pow_add,
      Nat.mul_comm (10 ^ ds.length), ← Nat.mul_assoc,
      Nat.mul_div_cancel _ (Nat.pow_pos (by decide)), Nat.mul_comm]
  · have hsplit : ds.take 9 ++ ds.drop 9 = ds := List.take_append_drop 9 ds
    have hlength : ds.length = 9 + (ds.drop 9).length := by
      rw [List.length_drop]
      omega
    have hrest : ∀ c ∈ ds.drop 9, c.isDigit = true :=
      fun c hc => hds.isDigit c (List.mem_of_mem_drop hc)
    have hlt := Text.ofDigitChars_lt hrest
    have hvalue := hds.value
    rw [← hsplit, Nat.ofDigitChars_append, Nat.ofDigitChars_eq_ofDigitChars_zero] at hvalue
    rw [List.take_append_of_le_length hle, ← hvalue, hlength, Nat.add_comm 9, Nat.pow_add,
      Nat.mul_div_mul_right _ _ (by decide), Nat.mul_add_div (Nat.pow_pos (by decide)),
      Nat.div_eq_of_lt hlt, Nat.add_zero]

theorem takeFraction?_sound (h : takeFraction? cs = some (nanos, rest)) :
    ∃ w, FractionText w nanos ∧ cs = w ++ rest := by
  unfold takeFraction? at h
  split at h
  · next cs =>
    obtain ⟨read, hread, h⟩ := Option.bind_eq_some_iff.mp h
    split at h
    · cases h
    · next hne =>
      cases h
      have hds : Digits (cs.takeWhile Char.isDigit) _ :=
        ⟨fun hnil => hne (by rw [hnil]; rfl), fun c hc => List.mem_takeWhile_imp hc, rfl⟩
      have hvalue := (Text.digits?_eq_some_iff.mp hread).unique (digits_billionths hds)
      refine ⟨'.' :: cs.takeWhile Char.isDigit, ?_, ?_⟩
      · rw [hvalue]
        exact .digits hds
      · rw [List.cons_append, List.takeWhile_append_dropWhile]
  · cases h
    exact ⟨[], .none, rfl⟩

theorem takeFraction?_complete (hw : FractionText w nanos)
    (hstop : ∀ c ∈ rest.head?, c.isDigit = false ∧ c ≠ '.') :
    takeFraction? (w ++ rest) = some (nanos, rest) := by
  cases hw with
  | none =>
    rw [List.nil_append, takeFraction?.eq_2]
    rintro cs rfl
    exact (hstop '.' rfl).2 rfl
  | digits hds =>
    have hdigit : ∀ c ∈ rest.head?, c.isDigit = false := fun c hc => (hstop c hc).1
    rw [List.cons_append, takeFraction?, Text.takeWhile_run hds.isDigit hdigit,
      Text.dropWhile_run hds.isDigit hdigit, Text.digits?_eq_some_iff.mpr (digits_billionths hds),
      Option.bind_some, if_neg]
    simpa using hds.ne_nil

/-! ## Distances from UTC -/

/-- A distance in hours and minutes with a sign before it. -/
theorem readOffset?_cons_eq_some_iff {sign : Char} (hne : cs ≠ []) :
    readOffset? (sign :: cs) = some offset ↔
      ∃ hs hours ms minutes, cs = hs ++ ':' :: ms ∧ Figures 2 hs hours ∧ Figures 2 ms minutes ∧
        hours ≤ 23 ∧ minutes ≤ 59 ∧
        (sign = '+' ∧ offset = hours * 3600 + minutes * 60 ∨
          (sign = '-' ∨ sign = '\u2212') ∧ offset = -(hours * 3600 + minutes * 60)) := by
  rw [readOffset?.eq_3 sign cs (fun _ h => hne h) (fun _ h => hne h)]
  constructor
  · intro h
    rw [takeNumber?_bind_eq_some_iff] at h
    obtain ⟨hs, hours, _, hhours, rfl, h⟩ := h
    rw [takeChar?_bind_eq_some_iff] at h
    obtain ⟨c, hc, _, rfl, h⟩ := h
    rw [takeNumber?_bind_eq_some_iff] at h
    obtain ⟨ms, minutes, more, hminutes, rfl, h⟩ := h
    obtain ⟨_, hguard, hsign⟩ := Option.bind_eq_some_iff.mp h
    clear h
    have hchecks : more = [] ∧ hours ≤ 23 ∧ minutes ≤ 59 := by simpa [guard] using hguard
    obtain ⟨rfl, hhours', hminutes'⟩ := hchecks
    obtain rfl := List.mem_singleton.mp hc
    refine ⟨hs, hours, ms, minutes, by rw [List.append_nil], hhours, hminutes, hhours',
      hminutes', ?_⟩
    dsimp only at hsign
    split at hsign
    · cases hsign
      exact .inl ⟨rfl, rfl⟩
    · cases hsign
      exact .inr ⟨.inl rfl, rfl⟩
    · cases hsign
      exact .inr ⟨.inr rfl, rfl⟩
    · cases hsign
  · rintro ⟨hs, hours, ms, minutes, rfl, hhours, hminutes, hhours', hminutes', h⟩
    refine takeNumber?_bind_eq_some_iff.mpr ⟨hs, hours, _, hhours, rfl, ?_⟩
    refine takeChar?_bind_eq_some_iff.mpr ⟨':', List.mem_cons_self, _, rfl, ?_⟩
    refine takeNumber?_bind_eq_some_iff.mpr
      ⟨ms, minutes, [], hminutes, (List.append_nil ms).symm, ?_⟩
    refine Option.bind_eq_some_iff.mpr ⟨(), by simp [guard, hhours', hminutes'], ?_⟩
    rcases h with ⟨rfl, rfl⟩ | ⟨rfl | rfl, rfl⟩
    · rfl
    · rfl
    · rfl

theorem readOffset?_eq_some_iff : readOffset? cs = some offset ↔ OffsetText cs offset := by
  constructor
  · intro h
    match cs with
    | [] => cases h
    | [c] =>
      by_cases hc : c = 'Z' ∨ c = 'z'
      · have hzero : readOffset? [c] = some 0 := by rcases hc with rfl | rfl <;> rfl
        cases hzero.symm.trans h
        exact .utc (by simpa using hc)
      · rw [not_or] at hc
        rw [readOffset?.eq_3 c [] (fun h _ => hc.1 h) (fun h _ => hc.2 h)] at h
        cases h
    | sign :: c :: cs =>
      obtain ⟨hs, hours, ms, minutes, hcs, hhours, hminutes, hhours', hminutes', h⟩ :=
        (readOffset?_cons_eq_some_iff (List.cons_ne_nil c cs)).mp h
      rw [hcs]
      rcases h with ⟨rfl, rfl⟩ | ⟨hsign, rfl⟩
      · exact .east hhours hminutes hhours' hminutes'
      · exact .west (by simpa using hsign) hhours hminutes hhours' hminutes'
  · intro h
    cases h with
    | utc hc =>
      simp only [List.mem_cons, List.not_mem_nil, or_false] at hc
      rcases hc with rfl | rfl <;> rfl
    | east hhours hminutes hhours' hminutes' =>
      exact (readOffset?_cons_eq_some_iff (by simp)).mpr
        ⟨_, _, _, _, rfl, hhours, hminutes, hhours', hminutes', .inl ⟨rfl, rfl⟩⟩
    | west hsign hhours hminutes hhours' hminutes' =>
      exact (readOffset?_cons_eq_some_iff (by simp)).mpr
        ⟨_, _, _, _, rfl, hhours, hminutes, hhours', hminutes', .inr ⟨by simpa using hsign, rfl⟩⟩

/-- A distance from UTC begins with a mark that no number goes on with. -/
theorem OffsetText.head (h : OffsetText cs offset) :
    ∀ c ∈ cs.head?, c.isDigit = false ∧ c ≠ '.' := by
  have hmarks : ∀ c ∈ ['Z', 'z', '+', '-', '\u2212'], c.isDigit = false ∧ c ≠ '.' := by
    simp only [List.forall_mem_cons]
    exact ⟨by decide, by decide, by decide, by decide, by decide, nofun⟩
  intro c hc
  apply hmarks
  cases h with
  | utc hz =>
    obtain rfl := Option.some.inj hc
    exact List.mem_append_left _ hz
  | east =>
    obtain rfl := Option.some.inj hc
    decide
  | west hsign =>
    obtain rfl := Option.some.inj hc
    exact List.mem_append_right ['Z', 'z', '+'] hsign

/-! ## The whole -/

theorem readLocalTime?_eq_some_iff :
    readLocalTime? cs = some t ↔ DateTimeText cs t ∧ t.Exists := by
  unfold readLocalTime?
  constructor
  · intro h
    rw [takeNumber?_bind_eq_some_iff] at h
    obtain ⟨_, year, _, hyear, rfl, h⟩ := h
    rw [takeChar?_bind_eq_some_iff] at h
    obtain ⟨_, hdash, _, rfl, h⟩ := h
    rw [takeNumber?_bind_eq_some_iff] at h
    obtain ⟨_, month, _, hmonth, rfl, h⟩ := h
    rw [takeChar?_bind_eq_some_iff] at h
    obtain ⟨_, hdash', _, rfl, h⟩ := h
    rw [takeNumber?_bind_eq_some_iff] at h
    obtain ⟨_, day, _, hday, rfl, h⟩ := h
    rw [takeChar?_bind_eq_some_iff] at h
    obtain ⟨separator, hseparator, _, rfl, h⟩ := h
    rw [takeNumber?_bind_eq_some_iff] at h
    obtain ⟨_, hour, _, hhour, rfl, h⟩ := h
    rw [takeChar?_bind_eq_some_iff] at h
    obtain ⟨_, hcolon, _, rfl, h⟩ := h
    rw [takeNumber?_bind_eq_some_iff] at h
    obtain ⟨_, minute, _, hminute, rfl, h⟩ := h
    rw [takeChar?_bind_eq_some_iff] at h
    obtain ⟨_, hcolon', _, rfl, h⟩ := h
    rw [takeNumber?_bind_eq_some_iff] at h
    obtain ⟨_, second, _, hsecond, rfl, h⟩ := h
    obtain ⟨⟨nanos, rest⟩, hread, hthen⟩ := Option.bind_eq_some_iff.mp h
    obtain ⟨offset, hoffset, hend⟩ := Option.bind_eq_some_iff.mp hthen
    clear h hthen
    obtain ⟨fraction, hfraction, rfl⟩ := takeFraction?_sound hread
    simp only [List.mem_singleton] at hdash hdash' hcolon hcolon'
    subst hdash hdash' hcolon hcolon'
    dsimp only at hend
    split at hend
    · next hvalid =>
      cases hend
      exact ⟨.of hyear hmonth hday hseparator hhour hminute hsecond hfraction
        (readOffset?_eq_some_iff.mp hoffset), LocalTime.valid_iff.mp hvalid⟩
    · cases hend
  · rintro ⟨⟨hyear, hmonth, hday, hseparator, hhour, hminute, hsecond, hfraction, hoffset⟩, hexists⟩
    have hdash : '-' ∈ ['-'] := List.mem_cons_self
    have hcolon : ':' ∈ [':'] := List.mem_cons_self
    refine takeNumber?_bind_eq_some_iff.mpr ⟨_, _, _, hyear, rfl, ?_⟩
    refine takeChar?_bind_eq_some_iff.mpr ⟨_, hdash, _, rfl, ?_⟩
    refine takeNumber?_bind_eq_some_iff.mpr ⟨_, _, _, hmonth, rfl, ?_⟩
    refine takeChar?_bind_eq_some_iff.mpr ⟨_, hdash, _, rfl, ?_⟩
    refine takeNumber?_bind_eq_some_iff.mpr ⟨_, _, _, hday, rfl, ?_⟩
    refine takeChar?_bind_eq_some_iff.mpr ⟨_, hseparator, _, rfl, ?_⟩
    refine takeNumber?_bind_eq_some_iff.mpr ⟨_, _, _, hhour, rfl, ?_⟩
    refine takeChar?_bind_eq_some_iff.mpr ⟨_, hcolon, _, rfl, ?_⟩
    refine takeNumber?_bind_eq_some_iff.mpr ⟨_, _, _, hminute, rfl, ?_⟩
    refine takeChar?_bind_eq_some_iff.mpr ⟨_, hcolon, _, rfl, ?_⟩
    refine takeNumber?_bind_eq_some_iff.mpr ⟨_, _, _, hsecond, rfl, ?_⟩
    refine Option.bind_eq_some_iff.mpr ⟨_, takeFraction?_complete hfraction hoffset.head, ?_⟩
    refine Option.bind_eq_some_iff.mpr ⟨_, readOffset?_eq_some_iff.mpr hoffset, ?_⟩
    exact if_pos (LocalTime.valid_iff.mpr hexists)

end RoomBridge.Instant
