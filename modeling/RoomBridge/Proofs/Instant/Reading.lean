import RoomBridge.Proofs.Instant.DateTime

/-!
# Which instant a text names

A text names an instant as a date and time or as seconds. No text is both, for a date has a dash
behind its year where an integer has only digits, so it does not matter which of the two is tried
first. White space around a text is none of it, and a text that is neither names the instant zero.

* `DateTimeText.not_integerText` : a date and time is no integer;
* `toInstant_eq` : the instant of a local time, by counting days;
* `ofText_exact` : the instant of every text.
-/

namespace RoomBridge.Instant

open Text (IntegerText Digits isBlank)

variable {cs : List Char} {n offset : Int} {t : LocalTime} {i : Instant}

/-! ## Characters of a date and time -/

theorem Figures.ne_nil {count m : Nat} (h : Figures count cs m) : cs ≠ [] := h.2.ne_nil

theorem Figures.not_isBlank {count m : Nat} (h : Figures count cs m) :
    ∀ c ∈ cs, isBlank c = false :=
  fun c hc => Text.not_isBlank_of_isDigit (h.2.isDigit c hc)

theorem OffsetText.not_isBlank (h : OffsetText cs offset) : ∀ c ∈ cs, isBlank c = false := by
  have hclock : ∀ {sign : Char} {hs ms : List Char} {hours minutes : Nat}, isBlank sign = false →
      Figures 2 hs hours → Figures 2 ms minutes →
      ∀ c ∈ sign :: (hs ++ ':' :: ms), isBlank c = false := by
    intro sign hs ms hours minutes hsign hhours hminutes c hc
    simp only [List.mem_cons, List.mem_append] at hc
    rcases hc with rfl | hc | rfl | hc
    · exact hsign
    · exact hhours.not_isBlank c hc
    · decide
    · exact hminutes.not_isBlank c hc
  cases h with
  | utc hc =>
    have hmarks : ∀ c ∈ ['Z', 'z'], isBlank c = false :=
      List.forall_mem_cons.mpr ⟨by decide, List.forall_mem_singleton.mpr (by decide)⟩
    exact fun c hmem => List.mem_singleton.mp hmem ▸ hmarks _ hc
  | east hhours hminutes => exact hclock (by decide) hhours hminutes
  | west hsign hhours hminutes =>
    have hmarks : ∀ c ∈ ['-', '\u2212'], isBlank c = false :=
      List.forall_mem_cons.mpr ⟨by decide, List.forall_mem_singleton.mpr (by decide)⟩
    exact hclock (hmarks _ hsign) hhours hminutes

theorem OffsetText.ne_nil (h : OffsetText cs offset) : cs ≠ [] := by
  cases h <;> exact List.cons_ne_nil _ _

/-- A date and time begins with its year and ends with its distance from UTC. -/
theorem DateTimeText.ends (h : DateTimeText cs t) :
    ∃ year between offset, Figures 4 year t.year ∧ OffsetText offset t.offset ∧
      cs = year ++ '-' :: (between ++ offset) := by
  cases h with
  | @of _ separator year month day hour minute second fraction offset hyear _ _ _ _ _ _ _ hoffset =>
    exact ⟨year, month ++ '-' :: (day ++ separator :: (hour ++ ':' :: (minute ++ ':' ::
      (second ++ fraction)))), offset, hyear, hoffset, by simp⟩

theorem DateTimeText.head_not_isBlank (h : DateTimeText cs t) :
    ∀ c ∈ cs.head?, isBlank c = false := by
  obtain ⟨year, between, offset, hyear, -, rfl⟩ := h.ends
  intro c hc
  rw [List.head?_append_of_ne_nil _ hyear.ne_nil] at hc
  exact hyear.not_isBlank c (List.mem_of_mem_head? hc)

theorem DateTimeText.last_not_isBlank (h : DateTimeText cs t) :
    ∀ c ∈ cs.getLast?, isBlank c = false := by
  obtain ⟨year, between, offset, -, hoffset, rfl⟩ := h.ends
  intro c hc
  rw [← List.cons_append, ← List.append_assoc, List.getLast?_append_of_ne_nil _ hoffset.ne_nil] at hc
  exact hoffset.not_isBlank c (List.mem_of_getLast? hc)

/-- A date and time is no integer: behind the year stands a dash. -/
theorem DateTimeText.not_integerText (h : DateTimeText cs t) : ¬ IntegerText cs n := by
  intro hint
  obtain ⟨year, between, offset, hyear, -, rfl⟩ := h.ends
  obtain ⟨c, year, rfl⟩ := List.exists_cons_of_ne_nil hyear.ne_nil
  have hdash : ('-' : Char).isDigit = true := hint.tail_isDigit '-' (by simp)
  exact absurd hdash (by decide)

/-! ## The two readers -/

theorem ofSeconds?_eq_some_iff {s : String} :
    ofSeconds? s = some i ↔
      ∃ n, IntegerText s.toList n ∧ -8334601228800 ≤ n ∧ n ≤ 8210266876799 ∧ i = ⟨n, 0⟩ := by
  rw [ofSeconds?, Option.map_eq_some_iff]
  constructor
  · rintro ⟨n, hread, rfl⟩
    obtain ⟨hsigned, hrange⟩ := Option.filter_eq_some_iff.mp hread
    obtain ⟨hfirst, hlast⟩ := of_decide_eq_true hrange
    exact ⟨n, (Text.signed?_eq_some_iff.mp hsigned).1, hfirst, hlast, rfl⟩
  · rintro ⟨n, htext, hfirst, hlast, rfl⟩
    have hsigned : Text.signed? 64 s = some n :=
      Text.signed?_eq_some_iff.mpr ⟨htext, by omega, by omega⟩
    exact ⟨n, Option.filter_eq_some_iff.mpr ⟨hsigned, decide_eq_true ⟨hfirst, hlast⟩⟩, rfl⟩

theorem ofDateTime?_eq_some_iff {s : String} :
    ofDateTime? s = some i ↔ ∃ t, DateTimeText s.toList t ∧ t.Exists ∧ i = t.toInstant := by
  rw [ofDateTime?, Option.map_eq_some_iff]
  constructor
  · rintro ⟨t, hread, rfl⟩
    obtain ⟨htext, hexists⟩ := readLocalTime?_eq_some_iff.mp hread
    exact ⟨t, htext, hexists, rfl⟩
  · rintro ⟨t, htext, hexists, rfl⟩
    exact ⟨t, readLocalTime?_eq_some_iff.mpr ⟨htext, hexists⟩, rfl⟩

/-- What one reader accepts, the other does not. -/
theorem ofDateTime?_or_signed? (s : String) : ofDateTime? s = none ∨ Text.signed? 64 s = none := by
  rw [or_iff_not_imp_left]
  intro hsome
  obtain ⟨i, hread⟩ := Option.ne_none_iff_exists'.mp hsome
  obtain ⟨t, htext, -⟩ := ofDateTime?_eq_some_iff.mp hread
  refine Option.eq_none_iff_forall_ne_some.mpr fun n hn => ?_
  exact htext.not_integerText (Text.signed?_eq_some_iff.mp hn).1

/-- The instant of a local time: the days since the beginning of 1970, the time of day up to second 59
and the distance from UTC; a leap second is a second more than a billion billionths. -/
theorem toInstant_eq (h : t.Exists) :
    ∃ days, Date.DaysFrom Date.epoch t.date days ∧
      t.toInstant = ⟨days * 86400 + (t.hour * 3600 + t.minute * 60 + min t.second 59) - t.offset,
        t.nanos + if t.second = 60 then 10 ^ 9 else 0⟩ := by
  refine ⟨t.date.number, Date.daysFrom_epoch h.date, ?_⟩
  have hsecond := h.second
  rw [LocalTime.toInstant, Instant.mk.injEq]
  constructor
  · simp only [Date.number, LocalTime.date]
    push_cast
    rfl
  · split
    · next heq =>
      rw [heq]
      rfl
    · omega

/-! ## All texts -/

/-- **A text names the instant that is written in it.** With any white space around it, an integer is
that many seconds if they lie within the calendar, and a date and time that exist are the seconds to
that time in UTC, with the billionths of its fraction and a billion more in a leap second. No text is
read both ways, so their order is no matter, and every text that is neither is the instant zero. -/
theorem ofText_exact (raw : String) :
    (∀ s n, Text.Padded s raw.toList → IntegerText s n →
      -8334601228800 ≤ n → n ≤ 8210266876799 → ofText raw = ⟨n, 0⟩) ∧
    (∀ s t, Text.Padded s raw.toList → DateTimeText s t → t.Exists →
      ∃ days, Date.DaysFrom Date.epoch t.date days ∧
        ofText raw =
          ⟨days * 86400 + (t.hour * 3600 + t.minute * 60 + min t.second 59) - t.offset,
            t.nanos + if t.second = 60 then 10 ^ 9 else 0⟩) ∧
    (∀ s : String, ofDateTime? s = none ∨ Text.signed? 64 s = none) ∧
    (∀ s : String, (ofDateTime? s).or (ofSeconds? s) = (ofSeconds? s).or (ofDateTime? s)) ∧
    ((∀ s t, Text.Padded s raw.toList → DateTimeText s t → ¬ t.Exists) →
      (∀ s n, Text.Padded s raw.toList → IntegerText s n →
        ¬ (-8334601228800 ≤ n ∧ n ≤ 8210266876799)) →
      ofText raw = ⟨0, 0⟩) := by
  have hnone : ∀ s : String, ofDateTime? s = none ∨ ofSeconds? s = none := by
    intro s
    refine (ofDateTime?_or_signed? s).imp_right fun hsigned => ?_
    rw [ofSeconds?, hsigned]
    rfl
  refine ⟨?_, ?_, ofDateTime?_or_signed?, ?_, ?_⟩
  · intro s n hpadded htext hfirst hlast
    have htrim : (Text.trim raw).toList = s := htext.toList_trim hpadded
    have hread : ofSeconds? (Text.trim raw) = some ⟨n, 0⟩ :=
      ofSeconds?_eq_some_iff.mpr ⟨n, htrim ▸ htext, hfirst, hlast, rfl⟩
    have hdate : ofDateTime? (Text.trim raw) = none := by
      refine (hnone _).resolve_right ?_
      rw [hread]
      exact Option.some_ne_none _
    rw [ofText, hdate, hread]
    rfl
  · intro s t hpadded htext hexists
    have htrim : (Text.trim raw).toList = s :=
      Text.toList_trim_of_padded hpadded htext.head_not_isBlank htext.last_not_isBlank
    have hread : ofDateTime? (Text.trim raw) = some t.toInstant :=
      ofDateTime?_eq_some_iff.mpr ⟨t, htrim ▸ htext, hexists, rfl⟩
    obtain ⟨days, hdays, hinstant⟩ := toInstant_eq hexists
    refine ⟨days, hdays, ?_⟩
    rw [ofText, hread, ← hinstant]
    rfl
  · intro s
    rcases hnone s with h | h
    · rw [h, Option.none_or, Option.or_none]
    · rw [h, Option.none_or, Option.or_none]
  · intro hdate hint
    have hpadded := Text.padded_trim raw
    have hdate' : ofDateTime? (Text.trim raw) = none := by
      refine Option.eq_none_iff_forall_ne_some.mpr fun i hread => ?_
      obtain ⟨t, htext, hexists, -⟩ := ofDateTime?_eq_some_iff.mp hread
      exact hdate _ t hpadded htext hexists
    have hint' : ofSeconds? (Text.trim raw) = none := by
      refine Option.eq_none_iff_forall_ne_some.mpr fun i hread => ?_
      obtain ⟨n, htext, hfirst, hlast, -⟩ := ofSeconds?_eq_some_iff.mp hread
      exact hint _ n hpadded htext ⟨hfirst, hlast⟩
    rw [ofText, hdate', hint']
    rfl

/-- A leap second, an hour east of UTC. -/
example : ofText " 2016-12-31 23:59:60.25+01:00" = ⟨1483225199, 1250000000⟩ := by decide

end RoomBridge.Instant
