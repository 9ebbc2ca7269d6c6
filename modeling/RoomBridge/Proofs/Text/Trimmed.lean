import Mathlib.Data.List.DropRight
import RoomBridge.Text.Blank

/-!
# Trimmed texts

What is left of a text once the white space at its ends is gone, and which text that is: the one that
starts and ends with other characters and has only white space around it.

* `takeWhile_run`, `dropWhile_run` : a run of characters ends where the class of them does;
* `Tidy`, `tidy_trim` : a text without white space at its ends;
* `Padded`, `trimmed_of_padded` : the same text with white space around it;
* `Repadded`, `Repadded.trim_eq` : two texts that differ in such white space.
-/

namespace RoomBridge.Text

/-! ## Runs -/

variable {α : Type} {p : α → Bool} {run rest : List α}

theorem takeWhile_run (hrun : ∀ c ∈ run, p c = true) (hstop : ∀ c ∈ rest.head?, p c = false) :
    (run ++ rest).takeWhile p = run := by
  rw [List.takeWhile_append_of_pos hrun]
  cases rest with
  | nil => simp
  | cons c rest => simp [hstop c rfl]

theorem dropWhile_run (hrun : ∀ c ∈ run, p c = true) (hstop : ∀ c ∈ rest.head?, p c = false) :
    (run ++ rest).dropWhile p = rest := by
  rw [List.dropWhile_append_of_pos hrun]
  cases rest with
  | nil => rfl
  | cons c rest => simp [hstop c rfl]

/-! ## Tidy texts -/

/-- A text that is not blank and has no white space at its ends. -/
structure Tidy (s : String) : Prop where
  blank_eq : blank s = false
  head : ∀ c, s.toList.head? = some c → isBlank c = false
  last : ∀ c, s.toList.getLast? = some c → isBlank c = false

theorem head_trimmed {cs : List Char} (h : trimmed cs ≠ []) :
    isBlank ((trimmed cs).head h) = false := by
  -- What is cut off the end leaves the first character where it is.
  have hkept : trimmed cs <+: cs.dropWhile isBlank := List.rdropWhile_prefix isBlank _
  rw [hkept.head h]
  exact List.head_dropWhile_not isBlank _

theorem getLast_trimmed {cs : List Char} (h : trimmed cs ≠ []) :
    isBlank ((trimmed cs).getLast h) = false :=
  Bool.eq_false_iff.mpr (List.rdropWhile_last_not isBlank (cs.dropWhile isBlank) h)

theorem tidy_trim {s : String} (h : blank s = false) : Tidy (trim s) := by
  have hne : trimmed s.toList ≠ [] := by
    rw [ne_eq, trimmed_eq_nil_iff]
    exact Bool.eq_false_iff.mp h
  have htext : (trim s).toList = trimmed s.toList := String.toList_ofList
  refine ⟨?_, ?_, ?_⟩
  · rw [blank, htext, List.all_eq_false]
    exact ⟨_, List.head_mem hne, by simp [head_trimmed hne]⟩
  · intro c hc
    rw [htext, List.head?_eq_some_head hne, Option.some.injEq] at hc
    exact hc ▸ head_trimmed hne
  · intro c hc
    rw [htext, List.getLast?_eq_some_getLast hne, Option.some.injEq] at hc
    exact hc ▸ getLast_trimmed hne

theorem tidy_trimmed {cs : List Char} {c : Char} (h : c ∈ trimmed cs) :
    Tidy (String.ofList (trimmed cs)) := by
  have hblank : blank (String.ofList cs) = false := by
    rw [blank, String.toList_ofList, ← Bool.not_eq_true, ← trimmed_eq_nil_iff]
    exact List.ne_nil_of_mem h
  have htidy := tidy_trim hblank
  rwa [trim, String.toList_ofList] at htidy

/-! ## White space around a text -/

/-- A text with white space around it, or without any. -/
def Padded (core whole : List Char) : Prop :=
  ∃ before after : List Char, (∀ c ∈ before, isBlank c = true) ∧ (∀ c ∈ after, isBlank c = true) ∧
    whole = before ++ core ++ after

theorem padded_trimmed (cs : List Char) : Padded (trimmed cs) cs := by
  have hback : trimmed cs ++ (cs.dropWhile isBlank).rtakeWhile isBlank = cs.dropWhile isBlank := by
    rw [List.rtakeWhile, trimmed, ← List.reverse_append, List.takeWhile_append_dropWhile,
      List.reverse_reverse]
  refine ⟨cs.takeWhile isBlank, (cs.dropWhile isBlank).rtakeWhile isBlank, ?_, ?_, ?_⟩
  · intro c hc
    exact List.mem_takeWhile_imp hc
  · intro c hc
    exact List.mem_rtakeWhile_imp hc
  · rw [List.append_assoc, hback, List.takeWhile_append_dropWhile]

theorem padded_trim (s : String) : Padded (trim s).toList s.toList := by
  rw [trim, String.toList_ofList]
  exact padded_trimmed _

/-- Trimming finds the text again that was padded. -/
theorem trimmed_of_padded {core whole : List Char} (h : Padded core whole)
    (hhead : ∀ c ∈ core.head?, isBlank c = false) (hlast : ∀ c ∈ core.getLast?, isBlank c = false) :
    trimmed whole = core := by
  obtain ⟨before, after, hbefore, hafter, rfl⟩ := h
  cases core with
  | nil =>
    rw [trimmed_eq_nil_iff, List.append_nil, List.all_append, Bool.and_eq_true]
    exact ⟨List.all_eq_true.mpr hbefore, List.all_eq_true.mpr hafter⟩
  | cons c core =>
    have hfront : (before ++ (c :: core ++ after)).dropWhile isBlank = c :: core ++ after :=
      dropWhile_run hbefore (by simpa using hhead)
    have hback : (after.reverse ++ (c :: core).reverse).dropWhile isBlank = (c :: core).reverse :=
      dropWhile_run (by simpa using hafter) (by rwa [List.head?_reverse])
    rw [trimmed, List.append_assoc, hfront, List.reverse_append, hback, List.reverse_reverse]

theorem toList_trim_of_padded {core : List Char} {s : String} (h : Padded core s.toList)
    (hhead : ∀ c ∈ core.head?, isBlank c = false) (hlast : ∀ c ∈ core.getLast?, isBlank c = false) :
    (trim s).toList = core := by
  rw [trim, String.toList_ofList, trimmed_of_padded h hhead hlast]

theorem Padded.trans {inner core whole : List Char} (h : Padded inner core)
    (hcore : Padded core whole) : Padded inner whole := by
  obtain ⟨before, after, hbefore, hafter, rfl⟩ := h
  obtain ⟨front, back, hfront, hback, rfl⟩ := hcore
  refine ⟨front ++ before, after ++ back, ?_, ?_, by simp only [List.append_assoc]⟩
  · exact List.forall_mem_append.mpr ⟨hfront, hbefore⟩
  · exact List.forall_mem_append.mpr ⟨hafter, hback⟩

/-- White space around a text goes when it is trimmed, together with what the text itself has at its
ends. -/
theorem Padded.trimmed_eq {core whole : List Char} (h : Padded core whole) :
    trimmed whole = trimmed core := by
  refine trimmed_of_padded ((padded_trimmed core).trans h) ?_ ?_
  · intro c hc
    have hne : trimmed core ≠ [] := fun hnil => by simp [hnil] at hc
    rw [List.head?_eq_some_head hne, Option.mem_some] at hc
    exact hc ▸ head_trimmed hne
  · intro c hc
    have hne : trimmed core ≠ [] := fun hnil => by simp [hnil] at hc
    rw [List.getLast?_eq_some_getLast hne, Option.mem_some] at hc
    exact hc ▸ getLast_trimmed hne

/-- Two texts that differ at most in the white space at their ends. -/
def Repadded (s t : String) : Prop := ∃ core, Padded core s.toList ∧ Padded core t.toList

theorem Repadded.trim_eq {s t : String} (h : Repadded s t) : trim t = trim s := by
  obtain ⟨core, hs, ht⟩ := h
  rw [trim, trim, hs.trimmed_eq, ht.trimmed_eq]

theorem Repadded.blank_eq {s t : String} (h : Repadded s t) : blank t = blank s := by
  rw [← blank_trim t, h.trim_eq, blank_trim]

theorem repadded_of_trim_eq {s t : String} (h : trim t = trim s) : Repadded s t :=
  ⟨(trim s).toList, padded_trim s, h ▸ padded_trim t⟩

/-- A tidy text is what is left of every text that differs from it in white space. -/
theorem Tidy.trim_eq {s : String} (h : Tidy s) : trim s = s := by
  have hcore : Padded s.toList s.toList := ⟨[], [], by simp, by simp, by simp⟩
  rw [← String.toList_inj]
  exact toList_trim_of_padded hcore (fun c hc => h.head c hc) (fun c hc => h.last c hc)

end RoomBridge.Text
