/-!
# Cutting texts

`fields` cuts at every occurrence of a separator, `cutAt` at the first one, `dropEnd?` takes an
ending off. What they do with one character more is said by `fields_cons_self`, `fields_cons_of_ne`,
`cutAt_cons_self` and `cutAt_cons_of_ne`. `join_fields` puts the fields back together;
`fields_append_cons` and `fields_of_not_mem` say what the fields of a joined text are, and
`cutAt_append_of_some` and `cutAt_append_of_not_mem` where it is cut.
-/

namespace RoomBridge.Text

/-- The parts of a text between the occurrences of `sep`; there is one more part than occurrences. -/
def fields (sep : Char) : List Char → List (List Char)
  | [] => [[]]
  | c :: cs =>
    if c = sep then [] :: fields sep cs
    else
      match fields sep cs with
      | [] => [[c]]
      | f :: fs => (c :: f) :: fs

/-- What stands before and after the first `sep`, if there is one. -/
def cutAt (sep : Char) : List Char → Option (List Char × List Char)
  | [] => none
  | c :: cs => if c = sep then some ([], cs) else (cutAt sep cs).map fun (a, b) => (c :: a, b)

/-- What stands before the first `sep`, or everything. -/
def upTo (sep : Char) (cs : List Char) : List Char := cs.takeWhile (· ≠ sep)

/-- The text without the ending `e`, if it has that ending. -/
def dropEnd? (e cs : List Char) : Option (List Char) := e.isSuffixOf? cs

/-- The text without the opening `p`, or unchanged if it has no such opening. -/
def dropStart (p cs : List Char) : List Char := (p.isPrefixOf? cs).getD cs

/-- The text without any `c` at its end. -/
def dropTrailing (c : Char) (s : String) : String :=
  String.ofList ((s.toList.reverse.dropWhile (· = c)).reverse)

/-- ASCII capitals made small; every other character is kept. -/
def lower (cs : List Char) : List Char := cs.map Char.toLower

/-! ## Letters and digits -/

theorem isAlphanum_cases {c : Char} (h : c.isAlphanum = true) :
    (65 ≤ c.toNat ∧ c.toNat ≤ 90 ∨ 97 ≤ c.toNat ∧ c.toNat ≤ 122) ∨
      48 ≤ c.toNat ∧ c.toNat ≤ 57 := by
  unfold Char.isAlphanum Char.isAlpha Char.isUpper Char.isLower Char.isDigit at h
  simpa [UInt32.le_iff_toNat_le] using h

/-! ## Fields -/

theorem fields_cons_self (sep : Char) (cs : List Char) :
    fields sep (sep :: cs) = [] :: fields sep cs := if_pos rfl

/-- A character that is no separator opens the first field. -/
theorem fields_cons_of_ne {sep c : Char} {cs f : List Char} {fs : List (List Char)} (h : c ≠ sep)
    (hf : fields sep cs = f :: fs) : fields sep (c :: cs) = (c :: f) :: fs := by
  rw [fields, if_neg h, hf]

theorem exists_fields (sep : Char) (cs : List Char) : ∃ f fs, fields sep cs = f :: fs := by
  induction cs with
  | nil => exact ⟨[], [], rfl⟩
  | cons c cs ih =>
    obtain ⟨f, fs, hf⟩ := ih
    by_cases h : c = sep
    · exact ⟨[], fields sep cs, if_pos h⟩
    · exact ⟨c :: f, fs, fields_cons_of_ne h hf⟩

theorem fields_ne_nil (sep : Char) (cs : List Char) : fields sep cs ≠ [] := by
  obtain ⟨f, fs, hf⟩ := exists_fields sep cs
  rw [hf]
  exact List.cons_ne_nil f fs

theorem join_fields (sep : Char) (cs : List Char) :
    [sep].intercalate (fields sep cs) = cs := by
  induction cs with
  | nil => exact List.intercalate_singleton
  | cons c cs ih =>
    obtain ⟨f, fs, hf⟩ := exists_fields sep cs
    by_cases h : c = sep
    · rw [h, fields_cons_self, hf, List.intercalate_cons_cons, ← hf, ih]
      rfl
    · rw [fields_cons_of_ne h hf]
      rw [hf] at ih
      cases fs with
      | nil =>
        rw [List.intercalate_singleton] at ih ⊢
        rw [ih]
      | cons g gs =>
        rw [List.intercalate_cons_cons] at ih ⊢
        rw [List.cons_append, List.cons_append, ih]

/-- A separator ends the fields before it and opens those after it. -/
theorem fields_append_cons (sep : Char) (a b : List Char) :
    fields sep (a ++ sep :: b) = fields sep a ++ fields sep b := by
  induction a with
  | nil => exact fields_cons_self sep b
  | cons c cs ih =>
    by_cases h : c = sep
    · rw [h, List.cons_append, fields_cons_self, ih, fields_cons_self, List.cons_append]
    · obtain ⟨f, fs, hf⟩ := exists_fields sep cs
      rw [hf, List.cons_append] at ih
      rw [List.cons_append, fields_cons_of_ne h ih, fields_cons_of_ne h hf, List.cons_append]

theorem fields_of_not_mem {sep : Char} {cs : List Char} (h : sep ∉ cs) : fields sep cs = [cs] := by
  induction cs with
  | nil => rfl
  | cons c cs ih =>
    rw [List.mem_cons, not_or] at h
    exact fields_cons_of_ne (Ne.symm h.1) (ih h.2)

/-- A text with one field is that field. -/
theorem eq_of_fields_eq_singleton {sep : Char} {cs f : List Char} (h : fields sep cs = [f]) :
    cs = f := by
  have hjoin := join_fields sep cs
  rwa [h, List.intercalate_singleton, eq_comm] at hjoin

/-! ## The first occurrence -/

variable {sep : Char} {xs before after : List Char}

theorem cutAt_cons_self (sep : Char) (cs : List Char) : cutAt sep (sep :: cs) = some ([], cs) :=
  if_pos rfl

theorem cutAt_cons_of_ne {c : Char} (h : c ≠ sep) (cs : List Char) :
    cutAt sep (c :: cs) = (cutAt sep cs).map fun (a, b) => (c :: a, b) := if_neg h

theorem eq_of_cutAt (h : cutAt sep xs = some (before, after)) : xs = before ++ sep :: after := by
  induction xs generalizing before with
  | nil => cases h
  | cons c xs ih =>
    by_cases hc : c = sep
    · rw [hc, cutAt_cons_self] at h
      cases h
      rw [hc, List.nil_append]
    · rw [cutAt_cons_of_ne hc] at h
      obtain ⟨⟨start, rest⟩, hcut, heq⟩ := Option.map_eq_some_iff.mp h
      cases heq
      rw [ih hcut, List.cons_append]

/-- What follows a text that is cut does not move the cut. -/
theorem cutAt_append_of_some (h : cutAt sep xs = some (before, after)) (ys : List Char) :
    cutAt sep (xs ++ ys) = some (before, after ++ ys) := by
  induction xs generalizing before with
  | nil => cases h
  | cons c xs ih =>
    rw [List.cons_append]
    by_cases hc : c = sep
    · rw [hc, cutAt_cons_self] at h ⊢
      cases h
      rfl
    · rw [cutAt_cons_of_ne hc] at h ⊢
      obtain ⟨⟨start, rest⟩, hcut, heq⟩ := Option.map_eq_some_iff.mp h
      cases heq
      rw [ih hcut, Option.map_some]

/-- A text without the separator is not cut, only what follows it is. -/
theorem cutAt_append_of_not_mem (h : sep ∉ xs) (ys : List Char) :
    cutAt sep (xs ++ ys) = (cutAt sep ys).map fun (a, b) => (xs ++ a, b) := by
  induction xs with
  | nil => simp
  | cons c xs ih =>
    rw [List.mem_cons, not_or] at h
    rw [List.cons_append, cutAt_cons_of_ne (Ne.symm h.1), ih h.2, Option.map_map]
    rfl

theorem cutAt_of_not_mem (h : sep ∉ xs) : cutAt sep xs = none := by
  have hcut := cutAt_append_of_not_mem h []
  rwa [List.append_nil] at hcut

theorem upTo_append_of_not_mem (h : sep ∉ xs) (ys : List Char) :
    upTo sep (xs ++ ys) = xs ++ upTo sep ys := by
  refine List.takeWhile_append_of_pos fun c hc => ?_
  exact decide_eq_true fun heq : c = sep => h (heq ▸ hc)

/-- What follows a text with the separator does not count. -/
theorem upTo_append_of_mem (h : sep ∈ xs) (ys : List Char) : upTo sep (xs ++ ys) = upTo sep xs := by
  induction xs with
  | nil => cases h
  | cons c xs ih =>
    simp only [upTo, List.cons_append, List.takeWhile_cons]
    split
    next hc =>
      have hne : sep ≠ c := fun heq => of_decide_eq_true hc heq.symm
      exact congrArg (c :: ·) (ih ((List.mem_cons.mp h).resolve_left hne))
    next => rfl

theorem upTo_of_not_mem (h : sep ∉ xs) : upTo sep xs = xs := by
  simpa [upTo] using upTo_append_of_not_mem h []

theorem not_mem_upTo (sep : Char) (cs : List Char) : sep ∉ upTo sep cs := by
  intro hmem
  have hall := List.all_takeWhile (p := fun c => decide (c ≠ sep)) (l := cs)
  have hne := List.all_eq_true.mp hall sep hmem
  simp at hne

/-- What stands before the first separator is what the cut leaves, or everything. -/
theorem upTo_eq (sep : Char) (cs : List Char) :
    upTo sep cs = ((cutAt sep cs).map Prod.fst).getD cs := by
  induction cs with
  | nil => rfl
  | cons c cs ih =>
    rw [upTo, List.takeWhile_cons]
    by_cases hc : c = sep
    · rw [hc, cutAt_cons_self, if_neg (by simp)]
      rfl
    · rw [if_pos (decide_eq_true hc), cutAt_cons_of_ne hc, Option.map_map, ← upTo, ih]
      cases cutAt sep cs <;> rfl

end RoomBridge.Text
