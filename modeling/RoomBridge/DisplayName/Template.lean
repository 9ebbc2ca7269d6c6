import RoomBridge.Text.Blank
import RoomBridge.Text.CharClass

/-!
# Templates of display names

A placeholder is two opening braces, a name and two closing braces; white space may stand around the
name and one point before it. `Template.segments` cuts a template into placeholders and single
characters, from the left; whatever does not complete a placeholder is kept as it is.
-/

namespace RoomBridge

/-- A piece of a template. -/
inductive Segment
  | literal (c : Char)
  | placeholder (name : List Char)
  deriving DecidableEq, Repr

namespace Template

/-- A name, the white space after it and the closing braces. -/
def closePlaceholder? (cs : List Char) : Option (List Char × List Char) :=
  match cs.takeWhile Text.isWordChar with
  | [] => none
  | name =>
    match (cs.dropWhile Text.isWordChar).dropWhile Text.isBlank with
    | '}' :: '}' :: rest => some (name, rest)
    | _ => none

/-- A placeholder at the start of a text: its name, and what follows it. -/
def placeholder? : List Char → Option (List Char × List Char)
  | '{' :: '{' :: cs =>
    match cs.dropWhile Text.isBlank with
    | '.' :: r => closePlaceholder? r
    | r => closePlaceholder? r
  | _ => none

theorem length_dropWhile_le {α : Type} (p : α → Bool) (xs : List α) :
    (xs.dropWhile p).length ≤ xs.length := by
  induction xs with
  | nil => simp
  | cons x xs ih =>
    rw [List.dropWhile_cons]
    split
    · exact Nat.le_trans ih (Nat.le_succ _)
    · exact Nat.le_refl _

theorem length_of_closePlaceholder? {cs name rest : List Char}
    (h : closePlaceholder? cs = some (name, rest)) : rest.length < cs.length := by
  have hw := length_dropWhile_le Text.isWordChar cs
  have hb := length_dropWhile_le Text.isBlank (cs.dropWhile Text.isWordChar)
  simp only [closePlaceholder?] at h
  split at h
  · cases h
  · split at h
    next r he =>
      cases h
      rw [he] at hb
      simp only [List.length_cons] at hb
      omega
    · cases h

/-- A placeholder takes up at least one character. -/
theorem length_of_placeholder? {cs name rest : List Char}
    (h : placeholder? cs = some (name, rest)) : rest.length < cs.length := by
  rw [placeholder?.eq_def] at h
  split at h
  next cs' =>
    have hb := length_dropWhile_le Text.isBlank cs'
    split at h
    next r he =>
      have := length_of_closePlaceholder? h
      rw [he] at hb
      simp only [List.length_cons] at hb ⊢
      omega
    next =>
      have := length_of_closePlaceholder? h
      simp only [List.length_cons]
      omega
  · cases h

/-- The pieces of a template, from left to right. -/
def segments (cs : List Char) : List Segment :=
  match _h : placeholder? cs with
  | some (name, rest) => .placeholder name :: segments rest
  | none =>
    match cs with
    | [] => []
    | c :: rest => .literal c :: segments rest
termination_by cs.length
decreasing_by
  · exact length_of_placeholder? _h
  · exact Nat.lt_succ_self _

end Template

end RoomBridge
