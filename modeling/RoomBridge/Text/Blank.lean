/-!
# White space

`isBlank` is the White_Space property; `trim` cuts it off both ends of a text, `blank` says that a
text holds nothing else, and `firstWord?` is the first run of other characters.
-/

namespace RoomBridge.Text

/-- The characters with the property White_Space. -/
def isBlank (c : Char) : Bool :=
  let n := c.toNat
  (0x9 ≤ n && n ≤ 0xD) || n == 0x20 || n == 0x85 || n == 0xA0 || n == 0x1680 ||
    (0x2000 ≤ n && n ≤ 0x200A) || n == 0x2028 || n == 0x2029 || n == 0x202F || n == 0x205F ||
    n == 0x3000

/-- Characters without the white space at their two ends. -/
def trimmed (cs : List Char) : List Char :=
  ((cs.dropWhile isBlank).reverse.dropWhile isBlank).reverse

/-- A text without the white space at its two ends. -/
def trim (s : String) : String := String.ofList (trimmed s.toList)

/-- The text is empty or white space only. -/
def blank (s : String) : Bool := s.toList.all isBlank

/-- The first maximal run of characters that are not white space. -/
def firstWord? (s : String) : Option String :=
  match (s.toList.dropWhile isBlank).takeWhile (!isBlank ·) with
  | [] => none
  | word => some (String.ofList word)

/-- A value that counts only if it is not blank. -/
def nonblank? (s : String) : Option String := if blank s then none else some s

/-! ## What trimming keeps -/

theorem dropWhile_isBlank_eq_nil_iff (cs : List Char) :
    cs.dropWhile isBlank = [] ↔ cs.all isBlank = true := by
  induction cs with
  | nil => simp
  | cons c cs ih => by_cases h : isBlank c = true <;> simp_all

theorem all_dropWhile_isBlank (cs : List Char) :
    (cs.dropWhile isBlank).all isBlank = cs.all isBlank := by
  induction cs with
  | nil => rfl
  | cons c cs ih => by_cases h : isBlank c = true <;> simp_all

theorem trimmed_eq_nil_iff (cs : List Char) : trimmed cs = [] ↔ cs.all isBlank = true := by
  rw [trimmed, List.reverse_eq_nil_iff, dropWhile_isBlank_eq_nil_iff, List.all_reverse,
    all_dropWhile_isBlank]

theorem trim_eq_empty_iff (s : String) : trim s = "" ↔ blank s = true := by
  rw [trim, blank, ← trimmed_eq_nil_iff, ← String.ofList_nil, String.ofList_inj]

theorem blank_trim (s : String) : blank (trim s) = blank s := by
  rw [blank, trim, String.toList_ofList, trimmed, List.all_reverse, all_dropWhile_isBlank,
    List.all_reverse, all_dropWhile_isBlank, blank]

end RoomBridge.Text
