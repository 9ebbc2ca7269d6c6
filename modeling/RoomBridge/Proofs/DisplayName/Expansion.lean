import RoomBridge.DisplayName
import RoomBridge.Proofs.Text.Trimmed

/-!
# How a template is filled in

A placeholder is said by its grammar, without a reader, and a template is scanned from the left: where
a placeholder begins, the longest one there is a piece; where none does, one character is. White space,
words, points and braces have no character in common, so a placeholder is never the beginning of
another and every template has one scan. The scan knows no contact, so what is filled in is not
scanned again.

* `IsPlaceholder` : the text of a placeholder with a name;
* `placeholder?_eq_some_iff` : the reader finds a placeholder where one begins;
* `Scan`, `scan_iff` : the pieces of a template are those of its scan;
* `fill_singlePass` : the text that a contact makes of a template.
-/

namespace RoomBridge

/-! ## Classes of characters -/

namespace Text

/-- The ranges of white space. -/
def blankRanges : List (Nat × Nat) :=
  [(0x9, 0xD), (0x20, 0x20), (0x85, 0x85), (0xA0, 0xA0), (0x1680, 0x1680), (0x2000, 0x200A),
    (0x2028, 0x2029), (0x202F, 0x202F), (0x205F, 0x205F), (0x3000, 0x3000)]

theorem inRanges_of_isBlank {c : Char} (h : isBlank c = true) : inRanges blankRanges c = true := by
  simp only [isBlank, Bool.or_eq_true, Bool.and_eq_true, decide_eq_true_eq, beq_iff_eq] at h
  simp only [inRanges, blankRanges, List.any_cons, List.any_nil, Bool.or_eq_true, Bool.and_eq_true,
    decide_eq_true_eq, Bool.or_false]
  omega

/-- Ranges that lie apart have no character in common. -/
theorem inRanges_eq_false {rs ss : List (Nat × Nat)} {c : Char}
    (hapart : ∀ r ∈ rs, ∀ s ∈ ss, r.2 < s.1 ∨ s.2 < r.1) (hc : inRanges rs c = true) :
    inRanges ss c = false := by
  obtain ⟨r, hr, hin⟩ := List.any_eq_true.mp hc
  rw [inRanges, List.any_eq_false]
  intro s hs
  have := hapart r hr s hs
  simp only [Bool.and_eq_true, decide_eq_true_eq] at hin ⊢
  omega

theorem blankRanges_apart :
    ∀ r ∈ blankRanges, ∀ s ∈ alphabeticRanges ++ wordExtraRanges, r.2 < s.1 ∨ s.2 < r.1 := by
  decide +kernel

/-- The marks of a placeholder are no part of a word. -/
theorem not_isWordChar_of_mark : isWordChar '}' = false ∧ isWordChar '.' = false := by
  decide +kernel

/-- White space is no part of a word. -/
theorem not_isWordChar_of_isBlank {c : Char} (h : isBlank c = true) : isWordChar c = false := by
  have hranges := inRanges_of_isBlank h
  have halpha : inRanges alphabeticRanges c = false :=
    inRanges_eq_false (fun r hr s hs => blankRanges_apart r hr s (List.mem_append_left _ hs)) hranges
  have hextra : inRanges wordExtraRanges c = false :=
    inRanges_eq_false (fun r hr s hs => blankRanges_apart r hr s (List.mem_append_right _ hs)) hranges
  rw [isWordChar, isAlphabetic, halpha, hextra]
  rfl

theorem not_isBlank_of_isWordChar {c : Char} (h : isWordChar c = true) : isBlank c = false := by
  cases hblank : isBlank c with
  | false => rfl
  | true => exact absurd h (by rw [not_isWordChar_of_isBlank hblank]; exact Bool.false_ne_true)

end Text

namespace Template

open Text (isBlank isWordChar)

variable {cs name rest w : List Char} {pieces : List Segment}

/-! ## Placeholders -/

/-- The text of a placeholder: two opening braces, white space, a point or none, the name, white
space, two closing braces. -/
inductive IsPlaceholder (name : List Char) : List Char → Prop
  | of {before point after : List Char} : (∀ c ∈ before, isBlank c = true) →
      point ∈ [[], ['.']] → name ≠ [] → (∀ c ∈ name, isWordChar c = true) →
      (∀ c ∈ after, isBlank c = true) →
      IsPlaceholder name ('{' :: '{' :: (before ++ point ++ name ++ after ++ ['}', '}']))

/-- What a placeholder ends with is read, from its name on. -/
theorem closePlaceholder?_eq_some_iff :
    closePlaceholder? cs = some (name, rest) ↔
      name ≠ [] ∧ (∀ c ∈ name, isWordChar c = true) ∧
        ∃ after : List Char, (∀ c ∈ after, isBlank c = true) ∧
          cs = name ++ (after ++ '}' :: '}' :: rest) := by
  constructor
  · intro h
    unfold closePlaceholder? at h
    split at h
    · cases h
    · next hne =>
      split at h
      · next hclose =>
        cases h
        refine ⟨hne, fun c hc => List.mem_takeWhile_imp hc,
          (cs.dropWhile isWordChar).takeWhile isBlank, fun c hc => List.mem_takeWhile_imp hc, ?_⟩
        rw [← hclose, List.takeWhile_append_dropWhile, List.takeWhile_append_dropWhile]
      · cases h
  · rintro ⟨hne, hname, after, hafter, rfl⟩
    have hbrace : ∀ c ∈ ('}' :: '}' :: rest).head?, isBlank c = false := by
      simp only [List.head?_cons, Option.mem_some_iff, forall_eq']
      decide
    have hword : ∀ c ∈ (after ++ '}' :: '}' :: rest).head?, isWordChar c = false := by
      cases after with
      | nil =>
        simp only [List.nil_append, List.head?_cons, Option.mem_some_iff, forall_eq']
        exact Text.not_isWordChar_of_mark.1
      | cons b after =>
        simp only [List.cons_append, List.head?_cons, Option.mem_some_iff, forall_eq']
        exact Text.not_isWordChar_of_isBlank (hafter b List.mem_cons_self)
    unfold closePlaceholder?
    rw [Text.takeWhile_run hname hword, Text.dropWhile_run hname hword,
      Text.dropWhile_run hafter hbrace]
    split
    · exact absurd rfl hne
    · rfl

/-- A placeholder is read exactly where one begins. -/
theorem placeholder?_eq_some_iff :
    placeholder? cs = some (name, rest) ↔ ∃ w, IsPlaceholder name w ∧ cs = w ++ rest := by
  constructor
  · intro h
    rw [placeholder?.eq_def] at h
    split at h
    next inner =>
      obtain ⟨before, hbefore, hinner⟩ : ∃ before : List Char, (∀ c ∈ before, isBlank c = true) ∧
          inner = before ++ inner.dropWhile isBlank :=
        ⟨_, fun c hc => List.mem_takeWhile_imp hc, List.takeWhile_append_dropWhile.symm⟩
      split at h
      next r hpoint =>
        obtain ⟨hne, hname, after, hafter, rfl⟩ := closePlaceholder?_eq_some_iff.mp h
        rw [hpoint] at hinner
        exact ⟨_, .of hbefore (by simp : ['.'] ∈ [[], ['.']]) hne hname hafter, by simp [hinner]⟩
      next =>
        obtain ⟨hne, hname, after, hafter, heq⟩ := closePlaceholder?_eq_some_iff.mp h
        rw [heq] at hinner
        exact ⟨_, .of hbefore (by simp : [] ∈ [[], ['.']]) hne hname hafter, by simp [hinner]⟩
    · cases h
  · rintro ⟨w, hw, rfl⟩
    cases hw with
    | @of before point after hbefore hpoint hne hname hafter =>
      have hclose : closePlaceholder? (name ++ (after ++ '}' :: '}' :: rest)) = some (name, rest) :=
        closePlaceholder?_eq_some_iff.mpr ⟨hne, hname, after, hafter, rfl⟩
      obtain ⟨c, cs, rfl⟩ := List.exists_cons_of_ne_nil hne
      have hword : isWordChar c = true := hname c List.mem_cons_self
      simp only [List.mem_cons, List.not_mem_nil, or_false] at hpoint
      simp only [List.cons_append, List.append_assoc, List.nil_append, placeholder?]
      rcases hpoint with rfl | rfl
      · have hnopoint : c ≠ '.' := by
          rintro rfl
          exact absurd hword (by rw [Text.not_isWordChar_of_mark.2]; decide)
        rw [List.nil_append, Text.dropWhile_run hbefore
          (by simpa using Text.not_isBlank_of_isWordChar hword)]
        split
        · next heq => exact absurd (List.cons.inj heq).1 hnopoint
        · exact hclose
      · rw [Text.dropWhile_run hbefore (by simp; decide)]
        exact hclose

/-- One placeholder at most begins a text. -/
theorem IsPlaceholder.unique {name' w' : List Char} (h : IsPlaceholder name w)
    (h' : IsPlaceholder name' w') (hw : w <+: cs) (hw' : w' <+: cs) : w = w' ∧ name = name' := by
  obtain ⟨rest, rfl⟩ := hw
  obtain ⟨rest', heq⟩ := hw'
  have hread : placeholder? (w ++ rest) = some (name, rest) :=
    placeholder?_eq_some_iff.mpr ⟨w, h, rfl⟩
  have hread' : placeholder? (w ++ rest) = some (name', rest') :=
    placeholder?_eq_some_iff.mpr ⟨w', h', heq.symm⟩
  obtain ⟨rfl, rfl⟩ := Prod.mk.inj (Option.some.inj (hread.symm.trans hread'))
  exact ⟨(List.append_cancel_right heq).symm, rfl⟩

/-! ## Scans -/

/-- A placeholder begins a text. -/
def Opens (cs : List Char) : Prop := ∃ name w, IsPlaceholder name w ∧ w <+: cs

/-- The pieces of a template, from the left: the longest placeholder that begins there, or one
character where none does. -/
inductive Scan : List Char → List Segment → Prop
  | nil : Scan [] []
  | literal {c : Char} {cs : List Char} {pieces : List Segment} : ¬ Opens (c :: cs) →
      Scan cs pieces → Scan (c :: cs) (.literal c :: pieces)
  | placeholder {name w rest : List Char} {pieces : List Segment} : IsPlaceholder name w →
      (∀ name' w', IsPlaceholder name' w' → w' <+: w ++ rest → w'.length ≤ w.length) →
      Scan rest pieces → Scan (w ++ rest) (.placeholder name :: pieces)

theorem opens_iff : Opens cs ↔ placeholder? cs ≠ none := by
  constructor
  · rintro ⟨name, w, hw, rest, rfl⟩
    rw [placeholder?_eq_some_iff.mpr ⟨w, hw, rfl⟩]
    exact Option.some_ne_none _
  · intro h
    obtain ⟨⟨name, rest⟩, hread⟩ := Option.ne_none_iff_exists'.mp h
    obtain ⟨w, hw, rfl⟩ := placeholder?_eq_some_iff.mp hread
    exact ⟨name, w, hw, List.prefix_append w rest⟩

theorem scan_segments (cs : List Char) : Scan cs (segments cs) := by
  fun_induction segments cs with
  | case1 cs name rest hread ih =>
    obtain ⟨w, hw, rfl⟩ := placeholder?_eq_some_iff.mp hread
    refine .placeholder hw (fun name' w' hw' hprefix => ?_) ih
    exact (congrArg List.length (hw'.unique hw hprefix (List.prefix_append w rest)).1).le
  | case2 => exact .nil
  | case3 c rest hread ih => exact .literal (by rw [opens_iff, hread]; simp) ih

theorem segments_nil : segments [] = [] := by
  rw [segments.eq_def]
  rfl

theorem segments_of_placeholder (h : placeholder? cs = some (name, rest)) :
    segments cs = .placeholder name :: segments rest := by
  rw [segments.eq_def]
  split
  · next hread =>
    rw [h] at hread
    cases hread
    rfl
  · next hread => exact absurd (hread.symm.trans h) (by simp)

theorem segments_of_literal {c : Char} (h : placeholder? (c :: cs) = none) :
    segments (c :: cs) = .literal c :: segments cs := by
  rw [segments.eq_def]
  split
  · next hread => exact absurd (h.symm.trans hread) (by simp)
  · rfl

/-- Every template has one scan, and its pieces are those of the scan. -/
theorem scan_iff : Scan cs pieces ↔ segments cs = pieces := by
  constructor
  · intro h
    induction h with
    | nil => exact segments_nil
    | literal hopens _ ih =>
      rw [opens_iff, not_not] at hopens
      rw [segments_of_literal hopens, ih]
    | placeholder hw _ _ ih =>
      rw [segments_of_placeholder (placeholder?_eq_some_iff.mpr ⟨_, hw, rfl⟩), ih]
  · rintro rfl
    exact scan_segments cs

/-- A template without placeholders is a row of characters. -/
theorem segments_of_not_infix (h : ∀ name w, IsPlaceholder name w → ¬ w <:+: cs) :
    segments cs = cs.map .literal := by
  induction cs with
  | nil => exact segments_nil
  | cons c cs ih =>
    have hread : placeholder? (c :: cs) = none := by
      by_contra hread
      obtain ⟨name, w, hw, hprefix⟩ := opens_iff.mpr hread
      exact h name w hw hprefix.isInfix
    have hrest : ∀ name w, IsPlaceholder name w → ¬ w <:+: cs := fun name w hw hin =>
      h name w hw (hin.trans (cs.suffix_cons c).isInfix)
    rw [segments_of_literal hread, ih hrest, List.map_cons]

end Template

/-! ## Filling in -/

namespace ContactCard

variable {card : ContactCard} {template : String} {pieces : List Segment}

/-- The placeholders that ask for the person's name. -/
def personNames : List String := ["FullName", "FirstName", "PushName", "BusinessName"]

/-- What is known under the name of a placeholder that asks for the person's name. -/
def parameter (card : ContactCard) (name : String) : Option String :=
  if name = "FullName" then card.fullName
  else if name = "FirstName" then card.firstName
  else if name = "PushName" then card.pushName
  else if name = "BusinessName" then card.businessName
  else none

/-- What stands for a placeholder: the phone number as it is shown, a name without the white space at
its ends, or nothing. -/
def replacement (card : ContactCard) (name : String) : String :=
  if name = "Phone" then card.shownPhone else Text.trim ((card.parameter name).getD "")

/-- What stands for a piece of a template. -/
def written (card : ContactCard) : Segment → List Char
  | .literal c => [c]
  | .placeholder name => (card.replacement (String.ofList name)).toList

theorem meaning_cases (card : ContactCard) (name : List Char) :
    (String.ofList name = "Phone" ∧ card.meaning name = .phone) ∨
    (String.ofList name ∈ personNames ∧
      card.meaning name = .name (card.replacement (String.ofList name))) ∨
    (String.ofList name ∉ personNames ∧ card.replacement (String.ofList name) = "" ∧
      card.meaning name = .unknown) := by
  have hmap : ∀ value : Option String,
      (value.map Text.trim).getD "" = Text.trim (value.getD "") := by
    rintro (_ | value)
    · rfl
    · rfl
  unfold meaning
  split
  · next h => exact .inl ⟨h, rfl⟩
  · next h => simp [h, personNames, replacement, parameter, Meaning.ofName, hmap]
  · next h => simp [h, personNames, replacement, parameter, Meaning.ofName, hmap]
  · next h => simp [h, personNames, replacement, parameter, Meaning.ofName, hmap]
  · next h => simp [h, personNames, replacement, parameter, Meaning.ofName, hmap]
  · next h₁ h₂ h₃ h₄ h₅ =>
    have hunknown : String.ofList name ∉ personNames := by
      simp only [personNames, List.mem_cons, List.not_mem_nil, or_false]
      rintro (h | h | h | h)
      exacts [h₂ h, h₃ h, h₄ h, h₅ h]
    refine .inr (.inr ⟨hunknown, ?_, rfl⟩)
    rw [replacement, if_neg h₁, parameter, if_neg h₂, if_neg h₃, if_neg h₄, if_neg h₅]
    rfl

theorem expand_eq_written (card : ContactCard) : card.expand = card.written := by
  funext piece
  cases piece with
  | literal c => rfl
  | placeholder name =>
    rw [expand, written]
    rcases card.meaning_cases name with ⟨h, hmeaning⟩ | ⟨-, hmeaning⟩ | ⟨-, h, hmeaning⟩
    · rw [hmeaning, h]
      rfl
    · rw [hmeaning]
    · rw [hmeaning, h]
      rfl

/-- A template asks for the person's name, and all that it asks for is unknown or blank. -/
def Nameless (card : ContactCard) (pieces : List Segment) : Prop :=
  (∃ name, .placeholder name ∈ pieces ∧ String.ofList name ∈ personNames) ∧
    ∀ name, .placeholder name ∈ pieces → String.ofList name ∈ personNames →
      ∀ value ∈ card.parameter (String.ofList name), Text.blank value = true

theorem replacement_eq_empty_iff {name : String} (h : name ∈ personNames) :
    card.replacement name = "" ↔ ∀ value ∈ card.parameter name, Text.blank value = true := by
  have hphone : name ≠ "Phone" := by
    rintro rfl
    exact absurd h (by decide)
  rw [replacement, if_neg hphone, Text.trim_eq_empty_iff]
  cases card.parameter name with
  | none => simp [Text.blank]
  | some value => simp

theorem asksName_iff {piece : Segment} :
    card.asksName piece = true ↔
      ∃ name, piece = .placeholder name ∧ String.ofList name ∈ personNames := by
  cases piece with
  | literal c => simp [asksName]
  | placeholder name =>
    rw [asksName]
    rcases card.meaning_cases name with ⟨h, hmeaning⟩ | ⟨h, hmeaning⟩ | ⟨h, -, hmeaning⟩
    · simp [hmeaning, h, personNames]
    · simp [hmeaning, h]
    · simp [hmeaning, h]

theorem getsName_iff {piece : Segment} :
    card.getsName piece = true ↔
      ∃ name, piece = .placeholder name ∧ String.ofList name ∈ personNames ∧
        card.replacement (String.ofList name) ≠ "" := by
  cases piece with
  | literal c => simp [getsName]
  | placeholder name =>
    rw [getsName]
    rcases card.meaning_cases name with ⟨h, hmeaning⟩ | ⟨h, hmeaning⟩ | ⟨h, -, hmeaning⟩
    · simp [hmeaning, h, personNames]
    · simp [hmeaning, h]
    · simp [hmeaning, h]

theorem nameless_iff :
    (pieces.any card.asksName && !pieces.any card.getsName) = true ↔ card.Nameless pieces := by
  rw [Bool.and_eq_true, Bool.not_eq_true', List.any_eq_true, List.any_eq_false, Nameless]
  refine and_congr ?_ ?_
  · simp only [asksName_iff]
    constructor
    · rintro ⟨_, hmem, name, rfl, hname⟩
      exact ⟨name, hmem, hname⟩
    · rintro ⟨name, hmem, hname⟩
      exact ⟨_, hmem, name, rfl, hname⟩
  · simp only [getsName_iff]
    constructor
    · intro h name hmem hname
      by_contra hvalue
      exact h _ hmem ⟨name, rfl, hname, mt (replacement_eq_empty_iff hname).mp hvalue⟩
    · rintro h _ hmem ⟨name, rfl, hname, hvalue⟩
      exact hvalue ((replacement_eq_empty_iff hname).mpr (h name hmem hname))

instance (card : ContactCard) (pieces : List Segment) : Decidable (card.Nameless pieces) :=
  decidable_of_iff _ nameless_iff

theorem fill_eq (h : Template.Scan template.toList pieces) :
    card.fill template = pieces.flatMap card.written := by
  rw [fill, Template.scan_iff.mp h, expand_eq_written]

/-- The name of a room is what is filled in, trimmed, unless it lacks the person's name or has
nothing readable in it. -/
theorem displayName_eq (h : Template.Scan template.toList pieces) :
    card.displayName template =
      if card.Nameless pieces ∨
          (Text.trimmed (pieces.flatMap card.written)).any Text.isAlphanumeric = false then
        card.shownPhone
      else String.ofList (Text.trimmed (pieces.flatMap card.written)) := by
  rw [displayName, fill_eq h, Template.scan_iff.mp h]
  refine if_congr ?_ rfl rfl
  rw [Bool.or_eq_true, nameless_iff, Bool.not_eq_true']

/-- **Templates are filled in once.** A template has one scan, which no contact has a part in. What a
contact makes of it is every piece of the scan in its turn, the characters as they stand and for a
placeholder the text that stands for its name, whatever that text holds; a template in which no
placeholder occurs stays as it is. -/
theorem fill_singlePass (template : String) :
    ∃ pieces, (∀ other, Template.Scan template.toList other ↔ other = pieces) ∧
      ((∀ name w, Template.IsPlaceholder name w → ¬ w <:+: template.toList) →
        pieces = template.toList.map .literal) ∧
      ∀ card : ContactCard, card.fill template = pieces.flatMap card.written ∧
        card.displayName template =
          if card.Nameless pieces ∨
              (Text.trimmed (pieces.flatMap card.written)).any Text.isAlphanumeric = false then
            card.shownPhone
          else String.ofList (Text.trimmed (pieces.flatMap card.written)) := by
  have hscan : Template.Scan template.toList (Template.segments template.toList) :=
    Template.scan_segments _
  refine ⟨Template.segments template.toList, ?_, ?_, ?_⟩
  · intro other
    rw [Template.scan_iff, eq_comm]
  · exact Template.segments_of_not_infix
  · intro card
    exact ⟨fill_eq hscan, displayName_eq hscan⟩

/-- The first of three braces stands for itself, and so does a name that is a placeholder. -/
example : (ofProfile "5550001" (some "\x7b\x7bPhone\x7d\x7d")).fill
    "\x7b\x7b\x7b.PushName\x7d\x7d\x7d" = "\x7b\x7b\x7bPhone\x7d\x7d\x7d".toList := by
  decide +kernel

end ContactCard

end RoomBridge
