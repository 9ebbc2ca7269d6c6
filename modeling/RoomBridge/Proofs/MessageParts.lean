import Mathlib
import RoomBridge.Proofs.Identifier

/-!
# Reading message ids

What joining three parts and reading them again comes to, for all parts: they come back, or the id
is refused as none because a part has a colon, or as made up. What can be read is the id of what is
read, so without colons no two messages have one id.

* `Text.length_fields` : a colon more is a field more;
* `MessageId.isSynthetic_iff` : the marker, letter by letter;
* `MessageId.parts_join_cases` : the three ends, and `MessageId.join_of_parts` the way back;
* `MessageId.codec_exact` : all of it.
-/

namespace RoomBridge

/-! ## Fields and letters -/

namespace Text

/-- There is one field more than there are separators. -/
theorem length_fields (sep : Char) (cs : List Char) :
    (fields sep cs).length = cs.count sep + 1 := by
  induction cs with
  | nil => rfl
  | cons c cs ih =>
    by_cases h : c = sep
    · rw [h, fields_cons_self, List.length_cons, ih, List.count_cons_self]
    · obtain ⟨f, fs, hf⟩ := exists_fields sep cs
      rw [hf, List.length_cons] at ih
      rw [fields_cons_of_ne h hf, List.length_cons, ih, List.count_cons_of_ne h]

/-- `cs` is the word `small` in some mix of small letters and capitals. -/
def InAnyCase (small cs : List Char) : Prop :=
  List.Forall₂ (fun letter c => c = letter ∨ c = letter.toUpper) small cs

/-- Only a small letter and its capital become that small letter. -/
theorem toLower_eq_iff {letter c : Char} (h : letter.isLower = true) :
    c.toLower = letter ↔ c = letter ∨ c = letter.toUpper := by
  have hsmall : letter.toLower = letter :=
    Char.toLower_eq_of_not_isUpper (Char.not_isUpper_of_isLower h)
  constructor
  · intro hc
    by_cases hupper : c.isUpper = true
    · have hkept : c.toUpper = c :=
        Char.toUpper_eq_of_not_isLower (Char.not_isLower_of_isUpper hupper)
      right
      rw [← hc, Char.toUpper_toLower_eq_toUpper, hkept]
    · left
      rw [← hc, Char.toLower_eq_of_not_isUpper hupper]
  · rintro (rfl | rfl)
    · exact hsmall
    · rw [Char.toLower_toUpper_eq_toLower, hsmall]

/-- A text becomes a word of small letters if it is that word in some mix of cases. -/
theorem lower_eq_iff {small cs : List Char} (h : ∀ letter ∈ small, letter.isLower = true) :
    lower cs = small ↔ InAnyCase small cs := by
  unfold lower InAnyCase
  induction small generalizing cs with
  | nil => cases cs <;> simp
  | cons letter small ih =>
    rw [List.forall_mem_cons] at h
    cases cs with
    | nil => simp
    | cons c cs =>
      rw [List.map_cons, List.cons.injEq, toLower_eq_iff h.1, ih h.2, List.forall₂_cons]

end Text

/-! ## What is made up -/

namespace MessageId

/-- A local id is marked if it opens with the marker, in any mix of small letters and capitals. -/
theorem isSynthetic_iff (localId : List Char) :
    isSynthetic localId = true ↔
      ∃ opening rest, localId = opening ++ rest ∧ Text.InAnyCase syntheticMarker.toList opening := by
  have hsmall : ∀ letter ∈ syntheticMarker.toList, letter.isLower = true := by
    simp [syntheticMarker]
  unfold isSynthetic
  rw [beq_iff_eq, Text.lower_eq_iff hsmall]
  constructor
  · intro h
    exact ⟨_, _, (List.take_append_drop _ localId).symm, h⟩
  · rintro ⟨opening, rest, rfl, h⟩
    have hlength : syntheticMarker.length = opening.length := h.length_eq
    rw [hlength, List.take_left]
    exact h

/-- Parts that are marked as made up: the chat is called by the marker, or the local id opens with
it in any mix of small letters and capitals. -/
def Parts.MadeUp (p : Parts) : Prop :=
  p.chat.text = syntheticMarker ∨
    ∃ opening rest, p.localId.toList = opening ++ rest ∧
      Text.InAnyCase syntheticMarker.toList opening

theorem Parts.madeUp_iff (p : Parts) :
    p.MadeUp ↔ p.chat.text = syntheticMarker ∨ isSynthetic p.localId.toList = true := by
  rw [isSynthetic_iff]
  rfl

/-! ## Joining and reading -/

/-- Some part has a colon. -/
theorem Parts.not_plain_iff (p : Parts) :
    ¬ p.Plain ↔ delimiter ∈ p.chat.text.toList ∨ delimiter ∈ p.sender.text.toList ∨
      delimiter ∈ p.localId.toList := by
  constructor
  · intro h
    by_contra hnone
    rw [not_or, not_or] at hnone
    exact h ⟨hnone.1, hnone.2.1, hnone.2.2⟩
  · rintro h ⟨hchat, hsender, hlocal⟩
    rcases h with h | h | h
    · exact hchat h
    · exact hsender h
    · exact hlocal h

/-- A text of more or fewer than three fields is no message id. -/
theorem parts_of_length_ne {id : MessageId}
    (h : (Text.fields delimiter id.text.toList).length ≠ 3) :
    id.parts = .error (.invalidMessageId id.text) := by
  unfold parts
  split
  · next chat sender localId hfields =>
    rw [hfields] at h
    exact absurd rfl h
  · rfl

/-- A colon in a part makes a field too many. -/
theorem parts_join_of_not_plain {p : Parts} (h : ¬ p.Plain) :
    p.join.parts = .error (.invalidMessageId p.join.text) := by
  apply parts_of_length_ne
  rw [fields_join, List.length_append, List.length_append, Text.length_fields, Text.length_fields,
    Text.length_fields]
  rcases (Parts.not_plain_iff p).mp h with hcolon | hcolon | hcolon
  all_goals
    have hcount := List.count_pos_iff.mpr hcolon
    omega

/-- The three ends of reading what was joined, by what the parts are. -/
theorem parts_join_cases (p : Parts) :
    (¬ p.Plain ∧ p.join.parts = .error (.invalidMessageId p.join.text)) ∨
      (p.Plain ∧ p.MadeUp ∧ p.join.parts = .error (.syntheticMessageId p.join.text)) ∨
      (p.Plain ∧ ¬ p.MadeUp ∧ p.join.parts = .ok p) := by
  by_cases hplain : p.Plain
  · by_cases hmade : p.MadeUp
    · refine Or.inr (Or.inl ⟨hplain, hmade, ?_⟩)
      rw [hplain.parts_join, if_pos ((Parts.madeUp_iff p).mp hmade)]
    · refine Or.inr (Or.inr ⟨hplain, hmade, ?_⟩)
      rw [hplain.parts_join, if_neg fun h => hmade ((Parts.madeUp_iff p).mpr h)]
  · exact Or.inl ⟨hplain, parts_join_of_not_plain hplain⟩

/-- What an id is read as has that id. -/
theorem join_of_parts {id : MessageId} {p : Parts} (h : id.parts = .ok p) : p.join = id := by
  unfold parts at h
  split at h
  · next chat sender localId hfields =>
    split at h
    · cases h
    · cases h
      -- The fields of a text, joined again, are the text.
      have htext := Text.join_fields delimiter id.text.toList
      rw [hfields, List.intercalate_cons_cons, List.intercalate_cons_cons,
        List.intercalate_singleton] at htext
      obtain ⟨text⟩ := id
      rw [Parts.join, ofParts, MessageId.mk.injEq, ← String.toList_inj, ← htext]
      simp [delimiter]
  · cases h

/-- **Message ids are read exactly as they are joined.** The id of three parts is read as them if
none has a colon, the chat is not called `fake` and the local id does not open with `fake` in any
mix of cases; it is refused as no id if one has a colon, and as made up in all other cases. What any
id is read as has this id, and of parts without colons no two have the same. -/
theorem codec_exact (p : Parts) :
    (p.join.parts = .ok p ↔ p.Plain ∧ ¬ p.MadeUp) ∧
    (p.join.parts = .error (.invalidMessageId p.join.text) ↔
      delimiter ∈ p.chat.text.toList ∨ delimiter ∈ p.sender.text.toList ∨
        delimiter ∈ p.localId.toList) ∧
    (p.join.parts = .error (.syntheticMessageId p.join.text) ↔ p.Plain ∧ p.MadeUp) ∧
    (∀ id : MessageId, id.parts = .ok p ↔ id = p.join ∧ p.Plain ∧ ¬ p.MadeUp) ∧
    Set.InjOn Parts.join {q : Parts | q.Plain} := by
  have hback : p.join.parts = .ok p ↔ p.Plain ∧ ¬ p.MadeUp := by
    rcases parts_join_cases p with ⟨hplain, h⟩ | ⟨hplain, hmade, h⟩ | ⟨hplain, hmade, h⟩
    · simp [h, hplain]
    · simp [h, hplain, hmade]
    · simp [h, hplain, hmade]
  refine ⟨hback, ?_, ?_, fun id => ?_, fun p hp q hq h => ?_⟩
  · rw [← Parts.not_plain_iff]
    rcases parts_join_cases p with ⟨hplain, h⟩ | ⟨hplain, -, h⟩ | ⟨hplain, -, h⟩
    · simp [h, hplain]
    · simp [h, hplain]
    · simp [h, hplain]
  · rcases parts_join_cases p with ⟨hplain, h⟩ | ⟨hplain, hmade, h⟩ | ⟨hplain, hmade, h⟩
    · simp [h, hplain]
    · simp [h, hplain, hmade]
    · simp [h, hplain, hmade]
  · constructor
    · intro h
      obtain rfl : p.join = id := join_of_parts h
      exact ⟨rfl, hback.mp h⟩
    · rintro ⟨rfl, h⟩
      exact hback.mpr h
  · exact Parts.Plain.eq_of_join_eq hq h

/-- A letter beyond ASCII is no `f`, and four bytes need not be four letters. -/
example : (Parts.join ⟨⟨"fakes"⟩, ⟨"fake"⟩, "ÿake"⟩).parts = .ok ⟨⟨"fakes"⟩, ⟨"fake"⟩, "ÿake"⟩ := by
  decide

end MessageId

end RoomBridge
