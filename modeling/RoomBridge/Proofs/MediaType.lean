import Mathlib.Data.List.Find
import Mathlib.Data.List.Pairwise
import RoomBridge.Media.Signature

/-!
# What the opening of a content decides

No opening of the table is the beginning of another, so a content has one of them at most, and that
gives its type. Containers are asked before the table. Those that are told by their first four bytes
share no opening with it, but the mark of an ISO media file stands behind the first four bytes, and
any opening may precede it. None of the three looks at a content goes beyond its fourteenth byte.

* `Signature.eq_of_matches?` : a content has one opening of the table at most;
* `containerType?_of_matches?` : what containers make of a content with an opening of the table;
* `mediaType_of_signature` : the type of such a content;
* `mediaType_append`, `mediaTypeBy_perm` : what follows does not count, nor does the table's order.
-/

namespace RoomBridge

namespace Signature

variable {s t : Signature} {content : Bytes}

theorem matches?_iff : s.matches? content = true ↔ s.magic <+: content :=
  List.isPrefixOf_iff_prefix

/-- Neither of two openings begins with the other. -/
def Apart (a b : Bytes) : Prop := ¬ a <+: b ∧ ¬ b <+: a

instance (a b : Bytes) : Decidable (Apart a b) := inferInstanceAs (Decidable (_ ∧ _))

/-- A content begins with one of two such openings at most. -/
theorem Apart.not_prefix {a b : Bytes} (h : Apart a b) (ha : a <+: content) : ¬ b <+: content :=
  fun hb => (List.prefix_or_prefix_of_prefix ha hb).elim h.1 h.2

theorem table_apart : table.Pairwise fun s t => Apart s.magic t.magic := by decide

/-- A content has one opening of the table at most. -/
theorem eq_of_matches? (hs : s ∈ table) (ht : t ∈ table) (hmatch : s.matches? content = true)
    (hmatch' : t.matches? content = true) : s = t := by
  by_contra hne
  have hsymm : Std.Symm fun s t : Signature => Apart s.magic t.magic := ⟨fun _ _ => And.symm⟩
  have hapart : Apart s.magic t.magic := table_apart.forall hs ht hne
  exact hapart.not_prefix (matches?_iff.mp hmatch) (matches?_iff.mp hmatch')

/-- The search through the table comes to that opening, wherever it stands. -/
theorem find?_of_matches? (hs : s ∈ table) (hmatch : s.matches? content = true) :
    table.find? (·.matches? content) = some s := by
  cases hfind : table.find? (·.matches? content) with
  | none =>
    have hnone := List.find?_eq_none.mp hfind s hs
    exact absurd hmatch hnone
  | some t =>
    have ht : t ∈ table := List.mem_of_find?_eq_some hfind
    have hmatch' : t.matches? content = true :=
      List.find?_some (p := fun t : Signature => t.matches? content) hfind
    rw [eq_of_matches? hs ht hmatch hmatch']

/-- The openings of the table are none of the containers that are told by their first four bytes. -/
theorem table_apart_containers :
    ∀ s ∈ table, Apart s.magic (Bytes.ascii "RIFF") ∧ Apart s.magic (Bytes.ascii "FORM") := by
  decide

theorem take_ne_of_matches? (hs : s ∈ table) (hmatch : s.matches? content = true) :
    content.take 4 ≠ Bytes.ascii "RIFF" ∧ content.take 4 ≠ Bytes.ascii "FORM" := by
  have hopening : ∀ name, Apart s.magic name → content.take 4 ≠ name := fun name hapart heq =>
    hapart.not_prefix (matches?_iff.mp hmatch) (heq ▸ List.take_prefix 4 content)
  obtain ⟨hriff, hform⟩ := table_apart_containers s hs
  exact ⟨hopening _ hriff, hopening _ hform⟩

end Signature

/-! ## ISO media files -/

/-- A content is marked as an ISO media file: the second four of twelve bytes or more are `ftyp`. -/
def IsMarked (content : Bytes) : Prop :=
  12 ≤ content.length ∧ (content.drop 4).take 4 = Bytes.ascii "ftyp"

instance (content : Bytes) : Decidable (IsMarked content) := inferInstanceAs (Decidable (_ ∧ _))

/-- The type of an ISO media file of a brand. -/
def brandType (brand : Bytes) : String :=
  if brand.take 2 = Bytes.ascii "3g" then "video/3gpp"
  else if brand = Bytes.ascii "M4A " then "audio/mp4"
  else "video/mp4"

variable {s : Signature} {content : Bytes}

/-- Behind an opening of the table, the mark is all that makes a container. -/
theorem containerType?_of_matches? (hs : s ∈ Signature.table)
    (hmatch : s.matches? content = true) :
    containerType? content =
      if IsMarked content then some (brandType ((content.drop 8).take 4)) else none := by
  obtain ⟨hriff, hform⟩ := Signature.take_ne_of_matches? hs hmatch
  unfold containerType?
  dsimp only
  by_cases hlength : content.length < 12
  · have hunmarked : ¬ IsMarked content := fun h => absurd h.1 (by omega)
    rw [if_pos hlength, if_neg hunmarked]
  rw [if_neg hlength, if_neg hriff, if_neg fun h => hform h.1]
  by_cases hmark : (content.drop 4).take 4 = Bytes.ascii "ftyp"
  · have hmarked : IsMarked content := ⟨by omega, hmark⟩
    rw [if_pos hmark, if_pos hmarked, brandType]
    split
    · rfl
    · split <;> rfl
  · rw [if_neg hmark, if_neg fun h => hmark h.2]

/-! ## The type of a content -/

/-- **The opening decides, short of a mark.** A content of four bytes or more that begins with an
opening of the table has the type of that opening, whatever follows, unless it is marked as an ISO
media file: then it has the type of its brand. -/
theorem mediaType_of_signature (hs : s ∈ Signature.table) (hlength : 4 ≤ content.length)
    (hopening : s.magic <+: content) :
    mediaType content =
      if IsMarked content then brandType ((content.drop 8).take 4) else s.mimeType := by
  have hmatch : s.matches? content = true := Signature.matches?_iff.mpr hopening
  have hcontainer := containerType?_of_matches? hs hmatch
  unfold mediaType mediaTypeBy
  rw [if_neg (by omega), hcontainer]
  by_cases hmarked : IsMarked content
  · rw [if_pos hmarked, if_pos hmarked]
  · rw [if_neg hmarked, if_neg hmarked, Signature.find?_of_matches? hs hmatch]

/-- An opening whose last letter is the first of the mark. -/
def markedText : Bytes := Bytes.ascii "\x7b\\rtftypM4A "

theorem mediaType_of_signature_overlap :
    (.ofText "\x7b\\rtf" "application/rtf" ∈ Signature.table ∧ 4 ≤ markedText.length ∧
      Bytes.ascii "\x7b\\rtf" <+: markedText) ∧
      mediaType markedText = "audio/mp4" ∧ mediaType (markedText.take 11) = "application/rtf" := by
  have hmem : .ofText "\x7b\\rtf" "application/rtf" ∈ Signature.table := by decide +kernel
  have hlength : 4 ≤ markedText.length := by decide +kernel
  have hopening : Bytes.ascii "\x7b\\rtf" <+: markedText := by decide +kernel
  have hcut : Bytes.ascii "\x7b\\rtf" <+: markedText.take 11 := by decide +kernel
  have hmarked := mediaType_of_signature hmem hlength hopening
  have hunmarked := mediaType_of_signature hmem (by decide +kernel) hcut
  rw [if_pos (by decide +kernel)] at hmarked
  rw [if_neg (by decide +kernel)] at hunmarked
  exact ⟨⟨hmem, hlength, hopening⟩, hmarked.trans (by decide +kernel), hunmarked⟩

/-- The opening of a JPEG picture, and behind it the mark and brand of an ISO media file. -/
def markedPicture : Bytes := [0xFF, 0xD8, 0xFF, 0xE0] ++ Bytes.ascii "ftypisom"

/-- The opening does not decide alone: a mark behind it overrules it. -/
theorem mediaType_markedPicture :
    mediaType markedPicture = "video/mp4" ∧
      ¬ ∀ s ∈ Signature.table, ∀ content : Bytes, 4 ≤ content.length → s.magic <+: content →
        mediaType content = s.mimeType := by
  have htype : mediaType markedPicture = "video/mp4" := by decide +kernel
  refine ⟨htype, fun h => ?_⟩
  have hpicture := h ⟨[0xFF, 0xD8], "image/jpeg"⟩ (by decide +kernel) markedPicture
    (by decide +kernel) (by decide +kernel)
  rw [htype] at hpicture
  exact absurd hpicture (by decide)

/-! ## How much of a content is looked at -/

namespace Signature

theorem length_magic_le : ∀ s ∈ table, s.magic.length ≤ 14 := by decide

/-- An opening is found or not before what follows as many bytes. -/
theorem matches?_append (h : s.magic.length ≤ content.length) (more : Bytes) :
    s.matches? (content ++ more) = s.matches? content := by
  rw [Bool.eq_iff_iff, matches?_iff, matches?_iff]
  constructor
  · intro hmatch
    exact List.prefix_of_prefix_length_le hmatch (List.prefix_append content more) h
  · intro hmatch
    exact hmatch.trans (List.prefix_append content more)

theorem find?_append (h : 14 ≤ content.length) (more : Bytes) :
    table.find? (·.matches? (content ++ more)) = table.find? (·.matches? content) := by
  apply List.find?_congr
  intro s hs
  have hmagic := length_magic_le s hs
  exact matches?_append (by omega) more

/-- The search does not depend on the order of the table, for there is one opening at most to find. -/
theorem find?_perm {other : List Signature} (hperm : table.Perm other) (content : Bytes) :
    other.find? (·.matches? content) = table.find? (·.matches? content) := by
  refine (List.find?_eq_find?_of_perm hperm ?_).symm
  intro s hs t ht
  exact eq_of_matches? hs.1 ht.1 hs.2 ht.2

/-- Of the rows of the table one at most is found in a content, even counting rows twice. -/
theorem length_filter_matches?_le (content : Bytes) :
    (table.filter (·.matches? content)).length ≤ 1 := by
  have hpair : (table.filter (·.matches? content)).Pairwise fun s t => Apart s.magic t.magic :=
    table_apart.sublist List.filter_sublist
  have hmatch : ∀ s ∈ table.filter (·.matches? content), s.magic <+: content := by
    intro s hs
    exact matches?_iff.mp (List.mem_filter.mp hs).2
  generalize table.filter (·.matches? content) = found at hpair hmatch
  match found with
  | [] | [_] => simp
  | s :: t :: rest =>
    have hapart : Apart s.magic t.magic := (List.pairwise_cons.mp hpair).1 t (by simp)
    exact absurd (hmatch t (by simp)) (hapart.not_prefix (hmatch s (by simp)))

end Signature

/-- Containers are told by the first twelve bytes. -/
theorem containerType?_append (h : 12 ≤ content.length) (more : Bytes) :
    containerType? (content ++ more) = containerType? content := by
  have hname : (content ++ more).take 4 = content.take 4 :=
    List.take_append_of_le_length (by omega)
  have hmark : ((content ++ more).drop 4).take 4 = (content.drop 4).take 4 := by
    rw [List.drop_append_of_le_length (by omega),
      List.take_append_of_le_length (by rw [List.length_drop]; omega)]
  have htag : ((content ++ more).drop 8).take 4 = (content.drop 8).take 4 := by
    rw [List.drop_append_of_le_length (by omega),
      List.take_append_of_le_length (by rw [List.length_drop]; omega)]
  have hlong : ¬ (content ++ more).length < 12 := by
    rw [List.length_append]
    omega
  have hlong' : ¬ content.length < 12 := by omega
  unfold containerType?
  simp only [hname, hmark, htag, if_neg hlong, if_neg hlong']

/-- A frame of audio is told by the first two bytes. -/
theorem isAudioFrame_append (h : 2 ≤ content.length) (more : Bytes) :
    isAudioFrame (content ++ more) = isAudioFrame content := by
  match content, h with
  | _ :: _ :: _, _ => rfl

/-- Fourteen bytes tell the type: each of the three looks goes no further. -/
theorem mediaType_append (h : 14 ≤ content.length) (more : Bytes) :
    mediaType (content ++ more) = mediaType content := by
  have hlong : ¬ (content ++ more).length < 4 := by
    rw [List.length_append]
    omega
  have hlong' : ¬ content.length < 4 := by omega
  unfold mediaType mediaTypeBy
  rw [if_neg hlong, if_neg hlong', containerType?_append (by omega), Signature.find?_append h,
    isAudioFrame_append (by omega)]

/-- Thirteen do not: the longest opening of the table has one byte more. -/
example : mediaType (Bytes.ascii "<!DOCTYPE htm" ++ Bytes.ascii "l") ≠
    mediaType (Bytes.ascii "<!DOCTYPE htm") := by decide

theorem mediaTypeBy_perm {other : List Signature} (hperm : Signature.table.Perm other)
    (content : Bytes) : mediaTypeBy other content = mediaType content := by
  unfold mediaType mediaTypeBy
  rw [Signature.find?_perm hperm]

/-- **The type is local and unambiguous.** What follows the first fourteen bytes of a content does
not count, and neither does the order of the table of openings, for no content has two of them. -/
theorem mediaType_local {other : List Signature} (hperm : Signature.table.Perm other)
    (content : Bytes) :
    (14 ≤ content.length → ∀ more, mediaType (content ++ more) = mediaType content) ∧
    (Signature.table.filter (·.matches? content)).length ≤ 1 ∧
    mediaTypeBy other content = mediaType content := by
  refine ⟨?_, ?_, ?_⟩
  · intro hlength more
    exact mediaType_append hlength more
  · exact Signature.length_filter_matches?_le content
  · exact mediaTypeBy_perm hperm content

/-- The table read from its end, and the longest of its openings. -/
theorem mediaType_local_reversed :
    (Signature.table.Perm Signature.table.reverse ∧ 14 ≤ (Bytes.ascii "<!DOCTYPE html").length) ∧
    (∀ more, mediaType (Bytes.ascii "<!DOCTYPE html" ++ more) = "text/html") ∧
    mediaTypeBy Signature.table.reverse (Bytes.ascii "<!DOCTYPE html") = "text/html" := by
  have hperm : Signature.table.Perm Signature.table.reverse := (List.reverse_perm _).symm
  have hlength : 14 ≤ (Bytes.ascii "<!DOCTYPE html").length := by decide +kernel
  have htype : mediaType (Bytes.ascii "<!DOCTYPE html") = "text/html" := by decide +kernel
  obtain ⟨hmore, -, horder⟩ := mediaType_local hperm (Bytes.ascii "<!DOCTYPE html")
  exact ⟨⟨hperm, hlength⟩, fun more => (hmore hlength more).trans htype, horder.trans htype⟩

end RoomBridge
