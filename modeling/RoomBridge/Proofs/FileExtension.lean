import Mathlib
import RoomBridge.Media.Extension
import RoomBridge.Proofs.Text.Trimmed

/-!
# Extensions of MIME types

MIME types come from outside, written in any way, and what they give becomes part of file names. Only
the essence of a type counts: white space around it, the case of its letters and parameters behind it
do not. And whatever the type, its extension is a plain one, as long as those that are registered
are; so it is the only extension of a file that is named with it.

* `Respelled`, `essence_respelled` : a type written in another way has the same essence;
* `PlainExtension`, `plain_extensionIn` : every extension is plain;
* `HasExtension`, `hasExtension_iff` : a file name has one extension;
* `extensionIn_safe` : the three together, whatever is registered.
-/

namespace RoomBridge

/-! ## Letters -/

namespace Text

/-- A class of characters that does not tell letters apart does not look at their case. -/
theorem apply_toLower (p : Char → Bool) {b : Bool} (hp : ∀ c, c.isAlpha = true → p c = b)
    (c : Char) : p c.toLower = p c := by
  by_cases hc : c.isAlpha = true
  · rw [hp c hc, hp _ (by rwa [Char.isAlpha_toLower_eq_isAlpha])]
  · have hupper : ¬ c.isUpper = true := fun h => hc (by simp [Char.isAlpha, h])
    rw [Char.toLower_eq_of_not_isUpper hupper]

theorem isBlank_of_isAlphanum {c : Char} (h : c.isAlphanum = true) : isBlank c = false := by
  have hcases := isAlphanum_cases h
  simp only [isBlank, Bool.or_eq_false_iff, Bool.and_eq_false_iff, decide_eq_false_iff_not,
    beq_eq_false_iff_ne]
  omega

theorem isBlank_toLower (c : Char) : isBlank c.toLower = isBlank c :=
  apply_toLower isBlank (fun _ hc => isBlank_of_isAlphanum (by simp [Char.isAlphanum, hc])) c

theorem trimmed_lower (cs : List Char) : trimmed (lower cs) = lower (trimmed cs) := by
  simp only [trimmed, lower, List.dropWhile_map, ← List.map_reverse, Function.comp_def,
    isBlank_toLower]

/-- Small letters do not bring a mark nearer. -/
theorem upTo_lower {sep : Char} (hsep : sep.isAlpha = false) (cs : List Char) :
    upTo sep (lower cs) = lower (upTo sep cs) := by
  have hclass : ∀ c : Char, decide (c.toLower ≠ sep) = decide (c ≠ sep) := by
    refine apply_toLower (fun c => decide (c ≠ sep)) fun c hc => decide_eq_true ?_
    rintro rfl
    rw [hc] at hsep
    cases hsep
  simp only [upTo, lower, List.takeWhile_map, Function.comp_def, hclass]

/-- The same text, but for the case of ASCII letters. -/
def Recased (cs ds : List Char) : Prop :=
  List.Forall₂ (fun c d => d = c ∨ d = c.toUpper ∨ d = c.toLower) cs ds

theorem Recased.lower_eq {cs ds : List Char} (h : Recased cs ds) : lower ds = lower cs := by
  induction h with
  | nil => rfl
  | cons hcd _ ih =>
    rw [lower, List.map_cons, lower, List.map_cons, ← lower, ← lower, ih]
    rcases hcd with rfl | rfl | rfl
    · rfl
    · rw [Char.toLower_toUpper_eq_toLower]
    · rw [Char.toLower_toLower_eq_toLower]

end Text

namespace MimeType

variable {known : Registry} {m m' : String}

/-! ## Types written in another way -/

/-- The same type with its letters in another case, white space around it and perhaps parameters
behind it. -/
def Respelled (m m' : String) : Prop :=
  ∃ core whole parameters, Text.Recased m.toList core ∧ Text.Padded core whole ∧
    m'.toList = whole ++ parameters ∧ (parameters = [] ∨ ∃ p, parameters = ';' :: p)

/-- What is put around a text does not get before its first semicolon, but for white space. -/
theorem padded_upTo {core whole parameters : List Char} (h : Text.Padded core whole)
    (hparameters : parameters = [] ∨ ∃ p, parameters = ';' :: p) :
    Text.Padded (Text.upTo ';' core) (Text.upTo ';' (whole ++ parameters)) := by
  have hplain : ∀ {cs : List Char}, (∀ c ∈ cs, Text.isBlank c = true) → ';' ∉ cs :=
    fun hcs hmem => absurd (hcs _ hmem) (by decide)
  have hstop : Text.upTo ';' parameters = [] := by
    rcases hparameters with rfl | ⟨p, rfl⟩
    · rfl
    · simp [Text.upTo]
  obtain ⟨before, after, hbefore, hafter, rfl⟩ := h
  rw [List.append_assoc, List.append_assoc, Text.upTo_append_of_not_mem (hplain hbefore)]
  by_cases hcore : ';' ∈ core
  · rw [Text.upTo_append_of_mem hcore]
    exact ⟨before, [], hbefore, List.forall_mem_nil _, (List.append_nil _).symm⟩
  · rw [Text.upTo_append_of_not_mem hcore, Text.upTo_append_of_not_mem (hplain hafter), hstop,
      Text.upTo_of_not_mem hcore, List.append_nil]
    exact ⟨before, after, hbefore, hafter, (List.append_assoc _ _ _).symm⟩

theorem essence_eq (m : String) :
    essence m = Text.trimmed (Text.upTo ';' (Text.lower m.toList)) := by
  rw [essence, Text.upTo_lower (by decide), Text.trimmed_lower]

theorem essence_respelled (h : Respelled m m') : essence m' = essence m := by
  obtain ⟨core, whole, parameters, hcase, hpadded, htext, hparameters⟩ := h
  have htrimmed : Text.trimmed (Text.upTo ';' (whole ++ parameters)) =
      Text.trimmed (Text.upTo ';' core) := (padded_upTo hpadded hparameters).trimmed_eq
  rw [essence, htext, htrimmed, ← Text.trimmed_lower, ← Text.upTo_lower (by decide),
    hcase.lower_eq, ← essence_eq]

/-! ## Plain extensions -/

/-- An extension that stands for itself in a file name: not empty, and without points, separators
and white space. -/
def PlainExtension (e : String) : Prop :=
  e ≠ "" ∧ ∀ c ∈ e.toList, c ≠ '/' ∧ c ≠ '.' ∧ c ≠ ';' ∧ Text.isBlank c = false

instance (e : String) : Decidable (PlainExtension e) :=
  @instDecidableAnd _ _ inferInstance (List.decidableBAll _ e.toList)

/-- All registered extensions are plain. -/
def Registry.Plain (known : Registry) : Prop :=
  ∀ type extensions, known type = some extensions → ∀ e ∈ extensions, PlainExtension e

theorem mem_of_lookup {α : Type} {l : List (String × α)} {key : String} {a : α}
    (h : l.lookup key = some a) : (key, a) ∈ l := by
  obtain ⟨before, after, rfl, -⟩ := List.lookup_eq_some_iff.mp h
  simp

/-- The extensions of a table of types. -/
theorem plain_lookup {rows : List (String × List String)}
    (h : ∀ row ∈ rows, ∀ e ∈ row.2, PlainExtension e) : Registry.Plain (rows.lookup ·) :=
  fun _ _ hlookup => h _ (mem_of_lookup hlookup)

theorem plain_conventional : ∀ row ∈ conventional, PlainExtension row.2 := by
  decide

theorem mem_of_registered {essence : List Char} {e : String} (h : registered? known essence = some e) :
    ∃ extensions, known (String.ofList essence) = some extensions ∧ e ∈ extensions := by
  obtain ⟨extensions, hknown, hchosen⟩ := Option.bind_eq_some_iff.mp h
  refine ⟨extensions, hknown, ?_⟩
  rcases Option.or_eq_some_iff.mp hchosen with hfound | ⟨-, hfirst⟩
  · exact List.mem_of_find?_eq_some hfound
  · exact List.mem_of_mem_head? hfirst

theorem plain_ownExtension {essence : List Char} {e : String} (h : ownExtension? essence = some e) :
    PlainExtension e := by
  unfold ownExtension? at h
  split at h
  · next c cs _ =>
    obtain ⟨hall, htext⟩ := Option.ite_none_right_eq_some.mp h
    obtain rfl := Option.some.inj htext
    refine ⟨?_, fun x hx => ?_⟩
    · simp [← String.toList_inj]
    · rw [String.toList_ofList] at hx
      have hplain : x.isAlphanum = true := List.all_eq_true.mp hall x hx
      refine ⟨?_, ?_, ?_, Text.isBlank_of_isAlphanum hplain⟩
      all_goals
        rintro rfl
        exact absurd hplain (by decide)
  · cases h

theorem plain_extensionIn (h : known.Plain) (m : String) : PlainExtension (extensionIn known m) := by
  unfold extensionIn
  dsimp only
  split
  · next ext hext => exact plain_conventional _ (mem_of_lookup hext)
  · cases hregistered : registered? known (essence m) with
    | some e =>
      obtain ⟨extensions, hknown, he⟩ := mem_of_registered hregistered
      exact h _ _ hknown e he
    | none =>
      cases hown : ownExtension? (essence m) with
      | some e => exact plain_ownExtension hown
      | none => decide

/-! ## File names -/

/-- A file name ends in a point and an extension, which has no point in it. -/
def HasExtension (name e : String) : Prop := ∃ stem, name = stem ++ "." ++ e ∧ '.' ∉ e.toList

/-- A file has one extension: what stands behind the last point. -/
theorem hasExtension_iff {stem e e' : String} (he : '.' ∉ e.toList) :
    HasExtension (stem ++ "." ++ e) e' ↔ e' = e := by
  have hlast : ∀ (stem : String) {e : String}, '.' ∉ e.toList →
      Text.upTo '.' (stem ++ "." ++ e).toList.reverse = e.toList.reverse := by
    intro stem e he
    have hname : (stem ++ "." ++ e).toList.reverse =
        e.toList.reverse ++ '.' :: stem.toList.reverse := by
      simp
    rw [hname, Text.upTo_append_of_not_mem (by simpa using he)]
    simp [Text.upTo]
  constructor
  · rintro ⟨stem', hname, he'⟩
    have hsame := hlast stem he
    rw [hname, hlast stem' he', List.reverse_inj] at hsame
    exact String.toList_inj.mp hsame
  · rintro rfl
    exact ⟨stem, rfl, he⟩

/-- **Extensions are safe, and depend on the essence alone.** Whatever plain extensions are
registered, a type and the same type with letters in another case, white space around it and
parameters behind it have the same extension and the same category; the extension of any text at all
is not empty and has no separator, point, semicolon or white space in it; and whatever name is put
before it with a point, it is the one extension of the whole. -/
theorem extensionIn_safe (known : Registry) (hknown : known.Plain) (m : String) :
    (∀ m', Respelled m m' →
      extensionIn known m' = extensionIn known m ∧ category m' = category m) ∧
    PlainExtension (extensionIn known m) ∧
    ∀ stem e, HasExtension (stem ++ "." ++ extensionIn known m) e ↔ e = extensionIn known m := by
  have hplain := plain_extensionIn hknown m
  refine ⟨fun m' h => ?_, hplain, fun stem e => ?_⟩
  · have hessence := essence_respelled h
    exact ⟨by rw [extensionIn, hessence, extensionIn], by rw [category, hessence, category]⟩
  · exact hasExtension_iff fun hmem => (hplain.2 '.' hmem).2.1 rfl

theorem extensionIn_safe_opus :
    Registry.Plain (registry.lookup ·) ∧ Respelled "audio/ogg" " AUDIO/Ogg ;codecs=opus" ∧
      extension " AUDIO/Ogg ;codecs=opus" = "ogg" ∧ HasExtension "voice.ogg" "ogg" := by
  have hplain : Registry.Plain (registry.lookup ·) := plain_lookup (by decide +kernel)
  have hspelled : Respelled "audio/ogg" " AUDIO/Ogg ;codecs=opus" := by
    have hblank : ∀ c ∈ [' '], Text.isBlank c = true := List.forall_mem_singleton.mpr (by decide)
    refine ⟨"AUDIO/Ogg".toList, " AUDIO/Ogg ".toList, ";codecs=opus".toList, ?_,
      ⟨[' '], [' '], hblank, hblank, by decide +kernel⟩, by decide +kernel,
      .inr ⟨"codecs=opus".toList, by decide +kernel⟩⟩
    unfold Text.Recased
    decide +kernel
  obtain ⟨hsame, -, hname⟩ := extensionIn_safe (registry.lookup ·) hplain "audio/ogg"
  have hogg : extensionIn (registry.lookup ·) "audio/ogg" = "ogg" := by decide +kernel
  rw [hogg] at hname
  exact ⟨hplain, hspelled, (hsame _ hspelled).1.trans hogg, (hname "voice" "ogg").mpr rfl⟩

end MimeType

end RoomBridge
