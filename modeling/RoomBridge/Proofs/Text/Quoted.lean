import Mathlib.Data.List.Basic
import RoomBridge.Text.Quoted
import RoomBridge.Text.Split

/-!
# Reading quoted texts back

A quoted text shows where it ends and which text it is of: no escape begins another one, and none
begins with the closing quote. So the texts that a record was written from can be read off it.

* `Escape` : the forms that a character takes inside quotes;
* `Written` : a text or an optional text as a field's value is written;
* `quotedRecord_inj` : records with the same keys are written alike only if they are the same.
-/

namespace RoomBridge.Text

/-! ## Hexadecimal numbers -/

theorem hex_eq (n : Nat) :
    hex n = (if n < 16 then [] else hex (n / 16)) ++ [hexDigit (n % 16)] := by
  rw [hex, Nat.toDigits_eq_if (by decide)]
  split
  next h => rw [Nat.mod_eq_of_lt h, List.nil_append, hexDigit]
  next => rfl

theorem hexDigit_inj : ∀ m < 16, ∀ n < 16, hexDigit m = hexDigit n → m = n := by decide

theorem hex_injective : Function.Injective hex := by
  intro m
  induction m using Nat.strongRecOn with
  | ind m ih =>
    intro n h
    rw [hex_eq m, hex_eq n] at h
    obtain ⟨hstart, hlast⟩ := List.append_inj' h rfl
    have hmod : m % 16 = n % 16 :=
      hexDigit_inj _ (Nat.mod_lt _ (by decide)) _ (Nat.mod_lt _ (by decide))
        (List.singleton_inj.mp hlast)
    split at hstart <;> split at hstart
    · omega
    · exact absurd hstart.symm Nat.toDigits_ne_nil
    · exact absurd hstart Nat.toDigits_ne_nil
    · have hdiv : m / 16 = n / 16 := ih (m / 16) (by omega) hstart
      omega

theorem brace_notMem_hex (n : Nat) : '\x7d' ∉ hex n := by
  induction n using Nat.strongRecOn with
  | ind n ih =>
    rw [hex_eq, List.mem_append, List.mem_singleton, not_or]
    refine ⟨?_, (Nat.digitChar_ne _ rfl).symm⟩
    split
    · exact List.not_mem_nil
    · exact ih (n / 16) (by omega)

/-- A number shows where it ends, before a brace. -/
theorem hex_append_inj {m n : Nat} {s t : List Char}
    (h : hex m ++ '\x7d' :: s = hex n ++ '\x7d' :: t) : m = n ∧ s = t := by
  have hcut := congrArg (cutAt '\x7d') h
  rw [cutAt_append_of_not_mem (brace_notMem_hex m), cutAt_append_of_not_mem (brace_notMem_hex n)]
    at hcut
  obtain ⟨hhex, htail⟩ : hex m = hex n ∧ s = t := by
    simpa [cutAt_cons_self] using hcut
  exact ⟨hex_injective hhex, htail⟩

/-! ## Escapes -/

/-- The characters with a letter of their own. -/
def escapeLetters : List (Char × Char) :=
  [('\x00', '0'), ('\t', 't'), ('\r', 'r'), ('\n', 'n'), ('\\', '\\'), ('"', '"')]

/-- The forms of a character inside quotes. -/
inductive Escape (c : Char) : List Char → Prop
  | plain (hbackslash : c ≠ '\\') (hquote : c ≠ '"') : Escape c [c]
  | letter (l : Char) (h : (c, l) ∈ escapeLetters) : Escape c ['\\', l]
  | code : Escape c ('\\' :: 'u' :: '\x7b' :: (hex c.toNat ++ ['\x7d']))

theorem escaped_escape (c : Char) : Escape c (escaped c) := by
  unfold escaped
  split_ifs with hnul htab hreturn hnewline hbackslash hquote
  -- six letters, then the code, then the character itself
  iterate 6
    · subst c
      exact .letter _ (by decide)
  · exact .code
  · exact .plain hbackslash hquote

theorem escapeLetters_inj :
    ∀ p ∈ escapeLetters, ∀ q ∈ escapeLetters, p.2 = q.2 → p.1 = q.1 := by decide

theorem u_notMem_escapeLetters (c : Char) : (c, 'u') ∉ escapeLetters := by
  simp [escapeLetters]

variable {c d : Char} {e f s t : List Char}

/-- No escape begins another one. -/
theorem Escape.append_inj (hc : Escape c e) (hd : Escape d f) (h : e ++ s = f ++ t) :
    c = d ∧ s = t := by
  cases hc with
  | plain hbackslash =>
    cases hd with
    | plain => simpa using h
    | letter => exact absurd (List.cons_eq_cons.mp h).1 hbackslash
    | code => exact absurd (List.cons_eq_cons.mp h).1 hbackslash
  | letter l hl =>
    cases hd with
    | plain hbackslash => exact absurd (List.cons_eq_cons.mp h).1.symm hbackslash
    | letter l' hl' =>
      obtain ⟨rfl, rfl⟩ : l = l' ∧ s = t := by simpa using h
      exact ⟨escapeLetters_inj _ hl _ hl' rfl, rfl⟩
    | code =>
      obtain ⟨rfl, -⟩ : l = 'u' ∧ _ := by simpa using h
      exact absurd hl (u_notMem_escapeLetters c)
  | code =>
    cases hd with
    | plain hbackslash => exact absurd (List.cons_eq_cons.mp h).1.symm hbackslash
    | letter l hl =>
      obtain ⟨rfl, -⟩ : 'u' = l ∧ _ := by simpa using h
      exact absurd hl (u_notMem_escapeLetters d)
    | code =>
      have hcodes : hex c.toNat ++ '\x7d' :: s = hex d.toNat ++ '\x7d' :: t := by simpa using h
      obtain ⟨hhex, htail⟩ := hex_append_inj hcodes
      exact ⟨Char.toNat_inj.mp hhex, htail⟩

/-- An escape does not look like the closing quote. -/
theorem Escape.append_ne_quote (hc : Escape c e) : e ++ s ≠ '"' :: t := by
  intro h
  cases hc with
  | plain _ hquote => exact hquote (List.cons_eq_cons.mp h).1
  | letter => cases h
  | code => cases h

/-! ## Quoted texts -/

theorem flatMap_escaped_inj {cs ds : List Char}
    (h : cs.flatMap escaped ++ '"' :: s = ds.flatMap escaped ++ '"' :: t) : cs = ds ∧ s = t := by
  induction cs generalizing ds with
  | nil =>
    cases ds with
    | nil => exact ⟨rfl, (List.cons_eq_cons.mp h).2⟩
    | cons d ds =>
      rw [List.flatMap_cons, List.append_assoc] at h
      exact absurd h.symm (escaped_escape d).append_ne_quote
  | cons c cs ih =>
    rw [List.flatMap_cons, List.append_assoc] at h
    cases ds with
    | nil => exact absurd h (escaped_escape c).append_ne_quote
    | cons d ds =>
      rw [List.flatMap_cons, List.append_assoc] at h
      obtain ⟨rfl, hrest⟩ := (escaped_escape c).append_inj (escaped_escape d) h
      obtain ⟨rfl, rfl⟩ := ih hrest
      exact ⟨rfl, rfl⟩

theorem toList_quoted_append (a : String) :
    (quoted a).toList ++ s = '"' :: (a.toList.flatMap escaped ++ '"' :: s) := by
  simp [quoted]

/-- A quoted text shows where it ends. -/
theorem quoted_append_inj {a b : String} (h : (quoted a).toList ++ s = (quoted b).toList ++ t) :
    a = b ∧ s = t := by
  rw [toList_quoted_append, toList_quoted_append] at h
  obtain ⟨hchars, htail⟩ := flatMap_escaped_inj (List.cons_eq_cons.mp h).2
  exact ⟨String.toList_inj.mp hchars, htail⟩

@[simp] theorem quoted_inj {a b : String} : quoted a = quoted b ↔ a = b := by
  refine ⟨fun h => ?_, congrArg quoted⟩
  exact (quoted_append_inj (s := []) (t := []) (by rw [h])).1

theorem quotedOption_append_inj {a b : Option String}
    (h : (quotedOption a).toList ++ s = (quotedOption b).toList ++ t) : a = b ∧ s = t := by
  cases a with
  | none =>
    cases b with
    | none => exact ⟨rfl, List.append_cancel_left h⟩
    | some b => simp [quotedOption] at h
  | some a =>
    cases b with
    | none => simp [quotedOption] at h
    | some b =>
      have hquoted : (quoted a).toList ++ ')' :: s = (quoted b).toList ++ ')' :: t := by
        simpa [quotedOption] using h
      obtain ⟨rfl, htail⟩ := quoted_append_inj hquoted
      exact ⟨rfl, (List.cons_eq_cons.mp htail).2⟩

@[simp] theorem quotedOption_inj {a b : Option String} :
    quotedOption a = quotedOption b ↔ a = b := by
  refine ⟨fun h => ?_, congrArg quotedOption⟩
  exact (quotedOption_append_inj (s := []) (t := []) (by rw [h])).1

/-! ## Records -/

/-- What stands for the value of a field. -/
inductive Written : String → Prop
  | text (a : String) : Written (quoted a)
  | option (o : Option String) : Written (quotedOption o)

theorem Written.append_inj {v w : String} (hv : Written v) (hw : Written w)
    (h : v.toList ++ s = w.toList ++ t) : v = w ∧ s = t := by
  cases hv with
  | text a =>
    cases hw with
    | text b =>
      obtain ⟨rfl, htail⟩ := quoted_append_inj h
      exact ⟨rfl, htail⟩
    | option o => cases o <;> simp [quoted, quotedOption] at h
  | option o =>
    cases hw with
    | text b => cases o <;> simp [quoted, quotedOption] at h
    | option o' =>
      obtain ⟨rfl, htail⟩ := quotedOption_append_inj h
      exact ⟨rfl, htail⟩

/-- A field of a record. -/
def entryText (p : String × String) : List Char := p.1.toList ++ (": ".toList ++ p.2.toList)

theorem toList_quotedRecord (name : String) (entries : List (String × String)) :
    (quotedRecord name entries).toList =
      name.toList ++ (" \x7b ".toList ++ ", ".toList.intercalate (entries.map entryText) ++
        " \x7d".toList) := by
  have hentry : (String.toList ∘ fun p : String × String => p.1 ++ ": " ++ p.2) = entryText := by
    funext p
    simp only [entryText, Function.comp_apply, String.toList_append, List.append_assoc]
  have hrecord : quotedRecord name entries =
      name ++ " \x7b " ++ ", ".intercalate (entries.map fun p => p.1 ++ ": " ++ p.2) ++ " \x7d" :=
    rfl
  simp only [hrecord, String.toList_append, String.toList_intercalate, List.map_map, hentry,
    List.append_assoc]

theorem entryText_append_inj {p q : String × String} (hkey : p.1 = q.1)
    (hp : Written p.2) (hq : Written q.2) (h : entryText p ++ s = entryText q ++ t) :
    p = q ∧ s = t := by
  rw [entryText, entryText, hkey, List.append_assoc, List.append_assoc, List.append_assoc,
    List.append_assoc] at h
  obtain ⟨hvalue, htail⟩ := hp.append_inj hq (List.append_cancel_left (List.append_cancel_left h))
  exact ⟨Prod.ext hkey hvalue, htail⟩

/-- Fields with the same keys are read one after the other. -/
theorem intercalate_entryText_inj {xs ys : List (String × String)}
    (hkeys : xs.map Prod.fst = ys.map Prod.fst)
    (hxs : ∀ p ∈ xs, Written p.2) (hys : ∀ p ∈ ys, Written p.2)
    (h : ", ".toList.intercalate (xs.map entryText) =
      ", ".toList.intercalate (ys.map entryText)) : xs = ys := by
  induction xs generalizing ys with
  | nil => exact (List.map_eq_nil_iff.mp hkeys.symm).symm
  | cons p xs ih =>
    obtain _ | ⟨q, ys⟩ := ys
    · cases hkeys
    obtain ⟨hkey, hmore⟩ := List.cons_eq_cons.mp hkeys
    obtain ⟨hp, hxs⟩ := List.forall_mem_cons.mp hxs
    obtain ⟨hq, hys⟩ := List.forall_mem_cons.mp hys
    cases xs with
    | nil =>
      obtain rfl : ys = [] := List.map_eq_nil_iff.mp hmore.symm
      have hentry : entryText p ++ [] = entryText q ++ [] := by simpa using h
      rw [(entryText_append_inj hkey hp hq hentry).1]
    | cons p' xs =>
      obtain _ | ⟨q', ys⟩ := ys
      · cases hmore
      simp only [List.map_cons, List.intercalate_cons_cons, List.append_assoc] at h
      obtain ⟨hentry, hrest⟩ := entryText_append_inj hkey hp hq h
      rw [hentry, ih hmore hxs hys (List.append_cancel_left hrest)]

/-- Records with the same keys are written alike only if they have the same values. -/
theorem quotedRecord_inj {name : String} {xs ys : List (String × String)}
    (hxs : ∀ p ∈ xs, Written p.2) (hys : ∀ p ∈ ys, Written p.2)
    (hkeys : xs.map Prod.fst = ys.map Prod.fst) :
    quotedRecord name xs = quotedRecord name ys ↔ xs = ys := by
  refine ⟨fun h => ?_, congrArg (quotedRecord name)⟩
  have hchars := congrArg String.toList h
  rw [toList_quotedRecord, toList_quotedRecord] at hchars
  have hentries :=
    List.append_cancel_left (List.append_cancel_right (List.append_cancel_left hchars))
  exact intercalate_entryText_inj hkeys hxs hys hentries

end RoomBridge.Text
