import RoomBridge.Http.Address
import RoomBridge.Proofs.Utf8

/-!
# What percent-encoded texts stand for

An escape is a percent sign and two hexadecimal digits, and stands for a byte; every other character
stands for its own bytes. Encoding a text puts escapes where characters cannot stand, but leaves
those alone that it has already, so a text is what its encoding stands for just if it has none.

* `percentDecode`, `isUnescaped` : the bytes a text stands for, and a text without escapes;
* `percentDecode_percentEncode` : encoding does not change what a text stands for;
* `percentDecode_eq_iff` : which texts stand for themselves;
* `formDecode_formEncode` : the encoding of forms leaves no escape alone, so it is read back always;
* `parameters_addQuery` : the parameters of an address with one added.
-/

namespace RoomBridge.Address

/-! ## Escapes -/

def hexValue? (c : Char) : Option Nat :=
  if 0x30 ≤ c.toNat ∧ c.toNat ≤ 0x39 then some (c.toNat - 0x30)
  else if 0x41 ≤ c.toNat ∧ c.toNat ≤ 0x46 then some (c.toNat - 0x37)
  else if 0x61 ≤ c.toNat ∧ c.toNat ≤ 0x66 then some (c.toNat - 0x57)
  else none

/-- The byte of the escape at the front of a text. -/
def escape? : List Char → Option UInt8
  | '%' :: p :: q :: _ =>
    (hexValue? p).bind fun p => (hexValue? q).map fun q => UInt8.ofNat (16 * p + q)
  | _ => none

/-- The bytes that a text stands for. -/
def percentDecode : List Char → Bytes
  | [] => []
  | c :: p :: q :: cs =>
    match escape? [c, p, q] with
    | some b => b :: percentDecode cs
    | none => String.utf8EncodeChar c ++ percentDecode (p :: q :: cs)
  | c :: cs => String.utf8EncodeChar c ++ percentDecode cs

/-- No escape starts anywhere in a text. -/
def isUnescaped : List Char → Bool
  | [] => true
  | c :: cs => (escape? (c :: cs)).isNone && isUnescaped cs

/-- The bytes of some characters. -/
def bytesOf (cs : List Char) : Bytes := cs.flatMap String.utf8EncodeChar

theorem escape?_of_ne {c : Char} (h : c ≠ '%') (cs : List Char) : escape? (c :: cs) = none := by
  unfold escape?
  split
  · next heq =>
    cases heq
    exact absurd rfl h
  · rfl

theorem exists_of_escape? {cs : List Char} {b : UInt8} (h : escape? cs = some b) :
    ∃ p q rest, cs = '%' :: p :: q :: rest ∧ escape? ['%', p, q] = some b := by
  unfold escape? at h
  split at h
  · next p q rest => exact ⟨p, q, rest, rfl, h⟩
  · cases h

theorem percentDecode_escape {p q : Char} {b : UInt8} (h : escape? ['%', p, q] = some b)
    (cs : List Char) : percentDecode ('%' :: p :: q :: cs) = b :: percentDecode cs := by
  rw [percentDecode, h]

/-- A character that no escape starts with stands for itself. -/
theorem percentDecode_cons {c : Char} {cs : List Char} (h : escape? (c :: cs) = none) :
    percentDecode (c :: cs) = String.utf8EncodeChar c ++ percentDecode cs := by
  match cs with
  | [] | [_] => rfl
  | p :: q :: cs =>
    have hshort : escape? [c, p, q] = none := by
      by_cases hc : c = '%'
      · rw [hc] at h ⊢
        exact h
      · exact escape?_of_ne hc _
    rw [percentDecode, hshort]

/-- Induction along the escapes of a text. -/
theorem byEscapes {motive : List Char → Prop} (nil : motive [])
    (escape : ∀ p q b cs, escape? ['%', p, q] = some b → motive cs → motive ('%' :: p :: q :: cs))
    (plain : ∀ c cs, escape? (c :: cs) = none → motive cs → motive (c :: cs)) (cs : List Char) :
    motive cs := by
  induction hn : cs.length using Nat.strongRecOn generalizing cs with
  | _ n ih =>
    cases cs with
    | nil => exact nil
    | cons c cs =>
      rw [List.length_cons] at hn
      cases hescape : escape? (c :: cs) with
      | none => exact plain c cs hescape (ih cs.length (by omega) cs rfl)
      | some b =>
        obtain ⟨p, q, rest, heq, hb⟩ := exists_of_escape? hescape
        cases heq
        rw [List.length_cons, List.length_cons] at hn
        exact escape p q b rest hb (ih rest.length (by omega) rest rfl)

/-! ## Texts that stand for themselves -/

theorem bytesOf_cons (c : Char) (cs : List Char) :
    bytesOf (c :: cs) = String.utf8EncodeChar c ++ bytesOf cs := List.flatMap_cons

theorem length_bytesOf_cons (c : Char) (cs : List Char) :
    (bytesOf cs).length < (bytesOf (c :: cs)).length := by
  have hpos := c.utf8Size_pos
  rw [bytesOf_cons, List.length_append, String.length_utf8EncodeChar]
  omega

/-- A part of a text has fewer bytes than the text, unless it is all of it. -/
theorem eq_or_lt_of_sublist {cs ds : List Char} (h : cs.Sublist ds) :
    cs = ds ∨ (bytesOf cs).length < (bytesOf ds).length := by
  induction h with
  | slnil => exact .inl rfl
  | cons d _ ih =>
    have hlt := length_bytesOf_cons d
    rcases ih with rfl | ih
    · exact .inr (hlt _)
    · exact .inr (Nat.lt_trans ih (hlt _))
  | cons_cons d _ ih =>
    rcases ih with rfl | ih
    · exact .inl rfl
    · right
      rw [bytesOf_cons, bytesOf_cons, List.length_append, List.length_append]
      omega

/-- What a text stands for is not longer than the text. -/
theorem length_percentDecode_le (cs : List Char) :
    (percentDecode cs).length ≤ (bytesOf cs).length := by
  induction cs using byEscapes with
  | nil => exact Nat.le_refl 0
  | escape p q b cs hb ih =>
    have hone := length_bytesOf_cons '%' (p :: q :: cs)
    have htwo := length_bytesOf_cons p (q :: cs)
    have hthree := length_bytesOf_cons q cs
    rw [percentDecode_escape hb, List.length_cons]
    omega
  | plain c cs hc ih =>
    rw [percentDecode_cons hc, bytesOf_cons, List.length_append, List.length_append]
    exact Nat.add_le_add_left ih _

/-- A text stands for itself just if it has no escapes. -/
theorem percentDecode_eq_iff (cs : List Char) :
    percentDecode cs = bytesOf cs ↔ isUnescaped cs = true := by
  induction cs using byEscapes with
  | nil => exact iff_of_true rfl rfl
  | escape p q b cs hb ih =>
    -- An escape is shorter by two than what it would be by itself.
    have hdecoded := length_percentDecode_le cs
    have hone := length_bytesOf_cons '%' (p :: q :: cs)
    have htwo := length_bytesOf_cons p (q :: cs)
    have hthree := length_bytesOf_cons q cs
    have hfound : escape? ('%' :: p :: q :: cs) = some b := hb
    refine iff_of_false ?_ ?_
    · intro heq
      have hlength := congrArg List.length heq
      rw [percentDecode_escape hb, List.length_cons] at hlength
      omega
    · simp [isUnescaped, hfound]
  | plain c cs hc ih =>
    rw [percentDecode_cons hc, bytesOf_cons, List.append_right_inj, ih, isUnescaped, hc,
      Option.isNone_none, Bool.true_and]

/-! ## Encoding -/

theorem hexValue?_hexDigit : ∀ n < 16, hexValue? (hexDigit n) = some n := by decide

/-- What encodes a byte stands for it. -/
theorem percentDecode_percentByte (b : UInt8) (cs : List Char) :
    percentDecode (percentByte b ++ cs) = b :: percentDecode cs := by
  have hlt : b.toNat < 256 := b.toNat_lt
  have hhigh := hexValue?_hexDigit (b.toNat / 16) (by omega)
  have hlow := hexValue?_hexDigit (b.toNat % 16) (by omega)
  have hbyte : UInt8.ofNat (16 * (b.toNat / 16) + b.toNat % 16) = b := by
    rw [Nat.div_add_mod, UInt8.ofNat_toNat]
  refine percentDecode_escape ?_ cs
  simp only [escape?, hhigh, hlow, Option.bind_some, Option.map_some, hbyte]

theorem percentDecode_percentBytes (bytes : Bytes) (cs : List Char) :
    percentDecode (bytes.flatMap percentByte ++ cs) = bytes ++ percentDecode cs := by
  induction bytes with
  | nil => rfl
  | cons b bytes ih =>
    rw [List.flatMap_cons, List.append_assoc, percentDecode_percentByte, ih, List.cons_append]

/-- A class of characters with none of which escapes are written. -/
def Spares (must : Char → Bool) : Prop := ∀ c, must c = true → c ≠ '%' ∧ hexValue? c = none

theorem pathMust_spares : Spares pathMust := by
  intro c hc
  rw [pathMust, Bool.or_eq_true] at hc
  rcases hc with hcontrol | hlisted
  · rw [isControl, Bool.or_eq_true, decide_eq_true_eq, decide_eq_true_eq] at hcontrol
    refine ⟨?_, ?_⟩
    · rintro rfl
      exact absurd hcontrol (by decide)
    · unfold hexValue?
      rw [if_neg (by omega), if_neg (by omega), if_neg (by omega)]
  · have hall : [' ', '"', '#', '<', '>', '?', '\x60', '\x7b', '\x7d'].all
        (fun c => c ≠ '%' ∧ hexValue? c = none) = true := by decide
    exact of_decide_eq_true (List.all_eq_true.mp hall c (List.contains_iff_mem.mp hlisted))

variable {must : Char → Bool}

theorem percentEncode_cons (must : Char → Bool) (c : Char) (cs : List Char) :
    percentEncode must (c :: cs) =
      (if must c then (String.utf8EncodeChar c).flatMap percentByte else [c]) ++
        percentEncode must cs := List.flatMap_cons

/-- The encoding of a character that has to be encoded starts with a percent sign. -/
theorem percentEncode_of_must {c : Char} (hc : must c = true) (cs : List Char) :
    ∃ rest, percentEncode must (c :: cs) = '%' :: rest := by
  obtain ⟨b, bytes, hbytes⟩ := List.exists_cons_of_ne_nil (Utf8.utf8EncodeChar_ne_nil c)
  rw [percentEncode_cons, if_pos hc, hbytes]
  exact ⟨_, rfl⟩

theorem percentEncode_of_not_must {c : Char} (hc : must c = false) (cs : List Char) :
    percentEncode must (c :: cs) = c :: percentEncode must cs := by
  rw [percentEncode_cons, hc]
  rfl

theorem escape?_eq_none_of_second {p : Char} (h : hexValue? p = none) (c : Char) (cs : List Char) :
    escape? (c :: p :: cs) = none := by
  unfold escape?
  split
  · next heq =>
    cases heq
    rw [h, Option.bind_none]
  · rfl

theorem escape?_eq_none_of_third {q : Char} (h : hexValue? q = none) (c p : Char) (cs : List Char) :
    escape? (c :: p :: q :: cs) = none := by
  unfold escape?
  split
  · next heq =>
    cases heq
    rw [h]
    cases hexValue? p <;> rfl
  · rfl

theorem hexValue?_percent : hexValue? '%' = none := by decide

/-- Encoding what follows a character neither makes an escape of it nor breaks one. -/
theorem escape?_percentEncode (h : Spares must) (c : Char) (cs : List Char) :
    escape? (c :: percentEncode must cs) = escape? (c :: cs) := by
  match cs with
  | [] => rfl
  | p :: cs =>
    cases hp : must p with
    | true =>
      obtain ⟨rest, hrest⟩ := percentEncode_of_must hp cs
      rw [hrest, escape?_eq_none_of_second hexValue?_percent,
        escape?_eq_none_of_second (h p hp).2]
    | false =>
      rw [percentEncode_of_not_must hp]
      match cs with
      | [] => rfl
      | q :: cs =>
        cases hq : must q with
        | true =>
          obtain ⟨rest, hrest⟩ := percentEncode_of_must hq cs
          rw [hrest, escape?_eq_none_of_third hexValue?_percent,
            escape?_eq_none_of_third (h q hq).2]
        | false =>
          rw [percentEncode_of_not_must hq]
          by_cases hc : c = '%'
          · rw [hc]
            rfl
          · rw [escape?_of_ne hc, escape?_of_ne hc]

/-- **Encoding does not change what a text stands for.** -/
theorem percentDecode_percentEncode (h : Spares must) (cs : List Char) :
    percentDecode (percentEncode must cs) = percentDecode cs := by
  induction cs using byEscapes with
  | nil => rfl
  | escape p q b cs hb ih =>
    have hkept : ∀ c, c = '%' ∨ hexValue? c ≠ none → must c = false := by
      intro c hc
      rw [← Bool.not_eq_true]
      intro hmust
      obtain ⟨hne, hnone⟩ := h c hmust
      exact hc.elim hne (fun hsome => hsome hnone)
    have hp : hexValue? p ≠ none := by
      intro hnone
      rw [escape?_eq_none_of_second hnone] at hb
      cases hb
    have hq : hexValue? q ≠ none := by
      intro hnone
      rw [escape?_eq_none_of_third hnone] at hb
      cases hb
    rw [percentEncode_of_not_must (hkept _ (.inl rfl)), percentEncode_of_not_must (hkept _ (.inr hp)),
      percentEncode_of_not_must (hkept _ (.inr hq)), percentDecode_escape hb,
      percentDecode_escape hb, ih]
  | plain c cs hc ih =>
    rw [percentDecode_cons hc]
    cases hmust : must c with
    | true =>
      rw [percentEncode_cons, if_pos hmust, percentDecode_percentBytes, ih]
    | false =>
      have hc' : escape? (c :: percentEncode must cs) = none := by
        rw [escape?_percentEncode h, hc]
      rw [percentEncode_of_not_must hmust, percentDecode_cons hc', ih]

/-! ## Forms -/

/-- The bytes that a text in the encoding of forms stands for. -/
def formDecode (cs : List Char) : Bytes := percentDecode (cs.map fun c => if c = '+' then ' ' else c)

/-- The characters with a meaning in a form. -/
def formMarks : List Char := ['%', '&', '+', '=']

/-- An escape has no characters but a percent sign and digits. -/
theorem not_mem_percentByte {c : Char} (hc : c ≠ '%' ∧ hexValue? c = none) (b : UInt8) :
    c ∉ percentByte b := by
  have hlt : b.toNat < 256 := b.toNat_lt
  have hdigit : ∀ n < 16, c ≠ hexDigit n := by
    rintro n hn rfl
    rw [hexValue?_hexDigit n hn] at hc
    exact absurd hc.2 (Option.some_ne_none n)
  rw [percentByte, List.mem_cons, List.mem_cons, List.mem_singleton, not_or, not_or]
  exact ⟨hc.1, hdigit _ (by omega), hdigit _ (by omega)⟩

/-- What a form keeps is ASCII, and has no meaning in a form. -/
theorem of_kept {c : Char} (h : (c.isAlphanum || ['*', '-', '.', '_'].contains c) = true) :
    c.toNat ≤ 127 ∧ c ∉ formMarks := by
  constructor
  · rcases Bool.or_eq_true_iff.mp h with halphanum | hlisted
    · have hcases := Text.isAlphanum_cases halphanum
      omega
    · have hall : ∀ d ∈ ['*', '-', '.', '_'], d.toNat ≤ 127 := by simp
      exact hall c (List.contains_iff_mem.mp hlisted)
  · intro hmark
    have hall : ∀ d ∈ formMarks, (d.isAlphanum || ['*', '-', '.', '_'].contains d) = false := by
      simp [formMarks]
    exact absurd h (by rw [hall c hmark]; decide)

/-- A byte is written as an escape, a space as a plus sign, and what is kept as its character. -/
theorem formByte_cases (b : UInt8) :
    formByte b = percentByte b ∨ formByte b = ['+'] ∧ b = 0x20 ∨
      ∃ c, formByte b = [c] ∧ c ∉ formMarks ∧ String.utf8EncodeChar c = [b] := by
  have hlt : b.toNat < 256 := b.toNat_lt
  have hcode : (Char.ofNat b.toNat).toNat = b.toNat := by
    rw [Char.ofNat, dif_pos (.inl (by omega))]
    rfl
  unfold formByte
  dsimp only
  split
  · next hspace =>
    rw [hspace] at hcode
    exact .inr (.inl ⟨rfl, UInt8.toNat_inj.mp hcode.symm⟩)
  · split
    · next hkept =>
      obtain ⟨hascii, hmark⟩ := of_kept hkept
      rw [hcode] at hascii
      refine .inr (.inr ⟨_, rfl, hmark, ?_⟩)
      rw [String.utf8EncodeChar.eq_1, Char.toNat_val, hcode, if_pos hascii, UInt8.ofNat_toNat]
    · exact .inl rfl

theorem formDecode_formByte (b : UInt8) (cs : List Char) :
    formDecode (formByte b ++ cs) = b :: formDecode cs := by
  unfold formDecode
  rw [List.map_append]
  obtain hescape | ⟨hspace, rfl⟩ | ⟨c, hkept, hmark, hbytes⟩ := formByte_cases b
  · have hplus : '+' ∉ percentByte b := not_mem_percentByte (by decide) b
    have hsame : ∀ c ∈ percentByte b, (if c = '+' then ' ' else c) = c := fun c hc =>
      if_neg (ne_of_mem_of_not_mem hc hplus)
    rw [hescape, List.map_congr_left hsame, List.map_id', percentDecode_percentByte]
  · rw [hspace]
    exact percentDecode_cons (escape?_of_ne (by decide) _)
  · have hne : c ≠ '%' ∧ c ≠ '+' := by
      constructor <;> rintro rfl <;> exact hmark (by decide)
    rw [hkept, List.map_singleton, if_neg hne.2, List.singleton_append,
      percentDecode_cons (escape?_of_ne hne.1 _), hbytes, List.singleton_append]

theorem formDecode_formBytes (bytes : Bytes) : formDecode (bytes.flatMap formByte) = bytes := by
  induction bytes with
  | nil => rfl
  | cons b bytes ih => rw [List.flatMap_cons, formDecode_formByte, ih]

/-- **A text in the encoding of forms stands for its bytes.** -/
theorem formDecode_formEncode (s : String) : formDecode (formEncode s).toList = Utf8.encode s := by
  rw [formEncode, String.toList_ofList, formDecode_formBytes]

/-- Nothing in the encoding of a byte divides parameters, or names from values. -/
theorem not_mem_formByte {c : Char} (hc : c ∈ ['&', '=']) (b : UInt8) : c ∉ formByte b := by
  have hdigit : ∀ d ∈ ['&', '='], d ≠ '%' ∧ hexValue? d = none := by simp [hexValue?]
  have hmarks : ['&', '='] ⊆ formMarks := by decide
  obtain hescape | ⟨hspace, -⟩ | ⟨d, hkept, hd, -⟩ := formByte_cases b
  · rw [hescape]
    exact not_mem_percentByte (hdigit c hc) b
  · rw [hspace, List.mem_singleton]
    rintro rfl
    exact absurd hc (by decide)
  · rw [hkept, List.mem_singleton]
    rintro rfl
    exact hd (hmarks hc)

theorem not_mem_formEncode {c : Char} (hc : c ∈ ['&', '=']) (s : String) :
    c ∉ (formEncode s).toList := by
  rw [formEncode, String.toList_ofList, List.mem_flatMap]
  rintro ⟨b, -, hmem⟩
  exact not_mem_formByte hc b hmem

/-! ## Parameters -/

/-- The name and the value of a parameter, as bytes. -/
def parameter (written : List Char) : Bytes × Bytes :=
  match Text.cutAt '=' written with
  | some (name, value) => (formDecode name, formDecode value)
  | none => (formDecode written, [])

/-- The parameters of an address. -/
def parameters (a : Address) : List (Bytes × Bytes) :=
  ((Text.fields '&' (a.query.getD "").toList).filter (!·.isEmpty)).map parameter

/-- An address without a query has the parameter that is added, and no other. -/
theorem parameters_addQuery {a : Address} (h : a.query = none) (name value : String) :
    (a.addQuery name value).parameters = [(Utf8.encode name, Utf8.encode value)] := by
  have hname : '=' ∉ (formEncode name).toList := not_mem_formEncode (by decide) name
  have hpair : '&' ∉ (formEncode name).toList ++ '=' :: (formEncode value).toList := by
    rw [List.mem_append, List.mem_cons]
    rintro (hmem | heq | hmem)
    · exact not_mem_formEncode (by decide) name hmem
    · exact absurd heq (by decide)
    · exact not_mem_formEncode (by decide) value hmem
  have hquery : ((a.addQuery name value).query.getD "").toList =
      (formEncode name).toList ++ '=' :: (formEncode value).toList := by
    simp [addQuery, h]
  have hcut : Text.cutAt '=' ((formEncode name).toList ++ '=' :: (formEncode value).toList) =
      some ((formEncode name).toList, (formEncode value).toList) := by
    simp [Text.cutAt_append_of_not_mem hname, Text.cutAt_cons_self]
  rw [parameters, hquery, Text.fields_of_not_mem hpair]
  simp [parameter, hcut, formDecode_formEncode]

end RoomBridge.Address
