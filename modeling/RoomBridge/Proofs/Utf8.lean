import RoomBridge.Text.Utf8

/-!
# What is written in UTF-8 is read back

The bytes of a character are one of the forms that `takeChar?` knows, by how many there are, and
nothing that follows changes what is read. So a text comes back from its bytes, also where bytes that
are no text are replaced.

* `takeChar?_utf8EncodeChar` : a character is read off the front of its bytes;
* `decodeLossy_encode` : a text comes back from its bytes.
-/

namespace RoomBridge.Utf8

theorem toNat_ofNat_of_lt {n : Nat} (h : n < 256) : (UInt8.ofNat n).toNat = n := by
  rw [UInt8.toNat_ofNat', Nat.mod_eq_of_lt h]

theorem isContinuation_ofNat : ∀ n < 64, isContinuation (UInt8.ofNat (n + 128)) = true := by decide

/-- A byte that carries six bits continues a character. -/
theorem isContinuation_low (n : Nat) : isContinuation (UInt8.ofNat (n % 64 + 128)) = true :=
  isContinuation_ofNat (n % 64) (Nat.mod_lt n (by decide))

theorem extend_low (m n : Nat) : extend m (UInt8.ofNat (n % 64 + 128)) = m * 64 + n % 64 := by
  have hlow : n % 64 < 64 := Nat.mod_lt n (by decide)
  rw [extend, toNat_ofNat_of_lt (by omega)]
  omega

/-! ## The forms of a character -/

variable {a b c d : UInt8} (rest : Bytes)

theorem not_below {code : UInt8} (h : code.toNat ≤ a.toNat) : ¬ a < code := by
  rw [UInt8.lt_iff_toNat_lt]
  omega

theorem between_iff {low high : UInt8} :
    (low ≤ a && a ≤ high) = true ↔ low.toNat ≤ a.toNat ∧ a.toNat ≤ high.toNat := by
  rw [Bool.and_eq_true, decide_eq_true_eq, decide_eq_true_eq, UInt8.le_iff_toNat_le,
    UInt8.le_iff_toNat_le]

theorem not_between {low high : UInt8} (h : high.toNat < a.toNat) :
    ¬ (low ≤ a && a ≤ high) = true := by
  intro hbetween
  have hle := (between_iff.mp hbetween).2
  omega

theorem takeChar?_one (ha : a.toNat < 0x80) :
    takeChar? (a :: rest) = some (Char.ofNat a.toNat, rest) := by
  have hone : a < 0x80 := UInt8.lt_iff_toNat_lt.mpr ha
  unfold takeChar?
  dsimp only
  rw [if_pos hone]

theorem takeChar?_two (hlow : 0xC2 ≤ a.toNat) (hhigh : a.toNat ≤ 0xDF)
    (hb : isContinuation b = true) :
    takeChar? (a :: b :: rest) = some (Char.ofNat (extend (a.toNat % 32) b), rest) := by
  have hone : ¬ a < 0x80 := not_below (Nat.le_trans (by decide) hlow)
  have htwo : (0xC2 ≤ a && a ≤ 0xDF) = true := between_iff.mpr ⟨hlow, hhigh⟩
  unfold takeChar?
  dsimp only
  rw [if_neg hone, if_pos htwo, if_pos hb]

theorem takeChar?_three (hlow : 0xE0 ≤ a.toNat) (hhigh : a.toNat ≤ 0xEF)
    (hb : isSecond a b = true) (hc : isContinuation c = true) :
    takeChar? (a :: b :: c :: rest) =
      some (Char.ofNat (extend (extend (a.toNat % 16) b) c), rest) := by
  have hone : ¬ a < 0x80 := not_below (Nat.le_trans (by decide) hlow)
  have htwo : ¬ (0xC2 ≤ a && a ≤ 0xDF) = true := not_between (Nat.lt_of_lt_of_le (by decide) hlow)
  have hthree : (0xE0 ≤ a && a ≤ 0xEF) = true := between_iff.mpr ⟨hlow, hhigh⟩
  have hmore : (isSecond a b && isContinuation c) = true := by rw [hb, hc, Bool.and_self]
  unfold takeChar?
  dsimp only
  rw [if_neg hone, if_neg htwo, if_pos hthree, if_pos hmore]

theorem takeChar?_four (hlow : 0xF0 ≤ a.toNat) (hhigh : a.toNat ≤ 0xF4)
    (hb : isSecond a b = true) (hc : isContinuation c = true) (hd : isContinuation d = true) :
    takeChar? (a :: b :: c :: d :: rest) =
      some (Char.ofNat (extend (extend (extend (a.toNat % 8) b) c) d), rest) := by
  have hone : ¬ a < 0x80 := not_below (Nat.le_trans (by decide) hlow)
  have htwo : ¬ (0xC2 ≤ a && a ≤ 0xDF) = true := not_between (Nat.lt_of_lt_of_le (by decide) hlow)
  have hthree : ¬ (0xE0 ≤ a && a ≤ 0xEF) = true := not_between (Nat.lt_of_lt_of_le (by decide) hlow)
  have hfour : (0xF0 ≤ a && a ≤ 0xF4) = true := between_iff.mpr ⟨hlow, hhigh⟩
  have hmore : (isSecond a b && isContinuation c && isContinuation d) = true := by
    rw [hb, hc, hd, Bool.and_self, Bool.and_self]
  unfold takeChar?
  dsimp only
  rw [if_neg hone, if_neg htwo, if_neg hthree, if_pos hfour, if_pos hmore]

/-- The second byte of a shortest form that is no surrogate and not above the last character. -/
theorem isSecond_of (hb : isContinuation b = true) (hlong : a.toNat = 0xE0 → 0xA0 ≤ b.toNat)
    (hsurrogate : a.toNat = 0xED → b.toNat < 0xA0) (hlonger : a.toNat = 0xF0 → 0x90 ≤ b.toNat)
    (hlast : a.toNat = 0xF4 → b.toNat < 0x90) : isSecond a b = true := by
  simp only [isSecond, hb, Bool.true_and, Bool.and_eq_true, Bool.or_eq_true, bne_iff_ne, ne_eq,
    decide_eq_true_eq, ge_iff_le, UInt8.le_iff_toNat_le, UInt8.lt_iff_toNat_lt, ← UInt8.toNat_inj,
    UInt8.toNat_ofNat]
  omega

/-! ## Characters -/

/-- **A character is read off the front of its bytes**, whatever follows. -/
theorem takeChar?_utf8EncodeChar (char : Char) :
    takeChar? (String.utf8EncodeChar char ++ rest) = some (char, rest) := by
  have hvalid : char.toNat < 0xD800 ∨ 0xDFFF < char.toNat ∧ char.toNat < 0x110000 := char.valid
  have hofNat : ∀ n, n = char.toNat → some (Char.ofNat n, rest) = some (char, rest) := by
    rintro n rfl
    rw [Char.ofNat_toNat]
  have hval : char.val.toNat = char.toNat := rfl
  rw [String.utf8EncodeChar.eq_1, hval]
  generalize char.toNat = v at hvalid hofNat
  -- The bytes are as many as the code needs, and carry its bits from the highest to the lowest.
  by_cases hone : v ≤ 127
  · rw [if_pos hone, List.cons_append, List.nil_append]
    have ha := toNat_ofNat_of_lt (n := v) (by omega)
    rw [takeChar?_one rest (by omega), ha]
    exact hofNat v rfl
  rw [if_neg hone]
  by_cases htwo : v ≤ 2047
  · rw [if_pos htwo]
    have ha := toNat_ofNat_of_lt (n := v / 64 % 32 + 192) (by omega)
    simp only [List.cons_append, List.nil_append]
    rw [takeChar?_two rest (by omega) (by omega) (isContinuation_low v), ha, extend_low]
    exact hofNat _ (by omega)
  rw [if_neg htwo]
  by_cases hthree : v ≤ 65535
  · rw [if_pos hthree]
    have ha := toNat_ofNat_of_lt (n := v / 4096 % 16 + 224) (by omega)
    have hb := toNat_ofNat_of_lt (n := v / 64 % 64 + 128) (by omega)
    have hsecond : isSecond (UInt8.ofNat (v / 4096 % 16 + 224)) (UInt8.ofNat (v / 64 % 64 + 128)) =
        true := by
      apply isSecond_of (isContinuation_low _) <;> rw [ha, hb] <;> omega
    simp only [List.cons_append, List.nil_append]
    rw [takeChar?_three rest (by omega) (by omega) hsecond (isContinuation_low v), ha, extend_low,
      extend_low]
    exact hofNat _ (by omega)
  · rw [if_neg hthree]
    have ha := toNat_ofNat_of_lt (n := v / 262144 % 8 + 240) (by omega)
    have hb := toNat_ofNat_of_lt (n := v / 4096 % 64 + 128) (by omega)
    have hsecond : isSecond (UInt8.ofNat (v / 262144 % 8 + 240))
        (UInt8.ofNat (v / 4096 % 64 + 128)) = true := by
      apply isSecond_of (isContinuation_low _) <;> rw [ha, hb] <;> omega
    simp only [List.cons_append, List.nil_append]
    rw [takeChar?_four rest (by omega) (by omega) hsecond (isContinuation_low _)
      (isContinuation_low v), ha, extend_low, extend_low, extend_low]
    exact hofNat _ (by omega)

theorem utf8EncodeChar_ne_nil (char : Char) : String.utf8EncodeChar char ≠ [] := by
  rw [← List.length_pos_iff, String.length_utf8EncodeChar]
  exact char.utf8Size_pos

theorem lossyChars_of_takeChar? {bytes after : Bytes} {char : Char}
    (h : takeChar? bytes = some (char, after)) : lossyChars bytes = char :: lossyChars after := by
  cases bytes with
  | nil => cases h
  | cons byte bytes =>
    rw [lossyChars]
    split
    · next htake =>
      cases htake.symm.trans h
      rfl
    · next htake => cases htake.symm.trans h

/-! ## Texts -/

theorem lossyChars_flatMap (cs : List Char) :
    lossyChars (cs.flatMap String.utf8EncodeChar) = cs := by
  induction cs with
  | nil => rw [List.flatMap_nil, lossyChars]
  | cons char cs ih =>
    rw [List.flatMap_cons, lossyChars_of_takeChar? (takeChar?_utf8EncodeChar _ char), ih]

/-- **A text comes back from its bytes.** -/
theorem decodeLossy_encode (s : String) : decodeLossy (encode s) = s := by
  rw [decodeLossy, encode, lossyChars_flatMap, String.ofList_toList]

end RoomBridge.Utf8
