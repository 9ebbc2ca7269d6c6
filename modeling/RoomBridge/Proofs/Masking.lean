import Mathlib.Data.List.DropRight
import RoomBridge.Proofs.Text.Quoted
import RoomBridge.Registration

/-!
# What a written session shows of its token

A session or a request that is written out for a person to read shows its fields as they are, and of
its token the mask: of a long token the first and last four characters, of a short one its length.

* `SameMask` : tokens that a mask cannot tell apart;
* `maskToken_eq_iff` : it tells all others apart;
* `describe_hides_token` : so does a session's or a request's text, which shows everything else.
-/

namespace RoomBridge

/-! ## Masks -/

/-- Two tokens look the same once they are masked. -/
inductive SameMask (t u : String) : Prop
  | long (ht : 8 < t.length) (hu : 8 < u.length)
      (hstart : t.toList.take 4 = u.toList.take 4) (hend : t.toList.rtake 4 = u.toList.rtake 4)
  | short (ht : t.length ≤ 8) (hlength : t.length = u.length)

variable {t u : String}

theorem maskToken_short (h : t.length ≤ 8) :
    maskToken t = String.ofList (List.replicate t.length '*') := by
  rw [← String.length_toList] at h ⊢
  rw [maskToken, if_pos h]

theorem maskToken_long (h : 8 < t.length) :
    maskToken t =
      String.ofList (t.toList.take 4) ++ "***" ++ String.ofList (t.toList.rtake 4) := by
  rw [← String.length_toList] at h
  rw [maskToken, if_neg (Nat.not_le.mpr h), List.rtake]

theorem length_maskToken_short (h : t.length ≤ 8) : (maskToken t).length = t.length := by
  rw [maskToken_short h, String.length_ofList, List.length_replicate]

theorem length_take_token (h : 8 < t.length) : (t.toList.take 4).length = 4 := by
  rw [List.length_take, String.length_toList]
  omega

theorem length_rtake_token (h : 8 < t.length) : (t.toList.rtake 4).length = 4 := by
  rw [List.rtake, List.length_drop, String.length_toList]
  omega

theorem length_maskToken_long (h : 8 < t.length) : (maskToken t).length = 11 := by
  simp only [maskToken_long h, String.length_append, String.length_ofList, length_take_token h,
    length_rtake_token h]
  rfl

theorem maskToken_long_inj (ht : 8 < t.length) (hu : 8 < u.length) :
    maskToken t = maskToken u ↔
      t.toList.take 4 = u.toList.take 4 ∧ t.toList.rtake 4 = u.toList.rtake 4 := by
  rw [maskToken_long ht, maskToken_long hu]
  constructor
  · intro h
    have hchars := congrArg String.toList h
    simp only [String.toList_append, String.toList_ofList, List.append_assoc] at hchars
    obtain ⟨hstart, hrest⟩ :=
      List.append_inj hchars ((length_take_token ht).trans (length_take_token hu).symm)
    exact ⟨hstart, List.append_cancel_left hrest⟩
  · rintro ⟨hstart, hend⟩
    rw [hstart, hend]

/-- Masks are the same for tokens that look the same, and for no others. -/
theorem maskToken_eq_iff : maskToken t = maskToken u ↔ SameMask t u := by
  constructor
  · intro h
    have hlength := congrArg String.length h
    rcases Nat.lt_or_ge 8 t.length with ht | ht <;> rcases Nat.lt_or_ge 8 u.length with hu | hu
    · obtain ⟨hstart, hend⟩ := (maskToken_long_inj ht hu).mp h
      exact .long ht hu hstart hend
    -- A long mask has more characters than a short token.
    · rw [length_maskToken_long ht, length_maskToken_short hu] at hlength
      omega
    · rw [length_maskToken_short ht, length_maskToken_long hu] at hlength
      omega
    · rw [length_maskToken_short ht, length_maskToken_short hu] at hlength
      exact .short ht hlength
  · intro h
    cases h with
    | long ht hu hstart hend => exact (maskToken_long_inj ht hu).mpr ⟨hstart, hend⟩
    | short ht hlength => rw [maskToken_short ht, maskToken_short (hlength ▸ ht), hlength]

/-! ## Written sessions and requests -/

open Text in
/-- Sessions have the same text if they differ in tokens that look the same, and only then. -/
theorem Session.describe_eq_iff (s s' : Session) :
    s.describe = s'.describe ↔
      s' = { s with accessToken := s'.accessToken } ∧ SameMask s.accessToken s'.accessToken := by
  rw [describe, describe, ← maskToken_eq_iff]
  refine (quotedRecord_inj ?written ?written' ?keys).trans ?fields
  case written | written' => simp [Written.text, Written.option]
  case keys => simp only [List.map]
  case fields =>
    cases s
    cases s'
    simp only [List.cons.injEq, Prod.mk.injEq, true_and, and_true, quoted_inj, quotedOption_inj,
      mk.injEq]
    grind

open Text in
theorem RegistrationRequest.describe_eq_iff (r r' : RegistrationRequest) :
    r.describe = r'.describe ↔
      r' = { r with accessToken := r'.accessToken } ∧ SameMask r.accessToken r'.accessToken := by
  rw [describe, describe, ← maskToken_eq_iff]
  refine (quotedRecord_inj ?written ?written' ?keys).trans ?fields
  case written | written' => simp [Written.text, Written.option]
  case keys => simp only [List.map]
  case fields =>
    cases r
    cases r'
    simp only [List.cons.injEq, Prod.mk.injEq, true_and, and_true, quoted_inj, quotedOption_inj,
      mk.injEq]
    grind

/-- **A written token shows its mask.** Two sessions are written alike exactly if they differ in no
more than their tokens and those look the same once masked: both long, with the same four characters
at either end, or both short and of one length. So it is with two requests. -/
theorem describe_hides_token :
    (∀ s s' : Session, s.describe = s'.describe ↔
      s' = { s with accessToken := s'.accessToken } ∧ SameMask s.accessToken s'.accessToken) ∧
    (∀ r r' : RegistrationRequest, r.describe = r'.describe ↔
      r' = { r with accessToken := r'.accessToken } ∧
        SameMask r.accessToken r'.accessToken) :=
  ⟨Session.describe_eq_iff, RegistrationRequest.describe_eq_iff⟩

end RoomBridge
