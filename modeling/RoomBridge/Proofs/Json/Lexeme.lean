import Mathlib.Data.List.Chain
import Mathlib.Data.List.TakeWhile
import RoomBridge.Json.Token

/-!
# The tokens of JSON

Which bytes are a string or a number, said without reading them, and which bytes write a row of
tokens. What the tokenizer finds is written, and it finds every row in which no two values without
parts stand side by side; a number ends only where a byte cannot go on with it.

* `StringText`, `NumberText` : what is written as a string or a number;
* `Token.written`, `Token.WellWritten` : the bytes of a token, and whether it is one;
* `Spaced` : some bytes that write a row of tokens, with any blanks between them;
* `tokens?_sound`, `tokens?_complete` : the tokenizer finds the rows that are written.
-/

namespace RoomBridge.Json

variable {p q : UInt8 → Bool} {s w after : Bytes}

/-- What was taken is changed, what follows it is not. -/
theorem map_taken_eq_some_iff {α β γ : Type} {f : α → β} {o : Option (α × γ)} {b : β}
    {after : γ} :
    (o.map fun (a, after) => (f a, after)) = some (b, after) ↔
      ∃ a, o = some (a, after) ∧ f a = b := by
  simp only [Option.map_eq_some_iff, Prod.exists, Prod.mk.injEq]
  constructor
  · rintro ⟨a, _, ho, rfl, rfl⟩
    exact ⟨a, ho, rfl⟩
  · rintro ⟨a, ho, rfl⟩
    exact ⟨a, after, ho, rfl, rfl⟩

/-! ## Strings -/

/-- What may stand between the quotes of a string. -/
inductive StringText : Bytes → Prop
  | nil : StringText []
  | plain {b : UInt8} {s : Bytes} : 0x20 ≤ b → b ≠ 0x22 → b ≠ 0x5C → StringText s →
      StringText (b :: s)
  | escape {e : UInt8} {s : Bytes} : isShortEscape e = true → StringText s →
      StringText (0x5C :: e :: s)
  | unit {p q r t : UInt8} {s : Bytes} : isHex p = true → isHex q = true → isHex r = true →
      isHex t = true → StringText s → StringText (0x5C :: 0x75 :: p :: q :: r :: t :: s)

theorem takeString?_sound (h : takeString? s = some (w, after)) :
    StringText w ∧ s = w ++ 0x22 :: after := by
  fun_induction takeString? s generalizing w after with
  | case1 | case4 | case6 | case7 | case8 => cases h
  | case2 b rest hquote =>
    cases h
    exact ⟨.nil, by rw [eq_of_beq hquote, List.nil_append]⟩
  | case3 b _ hslash p q r t rest hhex ih =>
    obtain ⟨body, htake, rfl⟩ :=
      (map_taken_eq_some_iff (f := (0x5C :: 0x75 :: p :: q :: r :: t :: ·))).mp h
    obtain ⟨hbody, rfl⟩ := ih htake
    simp only [Bool.and_eq_true, and_assoc] at hhex
    obtain ⟨hp, hq, hr, ht⟩ := hhex
    exact ⟨.unit hp hq hr ht hbody, by rw [eq_of_beq hslash]; rfl⟩
  | case5 b _ hslash e rest _ hescape ih =>
    obtain ⟨body, htake, rfl⟩ := (map_taken_eq_some_iff (f := (0x5C :: e :: ·))).mp h
    obtain ⟨hbody, rfl⟩ := ih htake
    exact ⟨.escape hescape hbody, by rw [eq_of_beq hslash]; rfl⟩
  | case9 b rest hquote hslash hcontrol ih =>
    obtain ⟨body, htake, rfl⟩ := map_taken_eq_some_iff.mp h
    obtain ⟨hbody, rfl⟩ := ih htake
    have hb : 0x20 ≤ b := UInt8.not_lt.mp hcontrol
    exact ⟨.plain hb (by simpa using hquote) (by simpa using hslash) hbody, rfl⟩

/-- A byte that is no backslash ends a string, or is taken by itself unless it is a control. -/
theorem takeString?_of_ne {b : UInt8} (hslash : b ≠ 0x5C) (s : Bytes) :
    takeString? (b :: s) =
      if b == 0x22 then some ([], s)
      else if b < 0x20 then none
      else (takeString? s).map fun (body, after) => (b :: body, after) := by
  rw [takeString?.eq_def]
  dsimp only
  rw [if_neg (by simpa using hslash : ¬ (b == 0x5C) = true)]

theorem takeString?_quote : takeString? (0x22 :: after) = some ([], after) :=
  takeString?_of_ne (by decide) after

theorem takeString?_plain {b : UInt8} (hcontrol : 0x20 ≤ b) (hquote : b ≠ 0x22)
    (hslash : b ≠ 0x5C) :
    takeString? (b :: s) = (takeString? s).map fun (body, after) => (b :: body, after) := by
  rw [takeString?_of_ne hslash, if_neg (by simpa using hquote), if_neg (UInt8.not_lt.mpr hcontrol)]

theorem takeString?_escape {e : UInt8} (hescape : isShortEscape e = true) :
    takeString? (0x5C :: e :: s) =
      (takeString? s).map fun (body, after) => (0x5C :: e :: body, after) := by
  have hunit : e ≠ 0x75 := by
    rintro rfl
    exact absurd hescape (by decide)
  rw [takeString?.eq_def]
  dsimp only
  rw [if_neg (by decide), if_pos (by decide)]
  split
  · next heq =>
    cases heq
    exact absurd rfl hunit
  · next heq =>
    cases heq
    exact if_pos hescape
  · next heq => cases heq

theorem takeString?_unit {p q r t : UInt8}
    (hhex : (isHex p && isHex q && isHex r && isHex t) = true) :
    takeString? (0x5C :: 0x75 :: p :: q :: r :: t :: s) =
      (takeString? s).map fun (body, after) =>
        (0x5C :: 0x75 :: p :: q :: r :: t :: body, after) :=
  if_pos hhex

theorem takeString?_complete (h : StringText w) (after : Bytes) :
    takeString? (w ++ 0x22 :: after) = some (w, after) := by
  induction h with
  | nil => exact takeString?_quote
  | plain hb hquote hslash _ ih =>
    rw [List.cons_append, takeString?_plain hb hquote hslash, ih]
    rfl
  | escape hescape _ ih =>
    rw [List.cons_append, List.cons_append, takeString?_escape hescape, ih]
    rfl
  | unit hp hq hr ht _ ih =>
    simp only [List.cons_append]
    rw [takeString?_unit (by rw [hp, hq, hr, ht]; rfl), ih]
    rfl

/-! ## Numbers -/

/-- Digits, at least one. -/
def Digits (s : Bytes) : Prop := s ≠ [] ∧ ∀ b ∈ s, isDigit b = true

/-- The whole part of a number: zero alone, or digits that do not start with zero. -/
inductive WholeText : Bytes → Prop
  | zero : WholeText [0x30]
  | digits {ds : Bytes} : Digits ds → ds.head? ≠ some 0x30 → WholeText ds

/-- The fraction of a number, or none. -/
inductive FractionText : Bytes → Prop
  | none : FractionText []
  | digits {ds : Bytes} : Digits ds → FractionText (0x2E :: ds)

/-- The exponent of a number, or none. -/
inductive ExponentText : Bytes → Prop
  | none : ExponentText []
  | digits {e : UInt8} {sign ds : Bytes} : e = 0x65 ∨ e = 0x45 → sign ∈ [[], [0x2B], [0x2D]] →
      Digits ds → ExponentText (e :: sign ++ ds)

inductive NumberText : Bytes → Prop
  | of (sign : Bytes) {whole fraction exponent : Bytes} : sign ∈ [[], [0x2D]] → WholeText whole →
      FractionText fraction → ExponentText exponent →
      NumberText (sign ++ (whole ++ fraction ++ exponent))

/-- Some bytes do not start with one of which `p` holds. -/
def Stops (p : UInt8 → Bool) (s : Bytes) : Prop := ∀ b ∈ s.head?, p b = false

/-- The bytes that a number goes on with. -/
def goesOn (b : UInt8) : Bool := isDigit b || b == 0x2E || b == 0x65 || b == 0x45

theorem Stops.mono (h : Stops p s) (hpq : ∀ b, q b = true → p b = true) : Stops q s := by
  intro b hb
  have hp := h b hb
  cases hq : q b with
  | false => rfl
  | true => exact absurd (hpq b hq) (by simp [hp])

theorem takeDigits?_sound (h : takeDigits? s = some (w, after)) : Digits w ∧ s = w ++ after := by
  unfold takeDigits? at h
  split at h
  · cases h
  · next hne =>
    cases h
    exact ⟨⟨hne, fun b hb => List.mem_takeWhile_imp hb⟩, List.takeWhile_append_dropWhile.symm⟩

theorem takeDigits?_complete (hw : Digits w) (hafter : Stops isDigit after) :
    takeDigits? (w ++ after) = some (w, after) := by
  have hnone : after.takeWhile isDigit = [] ∧ after.dropWhile isDigit = after := by
    cases after with
    | nil => exact ⟨rfl, rfl⟩
    | cons b rest =>
      have hb : isDigit b = false := hafter b rfl
      simp [hb]
  unfold takeDigits?
  rw [List.takeWhile_append_of_pos hw.2, List.dropWhile_append_of_pos hw.2, hnone.1, hnone.2,
    List.append_nil]
  split
  · exact absurd rfl hw.1
  · rfl

theorem takeWhole?_sound (h : takeWhole? s = some (w, after)) : WholeText w ∧ s = w ++ after := by
  unfold takeWhole? at h
  split at h
  · cases h
    exact ⟨.zero, rfl⟩
  · next hzero =>
    obtain ⟨hw, rfl⟩ := takeDigits?_sound h
    refine ⟨.digits hw fun hhead => ?_, rfl⟩
    obtain ⟨rest, rfl⟩ := List.head?_eq_some_iff.mp hhead
    exact hzero _ rfl

theorem takeWhole?_complete (hw : WholeText w) (hafter : Stops isDigit after) :
    takeWhole? (w ++ after) = some (w, after) := by
  cases hw with
  | zero => rfl
  | digits hds hhead =>
    rw [takeWhole?.eq_2 _ ?_]
    · exact takeDigits?_complete hds hafter
    · intro rest hrest
      cases w with
      | nil => exact hds.1 rfl
      | cons b ds =>
        cases hrest
        exact hhead rfl

theorem takeFraction?_sound (h : takeFraction? s = some (w, after)) :
    FractionText w ∧ s = w ++ after := by
  unfold takeFraction? at h
  split at h
  · obtain ⟨ds, htake, rfl⟩ := (map_taken_eq_some_iff (f := (0x2E :: ·))).mp h
    obtain ⟨hds, rfl⟩ := takeDigits?_sound htake
    exact ⟨.digits hds, rfl⟩
  · cases h
    exact ⟨.none, rfl⟩

theorem takeFraction?_complete (hw : FractionText w) (hdigit : Stops isDigit after)
    (hpoint : Stops (· == 0x2E) after) : takeFraction? (w ++ after) = some (w, after) := by
  cases hw with
  | none =>
    rw [List.nil_append, takeFraction?.eq_2]
    rintro rest rfl
    exact absurd (hpoint _ rfl) (by decide)
  | @digits ds hds => rw [List.cons_append, takeFraction?, takeDigits?_complete hds hdigit]; rfl

theorem takeSign_eq (s : Bytes) :
    (takeSign s).1 ∈ [[], [0x2B], [0x2D]] ∧ s = (takeSign s).1 ++ (takeSign s).2 := by
  unfold takeSign
  split <;> simp

theorem takeSign_append {sign ds : Bytes} (hsign : sign ∈ ([[], [0x2B], [0x2D]] : List Bytes))
    (hds : Digits ds) (after : Bytes) : takeSign (sign ++ (ds ++ after)) = (sign, ds ++ after) := by
  simp only [List.mem_cons, List.not_mem_nil, or_false] at hsign
  obtain rfl | rfl | rfl := hsign
  · obtain ⟨b, ds, rfl⟩ := List.exists_cons_of_ne_nil hds.1
    have hb : isDigit b = true := hds.2 b List.mem_cons_self
    rw [List.nil_append, takeSign.eq_3]
    · rintro rest hrest
      cases hrest
      exact absurd hb (by decide)
    · rintro rest hrest
      cases hrest
      exact absurd hb (by decide)
  · rfl
  · rfl

theorem takeExponent?_sound (h : takeExponent? s = some (w, after)) :
    ExponentText w ∧ s = w ++ after := by
  unfold takeExponent? at h
  split at h
  · cases h
    exact ⟨.none, rfl⟩
  · next e rest =>
    split at h
    · next he =>
      have hsign := takeSign_eq rest
      generalize takeSign rest = taken at h hsign
      obtain ⟨sign, tail⟩ := taken
      obtain ⟨hsign, rfl⟩ := hsign
      obtain ⟨ds, htake, rfl⟩ := (map_taken_eq_some_iff (f := (e :: sign ++ ·))).mp h
      obtain ⟨hds, rfl⟩ := takeDigits?_sound htake
      have he : e = 0x65 ∨ e = 0x45 := by simpa using he
      exact ⟨.digits he hsign hds, by simp⟩
    · cases h
      exact ⟨.none, rfl⟩

theorem takeExponent?_complete (hw : ExponentText w) (hdigit : Stops isDigit after)
    (hletter : Stops (fun b => b == 0x65 || b == 0x45) after) :
    takeExponent? (w ++ after) = some (w, after) := by
  cases hw with
  | none =>
    cases after with
    | nil => rfl
    | cons b rest =>
      have hb := hletter b rfl
      simp [takeExponent?, hb]
  | @digits e sign ds he hsign hds =>
    have he : (e == 0x65 || e == 0x45) = true := by simpa using he
    rw [List.cons_append, List.cons_append, List.append_assoc, takeExponent?, if_pos he,
      takeSign_append hsign hds]
    dsimp only
    rw [takeDigits?_complete hds hdigit]
    rfl

theorem WholeText.front (hw : WholeText w) : ∃ b rest, w = b :: rest ∧ isDigit b = true := by
  cases hw with
  | zero => exact ⟨0x30, [], rfl, rfl⟩
  | digits hds =>
    obtain ⟨b, rest, rfl⟩ := List.exists_cons_of_ne_nil hds.1
    exact ⟨b, rest, rfl, hds.2 b List.mem_cons_self⟩

theorem FractionText.stops (hw : FractionText w) (hp : p 0x2E = false) (hafter : Stops p after) :
    Stops p (w ++ after) := by
  cases hw with
  | none => exact hafter
  | digits _ =>
    rintro _ ⟨⟩
    exact hp

theorem ExponentText.stops (hw : ExponentText w) (hsmall : p 0x65 = false)
    (hcapital : p 0x45 = false) (hafter : Stops p after) : Stops p (w ++ after) := by
  cases hw with
  | none => exact hafter
  | digits he _ _ =>
    rintro _ ⟨⟩
    obtain rfl | rfl := he
    · exact hsmall
    · exact hcapital

theorem takeUnsigned?_sound (h : takeUnsigned? s = some (w, after)) :
    ∃ whole fraction exponent, WholeText whole ∧ FractionText fraction ∧ ExponentText exponent ∧
      w = whole ++ fraction ++ exponent ∧ s = w ++ after := by
  unfold takeUnsigned? at h
  obtain ⟨⟨whole, _⟩, htake₁, h⟩ := Option.bind_eq_some_iff.mp h
  obtain ⟨⟨fraction, _⟩, htake₂, h⟩ := Option.bind_eq_some_iff.mp h
  obtain ⟨exponent, htake₃, rfl⟩ := (map_taken_eq_some_iff (f := (whole ++ fraction ++ ·))).mp h
  obtain ⟨hwhole, rfl⟩ := takeWhole?_sound htake₁
  obtain ⟨hfraction, rfl⟩ := takeFraction?_sound htake₂
  obtain ⟨hexponent, rfl⟩ := takeExponent?_sound htake₃
  exact ⟨whole, fraction, exponent, hwhole, hfraction, hexponent, rfl, by simp⟩

theorem takeUnsigned?_complete {whole fraction exponent : Bytes} (hwhole : WholeText whole)
    (hfraction : FractionText fraction) (hexponent : ExponentText exponent)
    (hafter : Stops goesOn after) :
    takeUnsigned? (whole ++ fraction ++ exponent ++ after) =
      some (whole ++ fraction ++ exponent, after) := by
  have hdigit : Stops isDigit after := hafter.mono fun b hb => by simp [goesOn, hb]
  have hpoint : Stops (· == 0x2E) after := hafter.mono fun b hb => by
    rw [eq_of_beq hb]
    rfl
  have hletter : Stops (fun b => b == 0x65 || b == 0x45) after := hafter.mono fun b hb => by
    rw [goesOn, Bool.or_assoc, hb, Bool.or_true]
  -- Neither a point nor the letter of an exponent is a digit: each part ends where the next begins.
  have hexponentDigit : Stops isDigit (exponent ++ after) := hexponent.stops rfl rfl hdigit
  have hexponentPoint : Stops (· == 0x2E) (exponent ++ after) := hexponent.stops rfl rfl hpoint
  have hfractionDigit : Stops isDigit (fraction ++ (exponent ++ after)) :=
    hfraction.stops rfl hexponentDigit
  simp only [takeUnsigned?, List.append_assoc, takeWhole?_complete hwhole hfractionDigit,
    Option.bind_some, takeFraction?_complete hfraction hexponentDigit hexponentPoint,
    takeExponent?_complete hexponent hdigit hletter, Option.map_some]

theorem takeNumber?_sound (h : takeNumber? s = some (w, after)) :
    NumberText w ∧ s = w ++ after := by
  unfold takeNumber? at h
  split at h
  · obtain ⟨written, htake, rfl⟩ := (map_taken_eq_some_iff (f := (0x2D :: ·))).mp h
    obtain ⟨_, _, _, hwhole, hfraction, hexponent, rfl, rfl⟩ := takeUnsigned?_sound htake
    exact ⟨.of [0x2D] (by simp) hwhole hfraction hexponent, rfl⟩
  · obtain ⟨_, _, _, hwhole, hfraction, hexponent, rfl, rfl⟩ := takeUnsigned?_sound h
    exact ⟨.of [] (by simp) hwhole hfraction hexponent, rfl⟩

theorem takeNumber?_complete (hw : NumberText w) (hafter : Stops goesOn after) :
    takeNumber? (w ++ after) = some (w, after) := by
  obtain @⟨sign, whole, fraction, exponent, hsign, hwhole, hfraction, hexponent⟩ := hw
  have htake := takeUnsigned?_complete hwhole hfraction hexponent hafter
  simp only [List.mem_cons, List.not_mem_nil, or_false] at hsign
  obtain rfl | rfl := hsign
  · obtain ⟨b, rest, rfl, hb⟩ := hwhole.front
    rw [List.nil_append, takeNumber?.eq_2]
    · exact htake
    · rintro rest hrest
      cases hrest
      exact absurd hb (by decide)
  · rw [List.cons_append, List.cons_append, List.nil_append, takeNumber?, htake]
    rfl

/-! ## Tokens -/

/-- The bytes of a value without parts. -/
def Scalar.written : Scalar → Bytes
  | .null => Bytes.ascii "null"
  | .bool true => Bytes.ascii "true"
  | .bool false => Bytes.ascii "false"
  | .number w => w
  | .string w => 0x22 :: (w ++ [0x22])

def Scalar.WellWritten : Scalar → Prop
  | .number w => NumberText w
  | .string w => StringText w
  | _ => True

namespace Token

/-- The bytes of a token. -/
def written : Token → Bytes
  | .openArray => [0x5B]
  | .closeArray => [0x5D]
  | .openObject => [0x7B]
  | .closeObject => [0x7D]
  | .comma => [0x2C]
  | .colon => [0x3A]
  | .scalar s => s.written

/-- What a token holds is a string or a number if it says so. -/
def WellWritten : Token → Prop
  | .scalar s => s.WellWritten
  | _ => True

def isScalar : Token → Bool
  | .scalar _ => true
  | _ => false

end Token

theorem takeWord?_eq_some_iff {word : String} {value : Scalar} {t : Token} :
    takeWord? word value s = some (t, after) ↔
      t = .scalar value ∧ s = Bytes.ascii word ++ after := by
  simp only [takeWord?, Option.map_eq_some_iff, List.isPrefixOf?_eq_some_iff_append_eq,
    Prod.mk.injEq]
  constructor
  · rintro ⟨_, rfl, rfl, rfl⟩
    exact ⟨rfl, rfl⟩
  · rintro ⟨rfl, rfl⟩
    exact ⟨after, rfl, rfl, rfl⟩

theorem takeToken?_sound {b : UInt8} {rest : Bytes} {t : Token}
    (h : takeToken? b rest = some (t, after)) :
    t.WellWritten ∧ b :: rest = t.written ++ after := by
  unfold takeToken? at h
  -- Six marks, a string, three words, and anything else is a number.
  iterate 6
    obtain ⟨hb, h⟩ | ⟨-, h⟩ := ite_eq_iff.mp h
    · cases h
      exact ⟨trivial, by rw [eq_of_beq hb]; rfl⟩
  obtain ⟨hb, h⟩ | ⟨-, h⟩ := ite_eq_iff.mp h
  · obtain ⟨w, htake, rfl⟩ := (map_taken_eq_some_iff (f := (Token.scalar <| .string ·))).mp h
    obtain ⟨hw, rfl⟩ := takeString?_sound htake
    exact ⟨hw, by simp [eq_of_beq hb, Token.written, Scalar.written]⟩
  iterate 3
    obtain ⟨hb, h⟩ | ⟨-, h⟩ := ite_eq_iff.mp h
    · obtain ⟨rfl, rfl⟩ := takeWord?_eq_some_iff.mp h
      exact ⟨trivial, by rw [eq_of_beq hb]; rfl⟩
  obtain ⟨w, htake, rfl⟩ := (map_taken_eq_some_iff (f := (Token.scalar <| .number ·))).mp h
  exact takeNumber?_sound htake

theorem NumberText.front (hw : NumberText w) :
    ∃ b rest, w = b :: rest ∧ (b = 0x2D ∨ isDigit b = true) := by
  obtain @⟨sign, whole, fraction, exponent, hsign, hwhole, _, _⟩ := hw
  simp only [List.mem_cons, List.not_mem_nil, or_false] at hsign
  obtain rfl | rfl := hsign
  · obtain ⟨b, rest, rfl, hb⟩ := hwhole.front
    exact ⟨b, _, rfl, .inr hb⟩
  · exact ⟨0x2D, _, rfl, .inl rfl⟩

theorem takeToken?_number {b : UInt8} (rest : Bytes) (hb : b = 0x2D ∨ isDigit b = true) :
    isBlank b = false ∧ takeToken? b rest = (takeNumber? (b :: rest)).map fun (written, after) =>
      (.scalar (.number written), after) := by
  -- The codes of the other tokens and of blanks.
  have hothers : ∀ c ∈ [0x5B, 0x5D, 0x7B, 0x7D, 0x2C, 0x3A, 0x22, 0x6E, 0x74, 0x66,
      0x20, 0x09, 0x0A, 0x0D], ¬ (c = 0x2D ∨ isDigit c = true) := by simp [isDigit]
  have hcodes := mt (hothers b) (not_not_intro hb)
  simp only [List.mem_cons, List.not_mem_nil, or_false, not_or] at hcodes
  simp [takeToken?, isBlank, hcodes]

/-- A token is found where it is written, unless a number goes on. -/
theorem takeToken?_complete {t : Token} (ht : t.WellWritten)
    (hafter : t.isScalar = true → Stops goesOn after) :
    ∃ b rest, t.written = b :: rest ∧ isBlank b = false ∧
      takeToken? b (rest ++ after) = some (t, after) := by
  rcases t with _ | _ | _ | _ | _ | _ | (_ | _ | _) | w | w
  case scalar.bool =>
    cases w with
    | false => exact ⟨_, _, rfl, rfl, rfl⟩
    | true => exact ⟨_, _, rfl, rfl, rfl⟩
  case scalar.number =>
    obtain ⟨b, rest, rfl, hb⟩ := NumberText.front ht
    obtain ⟨hblank, htake⟩ := takeToken?_number (rest ++ after) hb
    refine ⟨b, rest, rfl, hblank, ?_⟩
    rw [htake, ← List.cons_append, takeNumber?_complete ht (hafter rfl)]
    rfl
  case scalar.string w =>
    refine ⟨0x22, w ++ [0x22], rfl, rfl, ?_⟩
    simp [takeToken?, takeString?_complete ht after]
  all_goals exact ⟨_, _, rfl, rfl, rfl⟩

/-! ## Rows of tokens -/

/-- Some bytes write some tokens, with any blanks before, between and after them. -/
inductive Spaced : List Token → Bytes → Prop
  | nil : Spaced [] []
  | blank {b : UInt8} {ts : List Token} {s : Bytes} : isBlank b = true → Spaced ts s →
      Spaced ts (b :: s)
  | token {ts : List Token} {s : Bytes} (t : Token) : Spaced ts s →
      Spaced (t :: ts) (t.written ++ s)

theorem tokensIn_sound {fuel : Nat} {ts : List Token} (h : tokensIn fuel s = some ts) :
    Spaced ts s ∧ ∀ t ∈ ts, t.WellWritten := by
  fun_induction tokensIn fuel s generalizing ts with
  | case1 =>
    cases h
    exact ⟨.nil, nofun⟩
  | case2 => cases h
  | case3 fuel b rest hblank ih =>
    obtain ⟨hspaced, hwell⟩ := ih h
    exact ⟨.blank hblank hspaced, hwell⟩
  | case4 fuel b rest _ ih =>
    obtain ⟨⟨t, after⟩, htake, h⟩ := Option.bind_eq_some_iff.mp h
    obtain ⟨ts, hrest, rfl⟩ := Option.map_eq_some_iff.mp h
    obtain ⟨ht, hsplit⟩ := takeToken?_sound htake
    obtain ⟨hspaced, hwell⟩ := ih after hrest
    rw [hsplit]
    exact ⟨.token t hspaced, List.forall_mem_cons.mpr ⟨ht, hwell⟩⟩

/-- Where no value without parts comes next, no number goes on. -/
theorem Spaced.stops {ts : List Token} (h : Spaced ts s)
    (hhead : ∀ t ∈ ts.head?, t.isScalar = false) : Stops goesOn s := by
  cases h with
  | nil => exact nofun
  | @blank b _ _ hblank _ =>
    rintro _ ⟨⟩
    simp only [isBlank, Bool.or_eq_true, beq_iff_eq] at hblank
    obtain ((rfl | rfl) | rfl) | rfl := hblank <;> rfl
  | token t _ =>
    intro b hb
    have ht := hhead t rfl
    cases t with
    | scalar v => cases ht
    | _ =>
      cases hb
      rfl

/-- Two tokens of which at most one is a value without parts; they need no blank between them. -/
def Token.Apart (t u : Token) : Prop := t.isScalar = true → u.isScalar = false

theorem tokensIn_complete {fuel : Nat} {ts : List Token} (h : Spaced ts s)
    (hwell : ∀ t ∈ ts, t.WellWritten) (hchain : ts.IsChain Token.Apart)
    (hfuel : s.length ≤ fuel) : tokensIn fuel s = some ts := by
  induction h generalizing fuel with
  | nil => cases fuel <;> rfl
  | @blank b ts s hblank _ ih =>
    rw [List.length_cons] at hfuel
    obtain ⟨fuel, rfl⟩ := Nat.exists_eq_add_one_of_ne_zero (by omega : fuel ≠ 0)
    rw [tokensIn, if_pos hblank]
    exact ih hwell hchain (by omega)
  | @token ts s t hspaced ih =>
    obtain ⟨ht, hwell⟩ := List.forall_mem_cons.mp hwell
    obtain ⟨hapart, hchain⟩ := List.isChain_cons.mp hchain
    obtain ⟨b, rest, hwritten, hblank, htake⟩ := takeToken?_complete ht fun hscalar =>
      hspaced.stops fun u hu => hapart u hu hscalar
    rw [hwritten, List.cons_append] at hfuel ⊢
    rw [List.length_cons, List.length_append] at hfuel
    obtain ⟨fuel, rfl⟩ := Nat.exists_eq_add_one_of_ne_zero (by omega : fuel ≠ 0)
    have hrest := ih hwell hchain (by omega : s.length ≤ fuel)
    simp [tokensIn, hblank, htake, hrest]

theorem tokens?_sound {ts : List Token} (h : tokens? s = some ts) :
    Spaced ts s ∧ ∀ t ∈ ts, t.WellWritten :=
  tokensIn_sound h

theorem tokens?_complete {ts : List Token} (h : Spaced ts s) (hwell : ∀ t ∈ ts, t.WellWritten)
    (hchain : ts.IsChain Token.Apart) : tokens? s = some ts :=
  tokensIn_complete h hwell hchain (Nat.le_refl _)

end RoomBridge.Json
