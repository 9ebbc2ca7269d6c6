import RoomBridge.Bytes

/-!
# UTF-8

`takeChar?` reads one well-formed character from the front of some bytes: the shortest form only, no
surrogates, nothing above U+10FFFF. `decode?` accepts well-formed bytes, `decodeLossy` puts U+FFFD
where they are not, and `encode` writes a text.
-/

namespace RoomBridge.Utf8

/-- A byte that continues a character. -/
def isContinuation (b : UInt8) : Bool := b &&& 0xC0 == 0x80

/-- The bits that a continuing byte adds. -/
def extend (n : Nat) (b : UInt8) : Nat := n * 64 + b.toNat % 64

/-- The first continuing byte is narrowed after some first bytes: no long forms, no surrogates,
nothing above U+10FFFF. -/
def isSecond (first second : UInt8) : Bool :=
  isContinuation second &&
    (first != 0xE0 || second ≥ 0xA0) && (first != 0xED || second < 0xA0) &&
    (first != 0xF0 || second ≥ 0x90) && (first != 0xF4 || second < 0x90)

/-- The first character of some bytes, and the bytes after it. -/
def takeChar? : Bytes → Option (Char × Bytes)
  | [] => none
  | a :: rest =>
    if a < 0x80 then some (Char.ofNat a.toNat, rest)
    else if 0xC2 ≤ a && a ≤ 0xDF then
      match rest with
      | b :: rest =>
        if isContinuation b then some (Char.ofNat (extend (a.toNat % 32) b), rest) else none
      | _ => none
    else if 0xE0 ≤ a && a ≤ 0xEF then
      match rest with
      | b :: c :: rest =>
        if isSecond a b && isContinuation c then
          some (Char.ofNat (extend (extend (a.toNat % 16) b) c), rest)
        else none
      | _ => none
    else if 0xF0 ≤ a && a ≤ 0xF4 then
      match rest with
      | b :: c :: d :: rest =>
        if isSecond a b && isContinuation c && isContinuation d then
          some (Char.ofNat (extend (extend (extend (a.toNat % 8) b) c) d), rest)
        else none
      | _ => none
    else none

/-- A character takes at least one byte. -/
theorem length_of_takeChar? {bytes rest : Bytes} {c : Char}
    (h : takeChar? bytes = some (c, rest)) : rest.length < bytes.length := by
  unfold takeChar? at h
  repeat' split at h
  all_goals first
    | cases h; done
    | (cases h; simp only [List.length_cons]; omega)

/-- All characters of well-formed bytes. -/
def chars? (bytes : Bytes) : Option (List Char) :=
  match bytes with
  | [] => some []
  | b :: bs =>
    match _h : takeChar? (b :: bs) with
    | none => none
    | some (c, rest) => (chars? rest).map (c :: ·)
termination_by bytes.length
decreasing_by exact length_of_takeChar? _h

/-- The text of well-formed bytes. -/
def decode? (bytes : Bytes) : Option String := (chars? bytes).map String.ofList

/-- The bytes of a text. -/
def encode (s : String) : Bytes := s.toList.flatMap String.utf8EncodeChar

/-! ## Bytes that are not well formed -/

/-- How many bytes at the front a single U+FFFD stands for when no character starts there: the
longest opening of one, at least one byte. -/
def badLength : Bytes → Nat
  | a :: b :: c :: _ =>
    if (0xE0 ≤ a && a ≤ 0xF4) && isSecond a b then
      if 0xF0 ≤ a && isContinuation c then 3 else 2
    else 1
  | [a, b] => if (0xE0 ≤ a && a ≤ 0xF4) && isSecond a b then 2 else 1
  | _ => 1

theorem badLength_pos (bytes : Bytes) : 0 < badLength bytes := by
  unfold badLength
  repeat' split
  all_goals decide

/-- The characters of any bytes, U+FFFD standing for what is not well formed. -/
def lossyChars (bytes : Bytes) : List Char :=
  match bytes with
  | [] => []
  | b :: bs =>
    match _h : takeChar? (b :: bs) with
    | some (c, rest) => c :: lossyChars rest
    | none => '\uFFFD' :: lossyChars ((b :: bs).drop (badLength (b :: bs)))
termination_by bytes.length
decreasing_by
  · exact length_of_takeChar? _h
  · have := badLength_pos (b :: bs)
    simp only [List.length_drop, List.length_cons]
    omega

/-- The text of any bytes. -/
def decodeLossy (bytes : Bytes) : String := String.ofList (lossyChars bytes)

end RoomBridge.Utf8
