import RoomBridge.Json.Token
import RoomBridge.Text.Utf8

/-!
# JSON strings as texts

What is written between quotes is a text if its bytes are UTF-8 and its escapes of surrogates come in
pairs.
-/

namespace RoomBridge.Json

/-- The character that a letter stands for after a backslash. -/
def shortEscape? (b : UInt8) : Option Char :=
  if b == 0x22 then some '"'
  else if b == 0x5C then some '\\'
  else if b == 0x2F then some '/'
  else if b == 0x62 then some '\x08'
  else if b == 0x66 then some '\x0C'
  else if b == 0x6E then some '\n'
  else if b == 0x72 then some '\r'
  else if b == 0x74 then some '\t'
  else none

/-- The number that four hexadecimal digits at the front write. -/
def takeUnit? : Bytes → Option (Nat × Bytes)
  | p :: q :: r :: s :: rest => do
    let p ← hexValue? p
    let q ← hexValue? q
    let r ← hexValue? r
    let s ← hexValue? s
    some (((p * 16 + q) * 16 + r) * 16 + s, rest)
  | _ => none

/-- The second of two surrogates, with its backslash. -/
def takeLowSurrogate? : Bytes → Option (Nat × Bytes)
  | 0x5C :: 0x75 :: rest =>
    (takeUnit? rest).filter fun (unit, _) => 0xDC00 ≤ unit ∧ unit ≤ 0xDFFF
  | _ => none

/-- The character written by one unit or by two surrogates. -/
def takeEscapedUnit? (bytes : Bytes) : Option (Char × Bytes) :=
  (takeUnit? bytes).bind fun (unit, rest) =>
    if 0xDC00 ≤ unit ∧ unit ≤ 0xDFFF then none
    else if 0xD800 ≤ unit ∧ unit ≤ 0xDBFF then
      (takeLowSurrogate? rest).map fun (low, rest) =>
        (Char.ofNat (0x10000 + (unit - 0xD800) * 0x400 + (low - 0xDC00)), rest)
    else some (Char.ofNat unit, rest)

/-- The character at the front of what is written. -/
def takeChar? : Bytes → Option (Char × Bytes)
  | 0x5C :: 0x75 :: rest => takeEscapedUnit? rest
  | 0x5C :: e :: rest => (shortEscape? e).map fun c => (c, rest)
  | bytes => Utf8.takeChar? bytes

/-- The characters of what is written, in at most `fuel` steps. -/
def charsIn : Nat → Bytes → Option (List Char)
  | _, [] => some []
  | 0, _ => none
  | fuel + 1, bytes =>
    (takeChar? bytes).bind fun (c, rest) => (charsIn fuel rest).map (c :: ·)

/-- The text that a string writes; every character takes at least one byte. -/
def text? (written : Bytes) : Option String :=
  (charsIn written.length written).map String.ofList

end RoomBridge.Json
