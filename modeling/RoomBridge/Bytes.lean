/-!
# Bytes

Contents are lists of bytes. `ascii` reads a text of ASCII characters as bytes; `hexDigits` writes
every byte as two hexadecimal digits.
-/

namespace RoomBridge

/-- The content of a file or a request. -/
abbrev Bytes := List UInt8

namespace Bytes

/-- The codes of a text of ASCII characters. -/
def ascii (s : String) : Bytes := s.toList.map fun c => c.toNat.toUInt8

/-- Two hexadecimal digits a byte, small letters. -/
def hexDigits (bytes : Bytes) : String :=
  String.ofList (bytes.flatMap fun b => [Nat.digitChar (b.toNat / 16), Nat.digitChar (b.toNat % 16)])

/-- The bytes of a number, most significant first, in `count` places. -/
def bigEndian : Nat → Nat → Bytes
  | 0, _ => []
  | count + 1, n => bigEndian count (n / 256) ++ [n.toUInt8]

end Bytes

end RoomBridge
