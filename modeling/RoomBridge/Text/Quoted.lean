import RoomBridge.Text.CharClass
import RoomBridge.Text.Extending
import RoomBridge.Text.Unprintable

/-!
# Quoted texts

`quoted` writes a text between double quotes so that every character of it can be seen: the quote,
the backslash and the common controls have a letter after a backslash, and other characters without
a glyph of their own are written `\u` with their code point in braces.
-/

namespace RoomBridge.Text

/-- One hexadecimal digit, small letters. -/
def hexDigit (n : Nat) : Char := Nat.digitChar n

/-- A number in hexadecimal without leading zeros. -/
def hex (n : Nat) : List Char := Nat.toDigits 16 n

/-- A character cannot be seen on its own. -/
def isHidden (c : Char) : Bool := inRanges extendingRanges c || inRanges unprintableRanges c

/-- How a character stands inside quotes. -/
def escaped (c : Char) : List Char :=
  if c = '\x00' then ['\\', '0']
  else if c = '\t' then ['\\', 't']
  else if c = '\r' then ['\\', 'r']
  else if c = '\n' then ['\\', 'n']
  else if c = '\\' then ['\\', '\\']
  else if c = '"' then ['\\', '"']
  else if isHidden c then ['\\', 'u', '\x7b'] ++ hex c.toNat ++ ['\x7d']
  else [c]

/-- A text between quotes. -/
def quoted (s : String) : String :=
  String.ofList ('"' :: (s.toList.flatMap escaped ++ ['"']))

/-- An optional text: its absence has a word of its own. -/
def quotedOption : Option String → String
  | none => "None"
  | some s => "Some(" ++ quoted s ++ ")"

/-- A record: its name, then its fields with their written values. -/
def quotedRecord (name : String) (entries : List (String × String)) : String :=
  name ++ " \x7b " ++ ", ".intercalate (entries.map fun (k, v) => k ++ ": " ++ v) ++ " \x7d"

end RoomBridge.Text
