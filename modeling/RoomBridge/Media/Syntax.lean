import RoomBridge.Text.Split

/-!
# The syntax of MIME types

A MIME type is a type, a slash and a subtype, and after a semicolon its parameters. `canonical?` is
the text it is sent as: type, subtype and the names of parameters in small letters, the value of a
`charset` too, all else as it is written. The subtype may be empty if no semicolon follows.
-/

namespace RoomBridge.MimeType

/-- The characters of types, subtypes and the names of parameters. -/
def isTokenChar (c : Char) : Bool :=
  c.isAlphanum ||
    ['!', '#', '$', '%', '&', '\'', '*', '+', '-', '.', '^', '_', '\x60', '|', '~'].contains c

/-- A token, at least one character long. -/
def isToken (cs : List Char) : Bool := !cs.isEmpty && cs.all isTokenChar

/-- What may stand between quotes. -/
def isQuotable (c : Char) : Bool := 0x20 ≤ c.toNat && c.toNat ≠ 0x7F

/-- The rest of a quoted value, as it is written, and what follows it. The value is at least one
character long, and its first character may be a quote itself. -/
def takeQuoted? : List Char → Option (List Char × List Char)
  | [] => none
  | c :: cs =>
    let inside (d : Char) : Bool := isQuotable d && d ≠ '"'
    match cs.dropWhile inside with
    | '"' :: rest => if isQuotable c then some (c :: cs.takeWhile inside ++ ['"'], rest) else none
    | _ => none

/-- The value of a parameter, as it is written, and the next semicolon with all that follows. Blanks
may follow a quoted value; a value without quotes is a token, empty only at the end. -/
def takeValue? : List Char → Option (List Char × List Char)
  | '"' :: cs => do
    let (value, rest) ← takeQuoted? cs
    let written := '"' :: value ++ rest.takeWhile (· = ' ')
    match rest.dropWhile (· = ' ') with
    | [] => some (written, [])
    | ';' :: rest => some (written, ';' :: rest)
    | _ => none
  | cs =>
    match cs.takeWhile isTokenChar, cs.dropWhile isTokenChar with
    | value, [] => some (value, [])
    | c :: value, ';' :: rest => some (c :: value, ';' :: rest)
    | _, _ => none

/-- A parameter as it is sent; the names of character sets have no capitals. -/
def canonicalParameter (name value : List Char) : List Char :=
  let name := Text.lower name
  name ++ '=' :: (if name = "charset".toList then Text.lower value else value)

/-- Parameters as they are sent, each after its semicolon, read in at most `fuel` steps. -/
def canonicalParameters? : Nat → List Char → Option (List Char)
  | _, [] => some []
  | fuel + 1, ';' :: cs =>
    let blanks := cs.takeWhile (· = ' ')
    match cs.dropWhile (· = ' ') with
    | [] => some (';' :: blanks)
    | cs => do
      let (name, cs) ← Text.cutAt '=' cs
      guard (isToken name)
      let (value, rest) ← takeValue? cs
      let more ← canonicalParameters? fuel rest
      return ';' :: blanks ++ canonicalParameter name value ++ more
  | _, _ => none

/-- A semicolon with nothing but blanks after it is not sent. -/
def withoutBareSemicolon (parameters : List Char) : List Char :=
  if parameters.all fun c => c = ';' || c = ' ' then [] else parameters

/-- The text that a MIME type is sent as; none if it cannot be sent as one. -/
def canonical? (mimeType : String) : Option String := do
  let (top, rest) ← Text.cutAt '/' mimeType.toList
  let subtype := Text.upTo ';' rest
  let parameters := rest.drop subtype.length
  guard (isToken top && subtype.all isTokenChar && (parameters.isEmpty || !subtype.isEmpty))
  let parameters ← canonicalParameters? parameters.length parameters
  let kind := Text.lower top ++ '/' :: Text.lower subtype
  return String.ofList (kind ++ withoutBareSemicolon parameters)

end RoomBridge.MimeType
