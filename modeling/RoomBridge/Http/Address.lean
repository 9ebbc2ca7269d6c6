import RoomBridge.Text.Numeral
import RoomBridge.Text.Split
import RoomBridge.Text.Utf8

/-!
# Web addresses

Absolute `http` and `https` addresses as the URL Standard reads them: a scheme, an authority, the
segments of a path and a query. Characters that cannot stand in a part are percent-encoded, segments
of points go up the path, and a fragment is dropped, for it is never sent.

* `Address.read?` : the address a text writes;
* `Address.addQuery` : one more parameter, in the encoding of forms;
* `Address.target` : path and query as they stand in a request.
-/

namespace RoomBridge

structure Address where
  scheme : String
  authority : String
  path : List String
  query : Option String
  deriving DecidableEq, Repr

namespace Address

/-! ## Percent-encoding -/

/-- A capital hexadecimal digit. -/
def hexDigit (n : Nat) : Char := (Nat.digitChar n).toUpper

/-- A byte as a percent sign and two digits. -/
def percentByte (b : UInt8) : List Char := ['%', hexDigit (b.toNat / 16), hexDigit (b.toNat % 16)]

/-- A text with the characters of a class percent-encoded. -/
def percentEncode (must : Char → Bool) (cs : List Char) : List Char :=
  cs.flatMap fun c => if must c then (String.utf8EncodeChar c).flatMap percentByte else [c]

/-- Controls and everything beyond ASCII. -/
def isControl (c : Char) : Bool := c.toNat < 0x20 || 0x7E < c.toNat

/-- What cannot stand in a path. -/
def pathMust (c : Char) : Bool :=
  isControl c || [' ', '"', '#', '<', '>', '?', '\x60', '\x7b', '\x7d'].contains c

/-- What cannot stand in a query. -/
def queryMust (c : Char) : Bool := isControl c || [' ', '"', '#', '<', '>', '\''].contains c

/-- A byte in the encoding of forms. -/
def formByte (b : UInt8) : List Char :=
  let c := Char.ofNat b.toNat
  if c = ' ' then ['+']
  else if c.isAlphanum || ['*', '-', '.', '_'].contains c then [c]
  else percentByte b

/-- A text in the encoding of forms. -/
def formEncode (s : String) : String := String.ofList ((Utf8.encode s).flatMap formByte)

/-! ## Reading -/

/-- Segments are divided by either slash. -/
def isSlash (c : Char) : Bool := c = '/' || c = '\\'

/-- The segments of a path. -/
def splitPath : List Char → List (List Char)
  | [] => [[]]
  | c :: cs =>
    if isSlash c then [] :: splitPath cs
    else
      match splitPath cs with
      | [] => [[c]]
      | s :: ss => (c :: s) :: ss

/-- The segment stays where it is. -/
def isHere (segment : List Char) : Bool :=
  [".", "%2e"].contains (String.ofList (Text.lower segment))

/-- The segment goes one up. -/
def isUp (segment : List Char) : Bool :=
  ["..", ".%2e", "%2e.", "%2e%2e"].contains (String.ofList (Text.lower segment))

/-- Walks segments after those in `above`, the nearest first; a path that ends in points ends in an
empty segment. -/
def walk (above : List String) : List (List Char) → List String
  | [] => above.reverse
  | [s] =>
    if isUp s then ("" :: above.tail).reverse
    else if isHere s then ("" :: above).reverse
    else (String.ofList (percentEncode pathMust s) :: above).reverse
  | s :: t :: rest =>
    if isUp s then walk above.tail (t :: rest)
    else if isHere s then walk above (t :: rest)
    else walk (String.ofList (percentEncode pathMust s) :: above) (t :: rest)

/-- What cannot stand in a host's name. -/
def isForbiddenInHost (c : Char) : Bool :=
  c.toNat ≤ 0x20 || c.toNat == 0x7F ||
    ['#', '%', '/', ':', '<', '>', '?', '@', '[', '\\', ']', '^', '|'].contains c

/-- A host's name with an optional port. -/
def isHost (host : List Char) : Bool :=
  let name := Text.upTo ':' host
  let port := (host.dropWhile (· ≠ ':')).drop 1
  !name.isEmpty && !name.any isForbiddenInHost &&
    (port.isEmpty || (Text.digits? port).any (· < 65536))

/-- The authority, past what stands before an at sign, names a host. -/
def isAuthority (authority : List Char) : Bool :=
  isHost (authority.reverse.takeWhile (· ≠ '@')).reverse

/-- Blanks and controls around an address do not count, nor do line breaks and tabs in it. -/
def cleaned (s : String) : List Char :=
  let atEnd (c : Char) : Bool := c.toNat ≤ 0x20
  (((s.toList.dropWhile atEnd).reverse.dropWhile atEnd).reverse).filter
    fun c => c ≠ '\t' && c ≠ '\n' && c ≠ '\r'

/-- The address that a text writes. -/
def read? (s : String) : Option Address := do
  let (scheme, rest) ← Text.cutAt ':' (cleaned s)
  let scheme := String.ofList (Text.lower scheme)
  guard (scheme = "http" ∨ scheme = "https")
  let rest := Text.upTo '#' (rest.dropWhile isSlash)
  let (place, query) :=
    match Text.cutAt '?' rest with
    | some (place, query) => (place, some (String.ofList (percentEncode queryMust query)))
    | none => (rest, none)
  let authority := place.takeWhile (!isSlash ·)
  guard (isAuthority authority)
  return {
    scheme
    authority := String.ofList authority
    path := walk [] (splitPath ((place.dropWhile (!isSlash ·)).drop 1))
    query }

/-! ## Requests -/

/-- An address with one more parameter. -/
def addQuery (a : Address) (name value : String) : Address :=
  let pair := formEncode name ++ "=" ++ formEncode value
  match a.query with
  | none | some "" => { a with query := some pair }
  | some query => { a with query := some (query ++ "&" ++ pair) }

/-- Path and query. -/
def target (a : Address) : String :=
  "/" ++ "/".intercalate a.path ++ (a.query.map ("?" ++ ·)).getD ""

end Address

end RoomBridge
