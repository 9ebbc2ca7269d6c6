import RoomBridge.Bytes

/-!
# Types of media, read off their first bytes

`Signature.table` holds the openings that tell a format; containers keep their format's tag at a
fixed place further in. `mediaType` is the MIME type of a content, whatever anyone says it is.
-/

namespace RoomBridge

/-- An opening that tells a format. -/
structure Signature where
  magic : Bytes
  mimeType : String
  deriving DecidableEq, Repr

namespace Signature

/-- The signature of a content is its opening. -/
def matches? (s : Signature) (content : Bytes) : Bool := s.magic.isPrefixOf content

/-- An opening of ASCII characters. -/
def ofText (text mimeType : String) : Signature := ⟨Bytes.ascii text, mimeType⟩

/-- The known openings, in the order they are tried. -/
def table : List Signature := [
  ⟨[0xFF, 0xD8], "image/jpeg"⟩,
  ⟨0x89 :: Bytes.ascii "PNG", "image/png"⟩,
  ofText "GIF8" "image/gif",
  ofText "BM" "image/bmp",
  ⟨[0x00, 0x00, 0x01, 0x00], "image/x-icon"⟩,
  ⟨[0x4D, 0x4D, 0x00, 0x2A], "image/tiff"⟩,
  ⟨[0x49, 0x49, 0x2A, 0x00], "image/tiff"⟩,
  ⟨[0x1A, 0x45, 0xDF, 0xA3], "video/webm"⟩,
  ofText "FLV" "video/x-flv",
  ⟨[0x00, 0x00, 0x01, 0xBA], "video/mpeg"⟩,
  ⟨[0x00, 0x00, 0x01, 0xB3], "video/mpeg"⟩,
  ⟨[0x30, 0x26, 0xB2, 0x75, 0x8E, 0x66, 0xCF, 0x11], "video/x-ms-wmv"⟩,
  ofText "ID3" "audio/mpeg",
  ofText "OggS" "audio/ogg",
  ofText "fLaC" "audio/flac",
  ofText "#!AMR" "audio/amr",
  ofText "MAC " "audio/x-ape",
  ofText "%PDF" "application/pdf",
  ⟨[0x50, 0x4B, 0x03, 0x04], "application/zip"⟩,
  ⟨[0x50, 0x4B, 0x05, 0x06], "application/zip"⟩,
  ⟨[0x50, 0x4B, 0x07, 0x08], "application/zip"⟩,
  ⟨[0xD0, 0xCF, 0x11, 0xE0, 0xA1, 0xB1, 0x1A, 0xE1], "application/vnd.ms-office"⟩,
  ofText "\x7b\\rtf" "application/rtf",
  ofText "<?xml" "text/xml",
  ⟨[0xEF, 0xBB, 0xBF] ++ Bytes.ascii "<?xml", "text/xml"⟩,
  ofText "<!DOCTYPE html" "text/html",
  ofText "<html" "text/html",
  ofText "BZh" "application/x-bzip2",
  ⟨[0x1F, 0x8B, 0x08], "application/gzip"⟩,
  ofText "Rar!" "application/x-rar-compressed",
  ⟨[0x37, 0x7A, 0xBC, 0xAF, 0x27, 0x1C], "application/x-7z-compressed"⟩]

end Signature

/-! ## Containers -/

/-- The type of a container: a name in the first four bytes and a tag in the third four, or the mark
`ftyp` in the second four and a brand in the third. -/
def containerType? (content : Bytes) : Option String :=
  let name := content.take 4
  let mark := (content.drop 4).take 4
  let tag := (content.drop 8).take 4
  if content.length < 12 then none
  else if name = Bytes.ascii "RIFF" then
    if tag = Bytes.ascii "WEBP" then some "image/webp"
    else if tag = Bytes.ascii "WAVE" then some "audio/wav"
    else if tag = Bytes.ascii "AVI " then some "video/x-msvideo"
    else none
  else if name = Bytes.ascii "FORM" ∧ tag = Bytes.ascii "AIFF" then some "audio/aiff"
  else if mark = Bytes.ascii "ftyp" then
    if tag.take 2 = Bytes.ascii "3g" then some "video/3gpp"
    else if tag = Bytes.ascii "M4A " then some "audio/mp4"
    else some "video/mp4"
  else none

/-! ## The type of a content -/

/-- The type of a content nothing is known about. -/
def unknownMediaType : String := "application/octet-stream"

/-- Eleven set bits open a frame of MPEG audio. -/
def isAudioFrame : Bytes → Bool
  | a :: b :: _ => a == 0xFF && b &&& 0xE0 == 0xE0
  | _ => false

/-- The MIME type of a content by a table of openings: containers first, then the openings in order,
then frames of audio. Fewer than four bytes say nothing. -/
def mediaTypeBy (table : List Signature) (content : Bytes) : String :=
  if content.length < 4 then unknownMediaType
  else
    match containerType? content with
    | some mimeType => mimeType
    | none =>
      match table.find? (·.matches? content) with
      | some s => s.mimeType
      | none => if isAudioFrame content then "audio/mpeg" else unknownMediaType

/-- The MIME type of a content. -/
def mediaType (content : Bytes) : String := mediaTypeBy Signature.table content

end RoomBridge
