import RoomBridge.Media.Kind
import RoomBridge.Text.Blank
import RoomBridge.Text.Split

/-!
# File extensions and categories of MIME types

Both look only at the essence of a MIME type: what stands before the first semicolon, trimmed and in
small letters. An extension comes from the conventional ones, else from the registry, else from the
subtype itself; `bin` is the last resort.
-/

namespace RoomBridge.MimeType

/-- Type and subtype, without parameters, in small letters. -/
def essence (mimeType : String) : List Char :=
  Text.lower (Text.trimmed (Text.upTo ';' mimeType.toList))

/-- Types with an extension by convention. -/
def conventional : List (String × String) := [
  ("image/jpeg", "jpg"),
  ("image/tiff", "tiff"),
  ("image/x-icon", "ico"),
  ("video/mpeg", "mpg"),
  ("video/x-msvideo", "avi"),
  ("video/x-ms-wmv", "wmv"),
  ("video/3gpp", "3gp"),
  ("audio/mpeg", "mp3"),
  ("audio/mp4", "m4a"),
  ("audio/aiff", "aiff"),
  ("audio/x-ms-wma", "wma"),
  ("audio/x-ape", "ape"),
  ("application/vnd.ms-office", "doc"),
  ("text/html", "html"),
  ("text/plain", "txt"),
  ("application/x-bzip2", "bz2"),
  ("application/gzip", "gz"),
  ("application/x-rar-compressed", "rar"),
  ("application/x-7z-compressed", "7z"),
  ("application/octet-stream", "bin")]

/-- What is registered of types: the extensions of each, the one to use first. -/
abbrev Registry := String → Option (List String)

/-- Types with registered extensions, the one to use first. -/
def registry : List (String × List String) := [
  ("*/*", ["dwg"]),
  ("application/atom+xml", ["atom"]),
  ("application/epub+zip", ["epub"]),
  ("application/java-archive", ["ear"]),
  ("application/javascript", ["mjs"]),
  ("application/json", ["json"]),
  ("application/msword", ["doc"]),
  ("application/ogg", ["ogx"]),
  ("application/pdf", ["pdf"]),
  ("application/postscript", ["ai"]),
  ("application/rtf", ["rtf"]),
  ("application/vnd.android.package-archive", ["apk"]),
  ("application/vnd.google-earth.kml+xml", ["kml"]),
  ("application/vnd.ms-excel", ["slk"]),
  ("application/vnd.ms-excel.sheet.macroenabled.12", ["xlsm"]),
  ("application/vnd.ms-powerpoint", ["pot"]),
  ("application/vnd.oasis.opendocument.text", ["odt"]),
  ("application/vnd.openxmlformats-officedocument.spreadsheetml.sheet", ["xlsx"]),
  ("application/vnd.openxmlformats-officedocument.wordprocessingml.document", ["docx"]),
  ("application/wasm", ["wasm"]),
  ("application/x-bittorrent", ["torrent"]),
  ("application/x-font-ttf", ["ttf"]),
  ("application/x-gzip", ["gz"]),
  ("application/x-msdownload", ["bat"]),
  ("application/x-sh", ["sh"]),
  ("application/x-shockwave-flash", ["mfp"]),
  ("application/x-tar", ["tar"]),
  ("application/xhtml+xml", ["xht", "xhtml"]),
  ("application/xml", ["asa"]),
  ("application/zip", ["zip"]),
  ("audio/aac", ["aac"]),
  ("audio/flac", ["flac"]),
  ("audio/midi", ["kar"]),
  ("audio/ogg", ["oga", "ogg"]),
  ("audio/wav", ["wav"]),
  ("audio/webm", ["weba"]),
  ("font/ttf", ["ttf"]),
  ("font/woff2", ["woff2"]),
  ("image/*", ["apng"]),
  ("image/avif", ["avif"]),
  ("image/bmp", ["bmp"]),
  ("image/gif", ["gif"]),
  ("image/heic", ["heic"]),
  ("image/jxl", ["jxl"]),
  ("image/png", ["png"]),
  ("image/svg+xml", ["svg"]),
  ("image/webp", ["webp"]),
  ("message/rfc822", ["eml"]),
  ("text/calendar", ["ics"]),
  ("text/css", ["css"]),
  ("text/csv", ["csv"]),
  ("text/javascript", ["ecma"]),
  ("text/markdown", ["md", "markdown"]),
  ("text/tab-separated-values", ["tsv"]),
  ("text/vcard", ["vcard"]),
  ("text/x-c", ["dic"]),
  ("text/x-vcard", ["vcf"]),
  ("text/xml", ["addin", "xml"]),
  ("video/*", ["3gp"]),
  ("video/3gpp2", ["3g2"]),
  ("video/mp4", ["mp4"]),
  ("video/ogg", ["ogv"]),
  ("video/quicktime", ["mov"]),
  ("video/webm", ["webm"]),
  ("video/x-flv", ["flv"]),
  ("video/x-matroska", ["mk3d"])]

/-- The subtype without the markers of unregistered and vendor types. -/
def plainSubtype? (essence : List Char) : Option (List Char) :=
  (Text.cutAt '/' essence).map fun (_, subtype) =>
    Text.dropStart "vnd.".toList (Text.dropStart "x-".toList subtype)

/-- A registered extension: the subtype's own name, up to a plus sign, if it is one of them. -/
def registered? (known : Registry) (essence : List Char) : Option String :=
  (known (String.ofList essence)).bind fun extensions =>
    let own := (plainSubtype? essence).map (Text.upTo '+')
    (extensions.find? fun e => some e.toList == own).or extensions.head?

/-- The subtype, if it is made of letters and digits. -/
def ownExtension? (essence : List Char) : Option String :=
  match plainSubtype? essence with
  | some (c :: cs) =>
    if (c :: cs).all Char.isAlphanum then some (String.ofList (c :: cs)) else none
  | _ => none

/-- The file extension for a MIME type where some types are registered, without its point. -/
def extensionIn (known : Registry) (mimeType : String) : String :=
  let e := essence mimeType
  match conventional.lookup (String.ofList e) with
  | some ext => ext
  | none => ((registered? known e).or (ownExtension? e)).getD "bin"

/-- The file extension for a MIME type. -/
def extension (mimeType : String) : String := extensionIn (registry.lookup ·) mimeType

/-- The category of a MIME type; what is no image, video or audio is a document. -/
def category (mimeType : String) : MediaCategory :=
  match (Text.cutAt '/' (essence mimeType)).map fun (top, _) => String.ofList top with
  | some "image" => .image
  | some "video" => .video
  | some "audio" => .audio
  | _ => .document

end RoomBridge.MimeType
