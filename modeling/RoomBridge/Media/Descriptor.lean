import RoomBridge.Identifier
import RoomBridge.Media.Extension
import RoomBridge.Media.Signature
import RoomBridge.Sha256

/-!
# Media descriptors

What is known about an attachment. All of it is read off the content itself; the type the sender
declared is kept beside it and nothing is concluded from it.
-/

namespace RoomBridge

/-- Where the content of an attachment is. -/
inductive MediaSource
  | inline (content : Bytes)
  | remote (handle : ContentHandle)
  deriving DecidableEq, Repr

/-- An attachment. -/
structure MediaDescriptor where
  source : MediaSource
  mimeType : String
  extension : String
  category : MediaCategory
  size : Nat
  sha256 : String
  declaredMime : Option String
  deriving DecidableEq, Repr

namespace MediaDescriptor

/-- Describes a content that is kept at `source`. -/
def ofContent (source : MediaSource) (content : Bytes) : MediaDescriptor :=
  let mimeType := mediaType content
  { source
    mimeType
    extension := MimeType.extension mimeType
    category := MimeType.category mimeType
    size := content.length
    sha256 := Bytes.hexDigits (Sha256.digest content)
    declaredMime := none }

/-- Describes a content that travels with its descriptor. -/
def inline (content : Bytes) : MediaDescriptor := ofContent (.inline content) content

/-- The handle of a content kept elsewhere. -/
def handle? (d : MediaDescriptor) : Option ContentHandle :=
  match d.source with
  | .remote handle => some handle
  | .inline _ => none

end MediaDescriptor

end RoomBridge
