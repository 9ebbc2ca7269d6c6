import RoomBridge.Envelope
import RoomBridge.Json.Record

/-!
# Reading webhook envelopes

The names of the fields, in the order in which an array would give them, and what each field holds.
`Envelope.ofJson?` reads the body of a delivery.
-/

namespace RoomBridge

open Json (Reader Record)

def TextBody.reader : Reader TextBody := fun budget t => do
  let r ← Record.read? ["body"] budget t
  return ⟨← r.field "body" Reader.string ""⟩

def MediaObject.reader : Reader MediaObject := fun budget t => do
  let r ← Record.read?
    ["id", "mime_type", "sha256", "caption", "filename", "animated", "voice"] budget t
  return {
    id := ← r.field "id" Reader.string ""
    mimeType := ← r.field "mime_type" (Reader.optional Reader.string) none
    sha256 := ← r.field "sha256" (Reader.optional Reader.string) none
    caption := ← r.field "caption" (Reader.optional Reader.string) none
    fileName := ← r.field "filename" (Reader.optional Reader.string) none
    animated := ← r.field "animated" (Reader.optional Reader.bool) none
    voice := ← r.field "voice" (Reader.optional Reader.bool) none }

def CloudMessage.reader : Reader CloudMessage := fun budget t => do
  let r ← Record.read?
    ["from", "id", "timestamp", "type", "text", "image", "video", "audio", "document", "sticker"]
    budget t
  return {
    sender := ← r.field "from" Reader.string ""
    id := ← r.field "id" Reader.string ""
    timestamp := ← r.field "timestamp" Reader.string ""
    tag := ← r.field "type" Reader.string ""
    text := ← r.field "text" (Reader.optional TextBody.reader) none
    image := ← r.field "image" (Reader.optional MediaObject.reader) none
    video := ← r.field "video" (Reader.optional MediaObject.reader) none
    audio := ← r.field "audio" (Reader.optional MediaObject.reader) none
    document := ← r.field "document" (Reader.optional MediaObject.reader) none
    sticker := ← r.field "sticker" (Reader.optional MediaObject.reader) none }

/-- The profile of a contact, which holds only its name. -/
def Contact.profileReader : Reader String := fun budget t => do
  let r ← Record.read? ["name"] budget t
  r.field "name" Reader.string ""

def Contact.reader : Reader Contact := fun budget t => do
  let r ← Record.read? ["profile", "wa_id"] budget t
  return {
    profileName := ← r.field "profile" Contact.profileReader ""
    waId := ← r.field "wa_id" Reader.string "" }

def PhoneMetadata.reader : Reader PhoneMetadata := fun budget t => do
  let r ← Record.read? ["display_phone_number", "phone_number_id"] budget t
  return {
    displayPhoneNumber := ← r.field "display_phone_number" Reader.string ""
    phoneNumberId := ← r.field "phone_number_id" Reader.string "" }

def ChangeValue.reader : Reader ChangeValue := fun budget t => do
  let r ← Record.read?
    ["messaging_product", "metadata", "contacts", "messages", "statuses"] budget t
  return {
    messagingProduct := ← r.field "messaging_product" Reader.string ""
    metadata := ← r.field "metadata" (Reader.optional PhoneMetadata.reader) none
    contacts := ← r.field "contacts" (Reader.list Contact.reader) []
    messages := ← r.field "messages" (Reader.list CloudMessage.reader) []
    statuses := ← r.field "statuses" (Reader.list Reader.value) [] }

def Change.reader : Reader Change := fun budget t => do
  let r ← Record.read? ["field", "value"] budget t
  return {
    field := ← r.field "field" Reader.string ""
    value := ← r.field "value" ChangeValue.reader ChangeValue.empty }

def Entry.reader : Reader Entry := fun budget t => do
  let r ← Record.read? ["id", "changes"] budget t
  return {
    id := ← r.field "id" Reader.string ""
    changes := ← r.field "changes" (Reader.list Change.reader) [] }

def Envelope.reader : Reader Envelope := fun budget t => do
  let r ← Record.read? ["object", "entry"] budget t
  return {
    object := ← r.field "object" Reader.string ""
    entries := ← r.field "entry" (Reader.list Entry.reader) [] }

/-- The envelope that a body writes. -/
def Envelope.ofJson? (body : Bytes) : Option Envelope := Json.ofText? Envelope.reader body

/-- The message that a text writes. -/
def CloudMessage.ofJson? (body : Bytes) : Option CloudMessage :=
  Json.ofText? CloudMessage.reader body

end RoomBridge
