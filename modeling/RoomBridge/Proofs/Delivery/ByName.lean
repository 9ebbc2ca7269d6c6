import RoomBridge.Proofs.Delivery.Admission
import RoomBridge.Proofs.Json.Schema

/-!
# Bodies read by name

A body is read by the names of its fields, so that the cloud may write it in another order, with
members that nobody knows, without what is empty, and with other blanks: what is delivered is the
same. A field that is given twice is no body at all.

* `Envelope.schema` : what the fields of a body are for;
* `Envelope.follows` : reading an envelope sees no edit;
* `Delivery.readsByName` : what a delivery makes of an edited body.
-/

namespace RoomBridge

open Json (Schema Spaced Tree)
open Json.Schema

/-! ## The fields -/

def TextBody.schema : Schema := .record [("body", .text)]

def MediaObject.schema : Schema := .record
  [("id", .text), ("mime_type", .optional .text), ("sha256", .optional .text),
    ("caption", .optional .text), ("filename", .optional .text), ("animated", .optional .plain),
    ("voice", .optional .plain)]

def CloudMessage.schema : Schema := .record
  [("from", .text), ("id", .text), ("timestamp", .text), ("type", .text),
    ("text", .optional TextBody.schema), ("image", .optional MediaObject.schema),
    ("video", .optional MediaObject.schema), ("audio", .optional MediaObject.schema),
    ("document", .optional MediaObject.schema), ("sticker", .optional MediaObject.schema)]

def Contact.profileSchema : Schema := .record [("name", .text)]

def Contact.schema : Schema := .record [("profile", profileSchema), ("wa_id", .text)]

def PhoneMetadata.schema : Schema :=
  .record [("display_phone_number", .text), ("phone_number_id", .text)]

def ChangeValue.schema : Schema := .record
  [("messaging_product", .text), ("metadata", .optional PhoneMetadata.schema),
    ("contacts", .list Contact.schema), ("messages", .list CloudMessage.schema),
    ("statuses", .list .plain)]

def Change.schema : Schema := .record [("field", .text), ("value", ChangeValue.schema)]

def Entry.schema : Schema := .record [("id", .text), ("changes", .list Change.schema)]

def Envelope.schema : Schema := .record [("object", .text), ("entry", .list Entry.schema)]

/-! ## The readers

Each reader asks for its fields in the order of its schema. -/

theorem TextBody.follows : Follows schema reader :=
  .record (by decide) (.field .text hasDefault_text fun _ => .pure _)

theorem MediaObject.follows : Follows schema reader :=
  .record (by decide) <|
    .field .text hasDefault_text fun _ =>
    .field (.optional .text) hasDefault_optional fun _ =>
    .field (.optional .text) hasDefault_optional fun _ =>
    .field (.optional .text) hasDefault_optional fun _ =>
    .field (.optional .text) hasDefault_optional fun _ =>
    .field (.optional .plain) hasDefault_optional fun _ =>
    .field (.optional .plain) hasDefault_optional fun _ => .pure _

theorem CloudMessage.follows : Follows schema reader :=
  .record (by decide) <|
    .field .text hasDefault_text fun _ =>
    .field .text hasDefault_text fun _ =>
    .field .text hasDefault_text fun _ =>
    .field .text hasDefault_text fun _ =>
    .field (.optional TextBody.follows) hasDefault_optional fun _ =>
    .field (.optional MediaObject.follows) hasDefault_optional fun _ =>
    .field (.optional MediaObject.follows) hasDefault_optional fun _ =>
    .field (.optional MediaObject.follows) hasDefault_optional fun _ =>
    .field (.optional MediaObject.follows) hasDefault_optional fun _ =>
    .field (.optional MediaObject.follows) hasDefault_optional fun _ => .pure _

theorem Contact.profile_follows : Follows profileSchema profileReader :=
  .record (by decide) (.only .text hasDefault_text)

theorem Contact.profile_hasDefault : HasDefault profileSchema profileReader "" := by
  rintro _ budget a ⟨⟩ hread
  cases budget with
  | zero => cases hread
  | succ => cases hread; rfl

theorem Contact.follows : Follows schema reader :=
  .record (by decide) <|
    .field profile_follows profile_hasDefault fun _ => .field .text hasDefault_text fun _ => .pure _

theorem PhoneMetadata.follows : Follows schema reader :=
  .record (by decide) <|
    .field .text hasDefault_text fun _ => .field .text hasDefault_text fun _ => .pure _

theorem ChangeValue.follows : Follows schema reader :=
  .record (by decide) <|
    .field .text hasDefault_text fun _ =>
    .field (.optional PhoneMetadata.follows) hasDefault_optional fun _ =>
    .field (.list Contact.follows) hasDefault_list fun _ =>
    .field (.list CloudMessage.follows) hasDefault_list fun _ =>
    .field (.list .plain) hasDefault_list fun _ => .pure _

theorem ChangeValue.hasDefault : HasDefault schema reader .empty := by
  rintro _ budget a ⟨⟩ hread
  cases budget with
  | zero => cases hread
  | succ => cases hread; rfl

theorem Change.follows : Follows schema reader :=
  .record (by decide) <|
    .field .text hasDefault_text fun _ =>
    .field ChangeValue.follows ChangeValue.hasDefault fun _ => .pure _

theorem Entry.follows : Follows schema reader :=
  .record (by decide) <|
    .field .text hasDefault_text fun _ =>
    .field (.list Change.follows) hasDefault_list fun _ => .pure _

theorem Envelope.follows : Follows schema reader :=
  .record (by decide) <|
    .field .text hasDefault_text fun _ =>
    .field (.list Entry.follows) hasDefault_list fun _ => .pure _

/-! ## Deliveries -/

namespace Delivery

open Relation (ReflTransGen)

variable {settings : Settings} {body body' : Bytes}

theorem ofJson?_of_writes {t : Tree} (h : t.Writes body) :
    Envelope.ofJson? body = Envelope.reader Json.maxDepth t := by
  rw [Envelope.ofJson?, Json.ofText?, Tree.read?_eq_some_iff.mpr h, Option.bind_some]

theorem ofJson?_edited {envelope : Envelope} {t t' : Tree} (h : t.Writes body)
    (hread : Envelope.ofJson? body = some envelope)
    (hedits : ReflTransGen (Edit Envelope.schema) t t') (hspaced : Spaced t'.tokens body') :
    Envelope.ofJson? body' = some envelope := by
  rw [ofJson?_of_writes h] at hread
  rw [ofJson?_of_writes ⟨wellWritten_of_edits hedits h.1, hspaced⟩]
  exact Envelope.follows.edits hedits hread

theorem ofJson?_doubled {t : Tree} (h : t.Writes body) (hdoubled : Doubled Envelope.schema t) :
    Envelope.ofJson? body = none := by
  rw [ofJson?_of_writes h]
  exact Envelope.follows.doubled _ hdoubled

/-- A delivery depends on its body only through the envelope. -/
theorem dispatch_of_envelope_eq (h : Envelope.ofJson? body' = Envelope.ofJson? body) :
    dispatch settings body' = dispatch settings body := by
  unfold dispatch accept
  rw [h]

/-- What is delivered depends on a body through its named fields only. -/
structure ReadsByName (settings : Settings) (body : Bytes) : Prop where
  /-- What is read is a tree that the body writes. -/
  written : ∀ envelope, Envelope.ofJson? body = some envelope → ∃ t : Tree, t.Writes body
  /-- Edits of the tree, and other blanks, change neither the envelope nor the delivery. -/
  edited : ∀ envelope (t t' : Tree) body', Envelope.ofJson? body = some envelope →
    t.Writes body → ReflTransGen (Edit Envelope.schema) t t' → Spaced t'.tokens body' →
    Envelope.ofJson? body' = some envelope ∧ dispatch settings body' = dispatch settings body
  /-- If a field is given twice, nobody is asked for anything. -/
  doubled : ∀ t : Tree, t.Writes body → Doubled Envelope.schema t →
    ∀ {σ : Type} (world : World σ) (s : σ), (dispatch settings body).effect world s =
      ⟨⟨none, [], some (.malformedPayload "not a webhook envelope")⟩, s, []⟩

/-- **Bodies are read by name.** Members may stand in any order, others may stand between them, what
holds a default may be left out and blanks may be put anywhere, at every depth: the delivery is the
same. A field that is given twice is refused. -/
theorem readsByName (settings : Settings) (body : Bytes) : ReadsByName settings body where
  written envelope hread := by
    obtain ⟨t, ht, -⟩ := Option.bind_eq_some_iff.mp hread
    exact ⟨t, Tree.read?_eq_some_iff.mp ht⟩
  edited envelope t t' body' hread hwrites hedits hspaced := by
    have hread' := ofJson?_edited hwrites hread hedits hspaced
    exact ⟨hread', dispatch_of_envelope_eq (hread'.trans hread.symm)⟩
  doubled t hwrites hdoubled σ world s :=
    effect_dispatch_refused (Fault.unreadable (ofJson?_doubled hwrites hdoubled)).accept_eq s

/-! ## A body to try -/

/-- A member with a name that needs no escapes. -/
def member (name : String) (t : Tree) : Bytes × Tree := (Bytes.ascii name, t)

def quoted (text : String) : Tree := .scalar (.string (Bytes.ascii text))

/-- A change with a text. -/
def helloChange : Tree :=
  .object [member "value" (.object [member "messages" (.array [.object [
    member "from" (quoted "1"), member "id" (quoted "a"), member "type" (quoted "text"),
    member "text" (.object [member "body" (quoted "hi")])]])])]

/-- A body with a text, and an empty field. -/
def helloTree : Tree :=
  .object [member "object" (quoted ""),
    member "entry" (.array [.object [member "id" (quoted "W1"),
      member "changes" (.array [helloChange])]])]

/-- The same without its empty field, with an entry in another order and a member that is no
field. -/
def helloEdited : Tree :=
  .object [member "entry" (.array [.object [member "changes" (.array [helloChange]),
      member "id" (quoted "W1")]]),
    member "errors" (.array [.scalar (.number (Bytes.ascii "1e999"))])]

/-- A body with two members for one field. -/
def doubledTree : Tree := .object [member "entry" (.array []), member "entry" (.array [])]

/-- A text that writes a tree, with `gap` before each token. -/
def textOf (gap : Bytes) (t : Tree) : Bytes := t.tokens.flatMap fun token => gap ++ token.written

theorem helloTree_edits : ReflTransGen (Edit Envelope.schema) helloTree helloEdited := by
  have hobject : Json.text? (Bytes.ascii "object") = some "object" := by decide +kernel
  have hentry : Json.text? (Bytes.ascii "entry") = some "entry" := by decide +kernel
  have herrors : Json.text? (Bytes.ascii "errors") = some "errors" := by decide +kernel
  have hstring : Json.StringText (Bytes.ascii "errors") := by
    have htake : Json.takeString? (Bytes.ascii "errors" ++ [0x22]) =
        some (Bytes.ascii "errors", []) := by decide +kernel
    exact (Json.takeString?_sound htake).1
  have hvalue : (Tree.array [.scalar (.number (Bytes.ascii "1e999"))]).Writes
      (Bytes.ascii "[1e999]") := Tree.writes_of_tokens? (by decide +kernel)
  refine .head (.drop [] hobject (.head _) .text) ?_
  refine .head (.member [] hentry (.tail _ (.head _)) (.item [] (.permute (.swap _ _ _)))) ?_
  exact .single (.insert [_] hstring herrors (by decide) hvalue.1)

theorem readsByName_hello :
    (dispatch trialSettings (textOf [0x20] helloEdited) =
        dispatch trialSettings (textOf [] helloTree) ∧
      ((dispatch trialSettings (textOf [] helloTree)).effect
        (.answering fun _ => none) ()).result.queued.length = 1) ∧
      ((dispatch trialSettings (textOf [] doubledTree)).effect
        (.answering fun _ => none) ()).result.failure =
          some (.malformedPayload "not a webhook envelope") := by
  have hwrites : helloTree.Writes (textOf [] helloTree) :=
    Tree.writes_of_tokens? (by decide +kernel)
  have hedited : helloEdited.Writes (textOf [0x20] helloEdited) :=
    Tree.writes_of_tokens? (by decide +kernel)
  have hdoubled : doubledTree.Writes (textOf [] doubledTree) :=
    Tree.writes_of_tokens? (by decide +kernel)
  have hread : ∃ envelope, Envelope.ofJson? (textOf [] helloTree) = some envelope := by
    refine Option.isSome_iff_exists.mp ?_
    decide +kernel
  obtain ⟨envelope, hread⟩ := hread
  have hentry : Json.text? (Bytes.ascii "entry") = some "entry" := by decide +kernel
  refine ⟨⟨?_, by decide +kernel⟩, ?_⟩
  · exact ((readsByName trialSettings _).edited envelope _ _ _ hread hwrites helloTree_edits
      hedited.2).2
  · rw [(readsByName trialSettings _).doubled _ hdoubled (.here [] [] hentry hentry (by decide))]

end Delivery

end RoomBridge
