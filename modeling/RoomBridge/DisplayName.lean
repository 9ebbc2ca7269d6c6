import RoomBridge.DisplayName.Template

/-!
# Display names

The name of a room shown for a contact comes from a template. If the template asks for the person's
name and none is known, or if nothing readable comes out, the phone number stands in.
-/

namespace RoomBridge

/-- A phone number with its plus sign. -/
def formatPhone (raw : String) : String :=
  let phone := Text.trim raw
  match phone.toList with
  | [] => phone
  | '+' :: _ => phone
  | _ => "+" ++ phone

/-- What is known about a contact. -/
structure ContactCard where
  phone : Option String := none
  fullName : Option String := none
  firstName : Option String := none
  pushName : Option String := none
  businessName : Option String := none
  deriving DecidableEq, Repr

namespace ContactCard

/-- A cloud contact: the profile name is both the full name and the name it shows itself by. -/
def ofProfile (waId : String) (profileName : Option String) : ContactCard where
  phone := some waId
  fullName := profileName
  firstName := profileName.bind Text.firstWord?
  pushName := profileName

/-- The phone number as it is shown, empty if none is known. -/
def shownPhone (card : ContactCard) : String := (card.phone.map formatPhone).getD ""

/-- What a placeholder stands for. -/
inductive Meaning
  | phone
  | name (value : String)
  | unknown
  deriving DecidableEq, Repr

/-- The name of a person, trimmed, as the meaning of a placeholder. -/
def Meaning.ofName (name : Option String) : Meaning := .name ((name.map Text.trim).getD "")

/-- The meaning of a placeholder's name. -/
def meaning (card : ContactCard) (placeholder : List Char) : Meaning :=
  match String.ofList placeholder with
  | "Phone" => .phone
  | "FullName" => .ofName card.fullName
  | "FirstName" => .ofName card.firstName
  | "PushName" => .ofName card.pushName
  | "BusinessName" => .ofName card.businessName
  | _ => .unknown

/-- The text of a piece of a template. -/
def expand (card : ContactCard) : Segment → List Char
  | .literal c => [c]
  | .placeholder p =>
    match card.meaning p with
    | .phone => card.shownPhone.toList
    | .name value => value.toList
    | .unknown => []

/-- The template with every placeholder filled in, once and from left to right. -/
def fill (card : ContactCard) (template : String) : List Char :=
  (Template.segments template.toList).flatMap card.expand

/-- The piece asks for the person's name. -/
def asksName (card : ContactCard) : Segment → Bool
  | .literal _ => false
  | .placeholder p => match card.meaning p with | .name _ => true | _ => false

/-- The piece asks for the person's name and gets one. -/
def getsName (card : ContactCard) : Segment → Bool
  | .literal _ => false
  | .placeholder p => match card.meaning p with | .name value => !value.isEmpty | _ => false

/-- The display name that a template gives a contact. -/
def displayName (card : ContactCard) (template : String) : String :=
  let segments := Template.segments template.toList
  let shown := Text.trimmed (card.fill template)
  if (segments.any card.asksName && !segments.any card.getsName) ||
      !shown.any Text.isAlphanumeric then
    card.shownPhone
  else String.ofList shown

end ContactCard

end RoomBridge
