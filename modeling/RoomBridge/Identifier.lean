import RoomBridge.Failure
import RoomBridge.Text.Blank
import RoomBridge.Text.Numeral
import RoomBridge.Text.Split

/-!
# Identifiers

A chat is named by the account on its other side, `account@s.whatsapp.net`; a message by its chat,
its sender and the id the cloud gave it, joined by colons. Both kinds of name are made and read
here; nothing of them is stored, so making and reading have to agree for good.

* `ChatId.ofAccount`, `ChatId.account` : chat ids;
* `MessageId.ofParts`, `MessageId.parts` : message ids;
* `UserId.ordinal` : the small number some senders are called by.
-/

namespace RoomBridge

/-- A chat of the cloud. -/
structure ChatId where
  text : String
  deriving DecidableEq, Repr

/-- A person or phone on the cloud's side. -/
structure UserId where
  text : String
  deriving DecidableEq, Repr

/-- A message, by chat, sender and the id the cloud gave it. -/
structure MessageId where
  text : String
  deriving DecidableEq, Repr

/-- A room on the bridge's other side. -/
structure RoomId where
  text : String
  deriving DecidableEq, Repr

/-- Content kept by the room side's media store. -/
structure ContentHandle where
  text : String
  deriving DecidableEq, Repr

/-! ## Chats -/

/-- The domain of every chat id. -/
def ChatId.domain : String := "s.whatsapp.net"

/-- The chat with an account. -/
def ChatId.ofAccount (account : String) : ChatId := ⟨account ++ "@" ++ domain⟩

/-- The account a chat is with; a name that no account gives stands for itself. -/
def ChatId.account (chat : ChatId) : String :=
  match (Text.dropEnd? domain.toList chat.text.toList).bind (Text.dropEnd? ['@']) with
  | some account => String.ofList account
  | none => chat.text

/-- A chat together with the id its messages are addressed to. -/
structure ChatKey where
  chat : ChatId
  receiver : String
  deriving DecidableEq, Repr

/-- The chat with an account, addressed by that account. -/
def ChatKey.ofAccount (account : String) : ChatKey := ⟨.ofAccount account, account⟩

/-! ## Messages -/

/-- What a message id is made of. -/
structure MessageId.Parts where
  chat : ChatId
  sender : UserId
  localId : String
  deriving DecidableEq, Repr

namespace MessageId

/-- Stands between the parts of a message id. -/
def delimiter : Char := ':'

/-- The word that marks what was made up. -/
def syntheticMarker : String := "fake"

/-- Joins chat, sender and local id. The parts are told apart again only if none has a colon. -/
def ofParts (chat : ChatId) (sender : UserId) (localId : String) : MessageId :=
  ⟨chat.text ++ ":" ++ sender.text ++ ":" ++ localId⟩

/-- The local id starts with the marker in any mix of capitals and small letters. -/
def isSynthetic (localId : List Char) : Bool :=
  Text.lower (localId.take syntheticMarker.length) == syntheticMarker.toList

/-- Takes a message id apart: three parts, of which chat and local id are not made up. -/
def parts (id : MessageId) : Except Failure Parts :=
  match Text.fields delimiter id.text.toList with
  | [chat, sender, localId] =>
    if chat = syntheticMarker.toList ∨ isSynthetic localId then
      .error (.syntheticMessageId id.text)
    else
      .ok ⟨⟨String.ofList chat⟩, ⟨String.ofList sender⟩, String.ofList localId⟩
  | _ => .error (.invalidMessageId id.text)

end MessageId

/-- The number a sender is called by if it is one of sixteen bits, else zero. -/
def UserId.ordinal (user : UserId) : Nat := (Text.unsigned? 16 (Text.trim user.text)).getD 0

end RoomBridge
