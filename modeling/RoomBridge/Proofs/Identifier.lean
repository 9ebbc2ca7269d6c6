import Mathlib.Data.List.Basic
import RoomBridge.Identifier

/-!
# Laws of identifiers

* `ChatId.account_ofAccount` : the chat with an account is read as this account, and so tells it;
* `ChatId.ofAccount_account_iff`, `ChatId.account_eq_text_iff` : any id that ends in an `@` and the
  domain is the chat of what it is read as, any other is read as itself;
* `MessageId.Parts.Plain.parts_join` : the id of parts without a colon is read as them;
* `MessageId.Parts.Plain.eq_of_join_eq` : and no other parts have it.
-/

namespace RoomBridge

/-! ## Endings -/

namespace Text

theorem dropEnd?_eq_some_iff {e cs rest : List Char} :
    dropEnd? e cs = some rest ↔ cs = rest ++ e := by
  rw [dropEnd?, List.isSuffixOf?_eq_some_iff_append_eq, eq_comm]

/-- Two endings taken off one after the other, the last one first, are taken off as one. -/
theorem dropEnd?_bind_dropEnd? (d e cs : List Char) :
    (dropEnd? e cs).bind (dropEnd? d) = dropEnd? (d ++ e) cs := by
  apply Option.ext
  intro rest
  rw [Option.bind_eq_some_iff, dropEnd?_eq_some_iff]
  constructor
  · rintro ⟨front, hfront, hrest⟩
    rw [dropEnd?_eq_some_iff] at hfront hrest
    rw [hfront, hrest, List.append_assoc]
  · intro h
    refine ⟨rest ++ d, dropEnd?_eq_some_iff.mpr ?_, dropEnd?_eq_some_iff.mpr rfl⟩
    rw [h, List.append_assoc]

theorem dropEnd?_eq_none_iff {e cs : List Char} : dropEnd? e cs = none ↔ ¬ e <:+ cs := by
  rw [Option.eq_none_iff_forall_ne_some]
  constructor
  · rintro h ⟨rest, hrest⟩
    exact h rest (dropEnd?_eq_some_iff.mpr hrest.symm)
  · intro h rest hrest
    exact h ⟨rest, (dropEnd?_eq_some_iff.mp hrest).symm⟩

end Text

/-! ## Chats -/

namespace ChatId

theorem toList_ofAccount (account : String) :
    (ofAccount account).text.toList = account.toList ++ "@s.whatsapp.net".toList := by
  rw [ofAccount, String.append_assoc, String.toList_append]
  rfl

/-- The ids that end in an `@` and the domain are those of the chats with an account. -/
theorem suffix_iff (chat : ChatId) :
    "@s.whatsapp.net".toList <:+ chat.text.toList ↔ ∃ account, chat = ofAccount account := by
  constructor
  · rintro ⟨front, h⟩
    refine ⟨String.ofList front, ?_⟩
    obtain ⟨text⟩ := chat
    have htext : text = (ofAccount (String.ofList front)).text := by
      rw [← String.toList_inj, toList_ofAccount, String.toList_ofList, h]
    rw [htext]
  · rintro ⟨account, rfl⟩
    exact ⟨account.toList, (toList_ofAccount account).symm⟩

/-- The account is what stands before the `@` and the domain; without them it is the whole id. -/
theorem account_eq (chat : ChatId) :
    chat.account =
      ((Text.dropEnd? "@s.whatsapp.net".toList chat.text.toList).map String.ofList).getD
        chat.text := by
  have hending : ['@'] ++ domain.toList = "@s.whatsapp.net".toList := rfl
  rw [account, Text.dropEnd?_bind_dropEnd?, hending]
  cases Text.dropEnd? "@s.whatsapp.net".toList chat.text.toList with
  | none => rfl
  | some front => rfl

/-- The chat with an account is read as this account, whatever the account itself ends in. -/
theorem account_ofAccount (account : String) : (ofAccount account).account = account := by
  rw [account_eq, Text.dropEnd?_eq_some_iff.mpr (toList_ofAccount account), Option.map_some,
    Option.getD_some, String.ofList_toList]

/-- The chats with two accounts are two chats. -/
theorem ofAccount_injective : Function.Injective ofAccount :=
  Function.LeftInverse.injective account_ofAccount

/-- An id is that of the chat with what it is read as just if it ends as such ids do. -/
theorem ofAccount_account_iff (chat : ChatId) :
    ofAccount chat.account = chat ↔ "@s.whatsapp.net".toList <:+ chat.text.toList := by
  rw [suffix_iff]
  constructor
  · intro h
    exact ⟨chat.account, h.symm⟩
  · rintro ⟨account, rfl⟩
    rw [account_ofAccount]

/-- An id is read as itself just if it does not end as the ids of chats with an account do. -/
theorem account_eq_text_iff (chat : ChatId) :
    chat.account = chat.text ↔ ¬ "@s.whatsapp.net".toList <:+ chat.text.toList := by
  constructor
  · intro h hsuffix
    -- The id would be that of the chat with itself, so nothing would follow the account in it.
    have hid : ofAccount chat.text = chat := by
      rw [← h]
      exact (ofAccount_account_iff chat).mpr hsuffix
    have htext := toList_ofAccount chat.text
    rw [hid] at htext
    exact absurd (List.self_eq_append_right.mp htext) (by decide)
  · intro h
    rw [account_eq, Text.dropEnd?_eq_none_iff.mpr h, Option.map_none, Option.getD_none]

/-- Only one domain is taken off, and half of what is looked for is left alone. -/
example : (["@s.whatsapp.net", "1@s.whatsapp.net@s.whatsapp.net", "1@@s.whatsapp.net",
      "1s.whatsapp.net", "1@S.whatsapp.net"].map fun text => account ⟨text⟩) =
    ["", "1@s.whatsapp.net", "1@", "1s.whatsapp.net", "1@S.whatsapp.net"] := by
  decide

/-- A chat id has a colon only if its account has. -/
theorem delimiter_mem_ofAccount (account : String) :
    MessageId.delimiter ∈ (ofAccount account).text.toList ↔
      MessageId.delimiter ∈ account.toList := by
  have hdomain : MessageId.delimiter ∉ "@s.whatsapp.net".toList := by decide
  rw [toList_ofAccount, List.mem_append, or_iff_left hdomain]

/-- No chat with an account is called as what is made up: its id ends in the domain. -/
theorem ofAccount_ne_marker (account : String) :
    (ofAccount account).text ≠ MessageId.syntheticMarker := by
  intro h
  have hlength : (account.toList ++ "@s.whatsapp.net".toList).length = 4 := by
    rw [← toList_ofAccount, h]
    rfl
  rw [List.length_append, show "@s.whatsapp.net".toList.length = 15 from rfl] at hlength
  omega

end ChatId

/-! ## Messages -/

/-- Three lists that are not empty but have three elements together have one each. -/
theorem eq_singletons {α : Type} {xs ys zs : List α} {a b c : α} (hxs : xs ≠ []) (hys : ys ≠ [])
    (hzs : zs ≠ []) (h : xs ++ (ys ++ zs) = [a, b, c]) : xs = [a] ∧ ys = [b] ∧ zs = [c] := by
  obtain ⟨x, xs, rfl⟩ := List.exists_cons_of_ne_nil hxs
  obtain ⟨y, ys, rfl⟩ := List.exists_cons_of_ne_nil hys
  obtain ⟨z, zs, rfl⟩ := List.exists_cons_of_ne_nil hzs
  have hlength := congrArg List.length h
  simp only [List.length_append, List.length_cons, List.length_nil] at hlength
  obtain rfl : xs = [] := List.eq_nil_of_length_eq_zero (by omega)
  obtain rfl : ys = [] := List.eq_nil_of_length_eq_zero (by omega)
  obtain rfl : zs = [] := List.eq_nil_of_length_eq_zero (by omega)
  simpa using h

namespace MessageId

/-- The message id of some parts. -/
def Parts.join (p : Parts) : MessageId := ofParts p.chat p.sender p.localId

/-- No part has a colon. -/
structure Parts.Plain (p : Parts) : Prop where
  chat : delimiter ∉ p.chat.text.toList
  sender : delimiter ∉ p.sender.text.toList
  localId : delimiter ∉ p.localId.toList

/-- The fields of a message id are those of its parts. -/
theorem fields_join (p : Parts) :
    Text.fields delimiter p.join.text.toList =
      Text.fields delimiter p.chat.text.toList ++
        (Text.fields delimiter p.sender.text.toList ++ Text.fields delimiter p.localId.toList) := by
  have htext : p.join.text.toList = p.chat.text.toList ++
      delimiter :: (p.sender.text.toList ++ delimiter :: p.localId.toList) := by
    simp [Parts.join, ofParts, delimiter]
  rw [htext, Text.fields_append_cons, Text.fields_append_cons]

theorem Parts.Plain.fields_join {p : Parts} (h : p.Plain) :
    Text.fields delimiter p.join.text.toList =
      [p.chat.text.toList, p.sender.text.toList, p.localId.toList] := by
  rw [MessageId.fields_join, Text.fields_of_not_mem h.chat, Text.fields_of_not_mem h.sender,
    Text.fields_of_not_mem h.localId]
  rfl

/-- The id of parts without a colon is read as them, unless they are made up. -/
theorem Parts.Plain.parts_join {p : Parts} (h : p.Plain) :
    p.join.parts =
      if p.chat.text = syntheticMarker ∨ isSynthetic p.localId.toList then
        .error (.syntheticMessageId p.join.text)
      else .ok p := by
  unfold parts
  rw [h.fields_join]
  simp only [String.ofList_toList, String.toList_inj]

/-- No other parts have the id of parts without a colon, not even parts with colons. -/
theorem Parts.Plain.eq_of_join_eq {p q : Parts} (h : p.Plain) (hjoin : q.join = p.join) :
    q = p := by
  -- Every part of the other id has a field at least, and there are three in all.
  have hfields := MessageId.fields_join q
  rw [hjoin, h.fields_join, eq_comm] at hfields
  obtain ⟨hchat, hsender, hlocal⟩ := eq_singletons (Text.fields_ne_nil _ _)
    (Text.fields_ne_nil _ _) (Text.fields_ne_nil _ _) hfields
  obtain ⟨⟨chat⟩, ⟨sender⟩, localId⟩ := q
  obtain ⟨⟨chat'⟩, ⟨sender'⟩, localId'⟩ := p
  obtain rfl : chat = chat' := String.toList_inj.mp (Text.eq_of_fields_eq_singleton hchat)
  obtain rfl : sender = sender' := String.toList_inj.mp (Text.eq_of_fields_eq_singleton hsender)
  obtain rfl : localId = localId' := String.toList_inj.mp (Text.eq_of_fields_eq_singleton hlocal)
  rfl

end MessageId

end RoomBridge
