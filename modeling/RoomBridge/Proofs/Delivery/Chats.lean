import RoomBridge.Proofs.Delivery.SenderName

/-!
# Chats and senders

A delivery keeps the rooms it knows by sender, the room side gives them by chat id. The two agree
because a chat id is read back as its account: no chat is that of two senders, in one delivery or in
several, even if one of them is called by the chat id of the other.

* `Call.Concerns` : a call that has to do with the room of a chat, and `Delivery.Serves` : a chat that
  is used for the messages of a sender;
* `Delivery.Serves.chat_eq` : this is the chat with the sender;
* `ChatId.account_exact` : what chat ids are read as, and who shares them.
-/

namespace RoomBridge

/-! ## The chat of a call -/

/-- A call that has to do with the room of a chat, among some requests for rooms with their replies:
it asks for this room, or it does something in a room that was replied for this chat alone. -/
inductive Call.Concerns (asked : List (PortalRequest × Except Failure RoomId)) (chat : ChatId) :
    Call → Prop
  | opens (request : PortalRequest) : request.chat.chat = chat →
    Concerns asked chat (.ensurePortal request)
  | staysIn (c : Call) (room : RoomId) : c.room? = some room →
    (∀ request, (request, .ok room) ∈ asked → request.chat.chat = chat) → Concerns asked chat c

namespace Delivery

/-- In some delivery, in whatever world, a message of the sender makes a call that has to do with the
room of the chat. -/
def Serves (chat : ChatId) (sender : String) : Prop :=
  ∃ (σ : Type) (world : World σ) (settings : Settings) (body : Bytes) (s : σ),
    ∃ h ∈ handlings world settings body s, h.message.sender = sender ∧
      ∃ x ∈ (h.effect world settings).exchanges,
        x.call.Concerns (portalsAsked ((dispatch settings body).effect world s).exchanges) chat

/-- Whatever is done for the messages of a sender has to do with the room of its own chat. -/
theorem Serves.chat_eq {chat : ChatId} {sender : String} (h : Serves chat sender) :
    chat = .ofAccount sender := by
  obtain ⟨σ, world, settings, body, s, h, hh, rfl, ⟨call, reply⟩, hx, hconcerns⟩ := h
  cases hconcerns with
  | opens request hchat =>
    have hrequest : request = roomRequest settings h.session h.value h.message :=
      (h.handled world settings).request_eq hx rfl
    rw [← hchat, hrequest]
    rfl
  | staysIn _ room hroom honly =>
    -- The room was replied for the sender's chat, whether to this message or to an earlier one.
    obtain ⟨request, hrequest⟩ := room_of_handling hh hx hroom
    obtain ⟨hasked, hchat⟩ := List.mem_filter.mp (hrequest ▸ List.mem_singleton_self _)
    rw [← honly request hasked]
    exact of_decide_eq_true hchat

end Delivery

/-! ## Chat ids -/

/-- **A chat id tells its account, and any id that ends as chat ids do is one.** What is made of an
account is read as this account, whatever it ends in, and it is also what the chat's messages are
addressed to; so two accounts have two chats, and no chat serves two senders. Any id that ends in an
`@` and the domain is the chat of what it is read as; any other is read as itself and is not. -/
theorem ChatId.account_exact :
    (∀ account, (ofAccount account).account = account ∧
      (ChatKey.ofAccount account).chat = ofAccount account ∧
      (ChatKey.ofAccount account).receiver = account) ∧
    Function.Injective ofAccount ∧
    (∀ chat sender sender', Delivery.Serves chat sender → Delivery.Serves chat sender' →
      sender = sender') ∧
    ∀ chat : ChatId,
      (ofAccount chat.account = chat ↔ "@s.whatsapp.net".toList <:+ chat.text.toList) ∧
      (chat.account = chat.text ↔ ¬ "@s.whatsapp.net".toList <:+ chat.text.toList) := by
  refine ⟨fun account => ⟨account_ofAccount account, rfl, rfl⟩, ofAccount_injective, ?_, ?_⟩
  · intro chat sender sender' h h'
    rw [← account_ofAccount sender, ← account_ofAccount sender', ← h.chat_eq, ← h'.chat_eq]
  · intro chat
    exact ⟨ofAccount_account_iff chat, account_eq_text_iff chat⟩

namespace Delivery

/-- The chats whose rooms the messages of a delivery ask for, by sender. -/
def chatsOpened {σ : Type} (world : World σ) (settings : Settings) (body : Bytes) (s : σ) :
    List (String × ChatId) :=
  (handlings world settings body s).flatMap fun h =>
    (portalsAsked (h.effect world settings).exchanges).map fun p => (h.message.sender, p.1.chat.chat)

theorem serves_of_chatsOpened {σ : Type} {world : World σ} {settings : Settings} {body : Bytes}
    {s : σ} {sender : String} {chat : ChatId}
    (h : (sender, chat) ∈ chatsOpened world settings body s) : Serves chat sender := by
  obtain ⟨h, hh, hopened⟩ := List.mem_flatMap.mp h
  obtain ⟨⟨request, reply⟩, hasked, heq⟩ := List.mem_map.mp hopened
  obtain ⟨hsender, hchat⟩ := Prod.mk.inj heq
  exact ⟨σ, world, settings, body, s, h, hh, hsender, _, mem_portalsAsked.mp hasked,
    .opens request hchat⟩

/-- Texts of two senders, the second of whom is called by the chat id of the first. -/
def namesakeBody : Bytes :=
  trialBody
    "[[\"1\",\"a\",\"\",\"text\",[\"hi\"]],[\"1@s.whatsapp.net\",\"b\",\"\",\"text\",[\"hi\"]]]"

end Delivery

theorem ChatId.account_exact_namesakes :
    Delivery.Serves ⟨"1@s.whatsapp.net"⟩ "1" ∧
    Delivery.Serves ⟨"1@s.whatsapp.net@s.whatsapp.net"⟩ "1@s.whatsapp.net" ∧
    ¬ Delivery.Serves ⟨"1@s.whatsapp.net"⟩ "1@s.whatsapp.net" := by
  have hopened : Delivery.chatsOpened (.answering fun _ => none) Delivery.trialSettings
      Delivery.namesakeBody () =
        [("1", ⟨"1@s.whatsapp.net"⟩), ("1@s.whatsapp.net", ⟨"1@s.whatsapp.net@s.whatsapp.net"⟩)] := by
    decide +kernel
  have hfirst : Delivery.Serves ⟨"1@s.whatsapp.net"⟩ "1" :=
    Delivery.serves_of_chatsOpened (hopened ▸ List.mem_cons_self)
  have hsecond : Delivery.Serves ⟨"1@s.whatsapp.net@s.whatsapp.net"⟩ "1@s.whatsapp.net" :=
    Delivery.serves_of_chatsOpened (hopened ▸ List.mem_cons_of_mem _ List.mem_cons_self)
  refine ⟨hfirst, hsecond, fun hshared => ?_⟩
  have hsame : "1" = "1@s.whatsapp.net" := account_exact.2.2.1 _ _ _ hfirst hshared
  exact absurd hsame (by decide)

end RoomBridge
