import RoomBridge.Proofs.Delivery.Edited
import RoomBridge.Proofs.Delivery.SenderName

/-!
# Contacts

The contacts that come with a delivery name its senders and do nothing else. Each sender is looked
up by its exact account, so no other contact, however like it or however alone, lends it a name.

* `ChangeValue.SameContacts` : two changes that differ in contacts that nobody is looked up by;
* `dispatch_borrows_no_contact` : they are delivered alike, and who has no contact has no name.
-/

namespace RoomBridge

/-- Two changes with the same messages. The sender of each has the same contact in both, the first
one with its account, or none in both. -/
def ChangeValue.SameContacts (value changed : ChangeValue) : Prop :=
  changed.messages = value.messages ∧
    ∀ m ∈ value.messages, changed.contactOf? m.sender = value.contactOf? m.sender

namespace Delivery

variable {σ : Type} {world : World σ} {settings : Settings} {value changed : ChangeValue}

theorem deliveredAlike_of_sameContacts (h : value.SameContacts changed) :
    List.Forall₂ (DeliveredAlike settings value changed) value.messages changed.messages := by
  rw [h.1]
  exact List.forall₂_same.mpr fun m hm => deliveredAlike_of_contact (h.2 m hm)

/-! ## Senders without a contact -/

/-- Who has no contact has no profile name. -/
theorem profileName?_eq_none {sender : String} (h : value.contactOf? sender = none) :
    profileName? value sender = none := by
  rw [profileName?, h]
  rfl

/-- The chat of a sender whose message gets past the checks has its room asked for, once. -/
theorem asked_of_passing {body : Bytes} {s : σ} {h : Handling σ}
    (hh : h ∈ handlings world settings body s) (hpass : (routeOf h.message).isOk = true) :
    ∃ request reply,
      (portalsAsked ((dispatch settings body).effect world s).exchanges).filter
        (fun p => p.1.chat.chat = ChatId.ofAccount h.message.sender) = [(request, reply)] := by
  have hchat : ChatKey.ofAccount h.message.sender ∈
      (portalsAsked ((dispatch settings body).effect world s).exchanges).map (·.1.chat) := by
    rw [chats_of_dispatch]
    refine List.mem_map_of_mem (List.mem_eraseDups.mpr (List.mem_map_of_mem ?_))
    exact List.mem_filter.mpr ⟨List.mem_map_of_mem hh, hpass⟩
  obtain ⟨⟨request, reply⟩, hasked, hrequest⟩ := List.mem_map.mp hchat
  refine ⟨request, reply, ?_⟩
  rw [← show request.chat.chat = ChatId.ofAccount h.message.sender from
    congrArg ChatKey.chat hrequest]
  exact filter_eq_singleton (nodup_chats_of_dispatch world settings body s) hasked

/-- **No contact is borrowed.** Editing the contacts of a delivery so that each sender keeps its
own, or stays without one, changes nothing: not the result, not a call, not a log line. A sender
without a contact has its room asked for, once, for the chat with its account and without a name;
and its messages are queued there without a name. -/
theorem dispatch_borrows_no_contact (world : World σ) (settings : Settings) (body : Bytes) (s : σ) :
    (∀ edited, Edited ChangeValue.SameContacts body edited →
      (dispatch settings edited).run world s = (dispatch settings body).run world s) ∧
    let run := (dispatch settings body).effect world s
    let asked := portalsAsked run.exchanges
    ∀ accepted sender, accept body = .ok accepted → accepted.value.contactOf? sender = none →
      (∀ h ∈ handlings world settings body s, h.message.sender = sender →
        (routeOf h.message).isOk = true → ∃ request reply,
          asked.filter (fun p => p.1.chat.chat = ChatId.ofAccount sender) = [(request, reply)]) ∧
      (∀ request reply, (request, reply) ∈ asked → request.remoteUser = ⟨sender⟩ →
        request.chat = .ofAccount sender ∧ request.remoteName = none ∧
        request.name = (ContactCard.ofProfile sender none).displayName
          settings.displayNameTemplate) ∧
      ∀ room message reply, ⟨.queueMessage room message, reply⟩ ∈ run.exchanges →
        message.sender = ⟨sender⟩ → message.senderName = none ∧ ∃ request,
          asked.filter (fun p => p.1.chat.chat = ChatId.ofAccount sender) =
            [(request, .ok room)] := by
  constructor
  · intro edited hedited
    rw [hedited.dispatch_eq fun v w => deliveredAlike_of_sameContacts]
  intro run asked accepted sender haccept hnone
  -- What is handled has the contacts of the change that was accepted.
  have hname : ∀ h ∈ handlings world settings body s, profileName? h.value sender = none := by
    intro h hh
    obtain ⟨again, hagain, hvalue⟩ := value_of_handling hh
    rw [haccept] at hagain
    cases hagain
    rw [hvalue]
    exact profileName?_eq_none hnone
  refine ⟨?_, ?_, ?_⟩
  · rintro h hh rfl hpass
    exact asked_of_passing hh hpass
  · intro request reply hasked huser
    obtain ⟨h, hh, rfl⟩ := handling_of_request hasked
    obtain rfl : h.message.sender = sender := UserId.mk.inj huser
    simp only [roomRequest, portalRequest, hname h hh]
    exact ⟨trivial, trivial, trivial⟩
  · intro room message reply hqueued hsender
    obtain ⟨h, hh, hx⟩ := handling_of_room hqueued (Option.some_ne_none room)
    obtain ⟨route, known, t, called, carried, -, -, hconv, -⟩ :=
      (h.handled world settings).of_queue hx
    obtain ⟨hfrom, hcalled⟩ := hconv.sender_eq
    obtain rfl : h.message.sender = sender := UserId.mk.inj (hfrom.symm.trans hsender)
    refine ⟨?_, room_of_handling hh hx rfl⟩
    simp only [hcalled, originOf, Origin.ofCloud, hname h hh, Option.bind_none]

/-- A text from each of the accounts 1 and 2, with the array of contacts as it is written. -/
def contactsBody (contacts : String) : Bytes :=
  Bytes.ascii ("[\"\",[[\"W1\",[[\"\",[\"\",null," ++ contacts ++
    ",[[\"1\",\"a\",\"\",\"text\",[\"hi\"]],[\"2\",\"b\",\"\",\"text\",[\"ho\"]]]]]]]]]")

/-- Among others like it, 1 keeps its contact and 2 stays without one. -/
theorem dispatch_borrows_no_contact_unlisted :
    let body := contactsBody "[[[\"Ada\"],\"1\"]]"
    let edited := contactsBody
      "[[[\"Eve\"],\"12\"],[[\"Ada\"],\"1\"],[[\"Bob\"],\"1\"],[[\"Zoe\"],\"\"]]"
    Edited ChangeValue.SameContacts body edited ∧
      (dispatch trialSettings edited).run (.answering fun _ => none) () =
        (dispatch trialSettings body).run (.answering fun _ => none) () ∧
      ∃ accepted, accept edited = .ok accepted ∧ accepted.value.contactOf? "2" = none ∧
        ∃ request reply, (request, reply) ∈ portalsAsked
            ((dispatch trialSettings edited).effect (.answering fun _ => none) ()).exchanges ∧
          request.chat = .ofAccount "2" ∧ request.remoteName = none := by
  intro body edited
  -- Of both changes only the messages, and the contacts of their senders, are looked at.
  let read (v : ChangeValue) := (v.messages, v.messages.map fun m => v.contactOf? m.sender)
  let found := read ⟨"", none, [⟨"Ada", "1"⟩],
    [⟨"1", "a", "", "text", some ⟨"hi"⟩, none, none, none, none, none⟩,
      ⟨"2", "b", "", "text", some ⟨"ho"⟩, none, none, none, none, none⟩], []⟩
  obtain ⟨value, hbody, hvalue⟩ : ∃ value, Brings body "W1" value ∧ read value = found :=
    brings_of_read read (by decide +kernel)
  obtain ⟨changed, hedited, hchanged⟩ : ∃ changed, Brings edited "W1" changed ∧
    read changed = found := brings_of_read read (by decide +kernel)
  obtain ⟨hmessages, hcontacts⟩ := Prod.mk.inj (hchanged.trans hvalue.symm)
  have hsame : value.SameContacts changed := by
    refine ⟨hmessages, List.map_inj_left.mp ?_⟩
    rw [← hcontacts, hmessages]
  have hnone : changed.contactOf? "2" = none := by
    obtain ⟨hthese, hlisted⟩ := Prod.mk.inj hchanged
    rw [hthese] at hlisted
    exact (List.cons_eq_cons.mp (List.cons_eq_cons.mp hlisted).2).1
  have hany : (portalsAsked ((dispatch trialSettings edited).effect
      (.answering fun _ => none) ()).exchanges).any (·.1.remoteUser = ⟨"2"⟩) = true := by
    decide +kernel
  obtain ⟨⟨request, reply⟩, hasked, huser⟩ := List.any_eq_true.mp hany
  have hunlisted := (dispatch_borrows_no_contact (.answering fun _ => none) trialSettings edited
    ()).2 _ "2" hedited.accept_eq hnone
  obtain ⟨hchat, hremote, -⟩ := hunlisted.2.1 request reply hasked (by simpa using huser)
  exact ⟨edited_of_brings hbody hedited hsame,
    (dispatch_borrows_no_contact (.answering fun _ => none) trialSettings body ()).1 edited
      (edited_of_brings hbody hedited hsame),
    _, hedited.accept_eq, hnone, request, reply, hasked, hchat, hremote⟩

end Delivery

end RoomBridge
