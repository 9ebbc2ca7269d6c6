import RoomBridge.Command
import RoomBridge.Proofs.Delivery.Queued
import RoomBridge.Proofs.Identifier
import RoomBridge.Proofs.Registration.Outcome

/-!
# The message ids that the bridge gives out

A delivery names what it queues, a sending what it has sent. Both join a chat, a sender and an id of
the cloud without looking at them, so an id is as good as what it is made of: where no part has a
colon it is read as its parts, or refused as made up, and it is the id of nothing else.

* `MessageId.Names` : an id that stands for some parts and for no others;
* `queued_prefix_messagesOf`, `Sending.send_ok` : what the two kinds of id are made of;
* `emitted_ids_name` : both kinds of id, for every world;
* `emitted_ids_unreadable` : what comes of a colon, and of an id that is marked as made up.
-/

namespace RoomBridge

/-! ## Ids that name -/

/-- An id that is read as some parts, or refused because their local id is made up, and that no
other parts have. -/
structure MessageId.Names (id : MessageId) (p : MessageId.Parts) : Prop where
  parts_eq : id.parts =
    if isSynthetic p.localId.toList then .error (.syntheticMessageId id.text) else .ok p
  unique : ∀ q : Parts, q.join = id → q = p

/-- The id of a message in the chat with an account names it, if no part has a colon. -/
theorem MessageId.names_join {account sender localId : String}
    (haccount : delimiter ∉ account.toList) (hsender : delimiter ∉ sender.toList)
    (hlocal : delimiter ∉ localId.toList) :
    (Parts.join ⟨.ofAccount account, ⟨sender⟩, localId⟩).Names
      ⟨.ofAccount account, ⟨sender⟩, localId⟩ := by
  have hplain : Parts.Plain ⟨.ofAccount account, ⟨sender⟩, localId⟩ :=
    ⟨fun h => haccount ((ChatId.delimiter_mem_ofAccount account).mp h), hsender, hlocal⟩
  constructor
  · -- The chat is never what is made up, so only the local id can be.
    rw [hplain.parts_join]
    simp only [ChatId.ofAccount_ne_marker, false_or]
  · exact fun q hq => hplain.eq_of_join_eq hq

variable {σ : Type}

/-! ## What is queued -/

namespace Delivery

/-- The messages that a body brings, if it is accepted. -/
def messagesOf (body : Bytes) : List CloudMessage :=
  match accept body with
  | .ok accepted => accepted.value.messages
  | .error _ => []

/-- What the id of a message is made of. -/
def partsOf (m : CloudMessage) : MessageId.Parts := ⟨.ofAccount m.sender, ⟨m.sender⟩, m.id⟩

/-- The ids queued are those of the first messages, in order. -/
theorem queued_prefix_messagesOf (world : World σ) (settings : Settings) (body : Bytes) (s : σ) :
    ((dispatch settings body).effect world s).result.queued <+:
      (messagesOf body).map fun m => (partsOf m).join := by
  unfold messagesOf
  cases haccept : accept body with
  | error failure =>
    rw [effect_dispatch_refused haccept]
    exact List.nil_prefix
  | ok accepted =>
    rcases hfind : (findSession accepted.businessId).effect world s with ⟨failure | session, t, xs⟩
    · rw [effect_dispatch_unregistered haccept hfind]
      exact List.nil_prefix
    · obtain ⟨ids, failure, u, ys, hbatch, hrun⟩ := dispatch_batch settings haccept hfind
      have hids : ids = (accepted.value.messages.take ids.length).map queuedId :=
        hbatch.queued_prefix.1
      rw [hrun]
      dsimp only
      rw [hids]
      exact (List.take_prefix _ _).map _

end Delivery

/-! ## What is sent -/

/-- A message that was sent is called by its chat, the phone and the id that the cloud gave it. -/
theorem Sending.send_ok {world : World σ} {settings : Settings} {session : Session} {room : RoomId}
    {chat : ChatKey} {m : RoomMessage} {s t : σ} {receipt : SendReceipt} {xs : List Exchange}
    (h : (send settings session room chat m).effect world s = ⟨.ok receipt, t, xs⟩) :
    receipt.messageId = MessageId.Parts.join ⟨chat.chat, ⟨session.phoneId⟩, receipt.cloudId⟩ := by
  unfold send at h
  obtain ⟨payload, u, ys, zs, -, hposted, -⟩ := Attempt.effect_bind_ok h
  obtain ⟨cloudId, v, ys, zs, -, hend, -⟩ := Attempt.effect_bind_ok hposted
  rw [Attempt.effect_note_bind, Attempt.effect_pure, Effect.mk.injEq, Except.ok.injEq] at hend
  rw [← hend.1, MessageId.Parts.join]

/-! ## Every id -/

/-- **The ids that the bridge gives out name their messages.** The `i`-th id that a delivery queues
is made of the sender and the id of the `i`-th message; the id of a receipt is made of the chat's
account, the session's phone and the id that the cloud has given. Where none of these has a colon,
the id is read as just these parts, unless the local id is marked as made up, and no other message
has it. -/
theorem emitted_ids_name (world : World σ) (settings : Settings) (s : σ) :
    (∀ (body : Bytes) (i : Nat) (id : MessageId),
      ((Delivery.dispatch settings body).effect world s).result.queued[i]? = some id →
      ∃ m, (Delivery.messagesOf body)[i]? = some m ∧ id = (Delivery.partsOf m).join ∧
        (MessageId.delimiter ∉ m.sender.toList → MessageId.delimiter ∉ m.id.toList →
          id.Names (Delivery.partsOf m))) ∧
    ∀ session room account message receipt,
      ((Sending.send settings session room (.ofAccount account) message).effect world s).result =
        .ok receipt →
      let p : MessageId.Parts := ⟨.ofAccount account, ⟨session.phoneId⟩, receipt.cloudId⟩
      receipt.messageId = p.join ∧
        (MessageId.delimiter ∉ account.toList → MessageId.delimiter ∉ session.phoneId.toList →
          MessageId.delimiter ∉ receipt.cloudId.toList → receipt.messageId.Names p) := by
  constructor
  · intro body i id hid
    obtain ⟨rest, hids⟩ := Delivery.queued_prefix_messagesOf world settings body s
    have hat : ((Delivery.messagesOf body).map fun m => (Delivery.partsOf m).join)[i]? = some id := by
      rw [← hids, List.getElem?_append_left (List.getElem?_eq_some_iff.mp hid).1, hid]
    rw [List.getElem?_map, Option.map_eq_some_iff] at hat
    obtain ⟨m, hm, rfl⟩ := hat
    exact ⟨m, hm, rfl, fun hsender hlocal => MessageId.names_join hsender hsender hlocal⟩
  · intro session room account message receipt hsent p
    rcases hrun : (Sending.send settings session room (.ofAccount account) message).effect world s
      with ⟨result, t, xs⟩
    rw [hrun] at hsent
    obtain rfl : result = .ok receipt := hsent
    have hjoin := Sending.send_ok hrun
    refine ⟨hjoin, fun haccount hphone hcloud => ?_⟩
    rw [hjoin]
    exact MessageId.names_join haccount hphone hcloud

/-- A text written in a room. -/
def roomText : RoomMessage := ⟨"$event", "@somebody:home", "m.text", "hi", none, none⟩

theorem emitted_ids_name_trial :
    (∃ m, (Delivery.messagesOf Delivery.reactionBody)[0]? = some m ∧
      MessageId.Names ⟨"1@s.whatsapp.net:1:a"⟩ (Delivery.partsOf m)) ∧
    MessageId.Names ⟨"1@s.whatsapp.net:P1:S1"⟩ ⟨.ofAccount "1", ⟨"P1"⟩, "S1"⟩ := by
  obtain ⟨hqueued, hsent⟩ :=
    emitted_ids_name (.answering fun _ => none) Delivery.trialSettings ()
  constructor
  · have hid : ((Delivery.dispatch Delivery.trialSettings Delivery.reactionBody).effect
        (.answering fun _ => none) ()).result.queued[0]? = some ⟨"1@s.whatsapp.net:1:a"⟩ := by
      decide +kernel
    have hfirst : (Delivery.messagesOf Delivery.reactionBody)[0]?.map
        (fun m => (m.sender, m.id)) = some ("1", "a") := by
      decide +kernel
    obtain ⟨m, hm, -, hnames⟩ := hqueued _ _ _ hid
    rw [hm, Option.map_some, Option.some.injEq, Prod.mk.injEq] at hfirst
    exact ⟨m, hm, hnames (by rw [hfirst.1]; decide) (by rw [hfirst.2]; decide)⟩
  · exact (hsent ⟨"W1", "P1", "token", "App", "@agent", none⟩ ⟨"!room"⟩ "1" roomText
      ⟨⟨"1@s.whatsapp.net:P1:S1"⟩, "S1", .text, "@somebody:home"⟩ rfl).2
      (by decide) (by decide) (by decide)

/-! ## Ids that do not name -/

/-- The message ids that a report gives out. -/
def Report.messageIds : Report → List MessageId
  | .delivery d => d.queued
  | .receipt (.ok r) => [r.messageId]
  | _ => []

/-- Why a message id cannot be read. -/
def MessageId.failure? (id : MessageId) : Option Failure :=
  match id.parts with
  | .ok _ => none
  | .error failure => some failure

/-- Two messages of different senders, where what one has before a colon the other has after it, and
one that is marked as made up. -/
def colonBody : Bytes :=
  Delivery.trialBody
    "[[\"a\",\"x@s.whatsapp.net:a@s.whatsapp.net:a:x:L\",\"\",\"text\",[\"hi\"]],
      [\"a@s.whatsapp.net:a:x\",\"L\",\"\",\"text\",[\"hi\"]],
      [\"1\",\"FAKE1\",\"\",\"text\",[\"hi\"]]]"

/-- A phone id with a colon. -/
def colonRequest : RegistrationRequest := ⟨"App", "W1", "P:1", "token", none⟩

/-- No part is looked at: not the sender and the id of a message, not the phone id that is
registered. Ids with a colon too many cannot be read, two messages can get the same one, and ids
marked as made up are given out. -/
theorem emitted_ids_unreadable :
    ((Delivery.messagesOf colonBody).map Delivery.partsOf).Nodup ∧
    ((Command.runAll Delivery.trialSettings (Surroundings.answering .obey).world
      [.register "@agent" colonRequest, .dispatch colonBody,
        .send (colonRequest.session "@agent") ⟨"!room"⟩ (.ofAccount "1") roomText]
      ((), .empty)).flatMap fun run => run.result.messageIds.map (·.failure?)) =
      [some (.invalidMessageId "a@s.whatsapp.net:a:x@s.whatsapp.net:a@s.whatsapp.net:a:x:L"),
        some (.invalidMessageId "a@s.whatsapp.net:a:x@s.whatsapp.net:a@s.whatsapp.net:a:x:L"),
        some (.syntheticMessageId "1@s.whatsapp.net:1:FAKE1"),
        some (.invalidMessageId "1@s.whatsapp.net:P:1:S1")] := by
  decide +kernel

end RoomBridge
