import RoomBridge.Proofs.Delivery.Attachment

/-!
# The name of a sender

The profile name of a contact goes two ways: into the request for the sender's room, and into every
message queued there. Both start from the same contact, but they do not agree on what no name is. An
empty name is none on both ways; one of white space only is a name to the room and none to the
message.

* `request_of_dispatch` : the room of a sender is asked for under the name of its contact;
* `dispatch_names` : a message has the name that its sender's room was asked for with, if that is not
  blank;
* `dispatch_names_differ` : a name of white space only.
-/

namespace RoomBridge

/-- A name is kept as it is unless it is blank. -/
theorem Text.bind_nonblank?_eq_self_iff (name : Option String) :
    name.bind Text.nonblank? = name ↔ ∀ text, name = some text → Text.blank text = false := by
  cases name with
  | none => simp
  | some text => cases h : Text.blank text <;> simp [Text.nonblank?, h]

namespace Delivery

variable {σ : Type} {world : World σ} {settings : Settings} {session : Session}
  {value : ChangeValue} {portals : Portals}

/-! ## Requests for rooms -/

/-- The request for the room of a message's sender, under the name of the sender's contact. -/
def roomRequest (settings : Settings) (session : Session) (value : ChangeValue)
    (m : CloudMessage) : PortalRequest :=
  portalRequest settings session m.sender (profileName? value m.sender)

/-- A message asks for no room but that of its sender. -/
theorem Handled.request_eq {m : CloudMessage} {s : σ} {xs : List Exchange}
    {r : Except Failure (MessageId × Portals)}
    (hh : Handled world settings session value portals m s xs r) {x : Exchange} (hx : x ∈ xs)
    {request : PortalRequest} (hcall : x.call = .ensurePortal request) :
    request = roomRequest settings session value m := by
  have hasked : ∀ {t room known asked},
      (portalOf settings session value portals m).effect world s = ⟨.ok (room, known), t, asked⟩ →
      x ∈ asked → request = roomRequest settings session value m := by
    intro t room known asked hportal hmem
    have hensures := (portal_ok hportal).ensures x hmem
    rw [hcall, Call.ensurePortal.injEq] at hensures
    exact hensures
  -- Once its room is known, a message asks for none.
  have hrest : ∀ {room rest last}, (∀ y ∈ rest, Carries room y.call) → last.call.StaysIn room →
      x ∉ rest ++ [last] :=
    fun hcarries hlast hmem => (staysIn_append hcarries hlast x hmem).1 request hcall
  cases hh with
  | refused failure hroute => simp at hx
  | roomless route failure t asked hroute hportal =>
    obtain ⟨-, rfl⟩ := portal_error hportal
    rw [List.mem_singleton.mp hx, Call.ensurePortal.injEq] at hcall
    exact hcall.symm
  | lost kind media room known failure t u asked tried reply hroute hmedia hportal hlost =>
    rw [List.append_assoc, List.mem_append] at hx
    refine hx.elim (hasked hportal) fun hx => absurd hx (hrest (fetchToRoom_error hlost).2 ?_)
    simp [Call.StaysIn, Call.room?]
  | offered route room known t message asked carried reply hroute hportal hconv =>
    rw [List.append_assoc, List.mem_append] at hx
    refine hx.elim (hasked hportal) fun hx => absurd hx (hrest hconv.carries ?_)
    simp [Call.StaysIn, Call.room?]

/-- The messages of a batch are handled for one session, with the contacts of one change. -/
theorem Batch.shared {s : σ} {ms : List CloudMessage} {hs : List (Handling σ)}
    {e : Effect σ (List MessageId × Option Failure)}
    (h : Batch world settings session value portals s ms hs e) :
    ∀ g ∈ hs, g.session = session ∧ g.value = value := by
  induction h with
  | done portals s => simp
  | stopped ms hrun => simp
  | next hrun hrest ih => exact List.forall_mem_cons.mpr ⟨⟨rfl, rfl⟩, ih⟩

/-- What is handled in a delivery are messages of the change that was accepted. -/
theorem value_of_handling {body : Bytes} {s : σ} {h : Handling σ}
    (hh : h ∈ handlings world settings body s) :
    ∃ accepted, accept body = .ok accepted ∧ h.value = accepted.value := by
  cases haccept : accept body with
  | error failure => simp [handlings, haccept] at hh
  | ok accepted =>
    rcases hfind : (findSession accepted.businessId).effect world s with ⟨failure | session, t, xs⟩
    · simp [handlings, haccept, hfind] at hh
    · obtain ⟨ids, failure, u, ys, hbatch, -⟩ := dispatch_batch settings haccept hfind
      exact ⟨accepted, rfl, (hbatch.shared h hh).2⟩

/-- Every room that a delivery asks for is asked for while a message is handled, for its sender. -/
theorem handling_of_request {body : Bytes} {s : σ} {request : PortalRequest}
    {reply : Except Failure RoomId}
    (hasked : (request, reply) ∈ portalsAsked ((dispatch settings body).effect world s).exchanges) :
    ∃ h ∈ handlings world settings body s,
      request = roomRequest settings h.session h.value h.message := by
  obtain ⟨h, hh, hx⟩ := handling_of_call (mem_portalsAsked.mp hasked) Service.noConfusion
  exact ⟨h, hh, (h.handled world settings).request_eq hx rfl⟩

/-- All that is handled in a delivery is handled for one session, with the contacts of one change. -/
theorem handlings_shared {body : Bytes} {s : σ} {g h : Handling σ}
    (hg : g ∈ handlings world settings body s) (hh : h ∈ handlings world settings body s) :
    h.session = g.session ∧ h.value = g.value := by
  rcases dispatch_cases world settings body s with
    ⟨hnone, -⟩ | ⟨accepted, session, t, xs, ids, failure, u, ys, -, hbatch, -⟩
  · simp [hnone] at hg
  · obtain ⟨gsession, gvalue⟩ := hbatch.shared g hg
    obtain ⟨hsession, hvalue⟩ := hbatch.shared h hh
    exact ⟨hsession.trans gsession.symm, hvalue.trans gvalue.symm⟩

/-- In a delivery, the room of a sender is asked for under the name of the contact that also names
the sender's messages. -/
theorem request_of_dispatch {body : Bytes} {s : σ} {g : Handling σ}
    (hg : g ∈ handlings world settings body s) {request : PortalRequest}
    {reply : Except Failure RoomId}
    (hasked : (request, reply) ∈ portalsAsked ((dispatch settings body).effect world s).exchanges)
    (hchat : request.chat.chat = .ofAccount g.message.sender) :
    request = roomRequest settings g.session g.value g.message := by
  obtain ⟨h, hh, hrequest⟩ := handling_of_request hasked
  obtain ⟨hsession, hvalue⟩ := handlings_shared hg hh
  have hsender : h.message.sender = g.message.sender := by
    refine ChatId.ofAccount_injective ?_
    rw [← hchat, hrequest]
    rfl
  rw [hrequest, roomRequest, roomRequest, hsession, hvalue, hsender]

/-! ## Names -/

/-- What a message says of its sender is what its origin says. -/
theorem Converted.sender_eq {m : CloudMessage} {origin : Origin} {room : RoomId} {s : σ}
    {route : Route} {xs : List Exchange} {message : IncomingMessage}
    (h : Converted world settings session m origin room s route xs message) :
    message.sender = origin.sender ∧ message.senderName = origin.senderName := by
  cases h <;> exact ⟨rfl, rfl⟩

/-- **Room and message name a sender alike, unless the name is blank.** Every message queued goes to
the room that was asked for once for its sender's chat. The request has the name of the sender's
contact, if that is not empty; the message has the name of the request, if that is not blank. So the
two are the same just if the request has no name of white space only. -/
theorem dispatch_names (world : World σ) (settings : Settings) (body : Bytes) (s : σ) :
    let run := (dispatch settings body).effect world s
    ∀ room message reply, ⟨.queueMessage room message, reply⟩ ∈ run.exchanges →
      ∃ accepted request, accept body = .ok accepted ∧
        (portalsAsked run.exchanges).filter
          (fun p => p.1.chat.chat = ChatId.ofAccount message.sender.text) =
            [(request, .ok room)] ∧
        request.remoteName = profileName? accepted.value message.sender.text ∧
        request.remoteName ≠ some "" ∧
        message.senderName = request.remoteName.bind Text.nonblank? ∧
        (message.senderName = request.remoteName ↔
          ∀ name, request.remoteName = some name → Text.blank name = false) := by
  intro run room message reply hqueued
  obtain ⟨h, hh, hx⟩ := handling_of_room hqueued (Option.some_ne_none room)
  obtain ⟨route, known, t, asked, carried, -, -, hconv, -⟩ := (h.handled world settings).of_queue hx
  obtain ⟨hsender, hname⟩ := hconv.sender_eq
  obtain ⟨accepted, haccept, hvalue⟩ := value_of_handling hh
  obtain ⟨request, hrequest⟩ := room_of_handling hh hx rfl
  obtain ⟨hasked, hchat⟩ := List.mem_filter.mp (hrequest ▸ List.mem_singleton_self _)
  have heq : request = roomRequest settings h.session h.value h.message :=
    request_of_dispatch hh hasked (by simpa using hchat)
  have hremote : request.remoteName = profileName? accepted.value message.sender.text := by
    rw [heq, ← hvalue, hsender]
    rfl
  have hfrom : message.senderName = request.remoteName.bind Text.nonblank? := by
    rw [hname, heq]
    rfl
  refine ⟨accepted, request, haccept, ?_, hremote, ?_, hfrom, ?_⟩
  · rw [hsender]
    exact hrequest
  · rw [hremote]
    intro hempty
    exact absurd (Option.filter_eq_some_iff.mp hempty).2 (by simp)
  · rw [hfrom]
    exact Text.bind_nonblank?_eq_self_iff _

/-- A text from somebody whose contact is listed under a name. -/
def namedBody (name : String) : Bytes :=
  Bytes.ascii ("[\"\",[[\"W1\",[[\"\",[\"\",null,[[[\"" ++ name ++
    "\"],\"1\"]],[[\"1\",\"a\",\"\",\"text\",[\"hi\"]]]]]]]]]")

/-- The messages offered to queues, by sender and name, and the rooms asked for, by chat and name. -/
def namesGiven (xs : List Exchange) :
    List (String × Option String) × List (ChatId × Option String) :=
  ((xs.filterMap offered?).map fun m => (m.sender.text, m.senderName),
    (portalsAsked xs).map fun p => (p.1.chat.chat, p.1.remoteName))

theorem names_of_namesGiven {xs : List Exchange} {sender : String} {name : Option String}
    {chat : ChatId} {asked : Option String}
    (h : namesGiven xs = ([(sender, name)], [(chat, asked)])) :
    (∃ room message reply, ⟨.queueMessage room message, reply⟩ ∈ xs ∧
      message.sender.text = sender ∧ message.senderName = name) ∧
    ∃ request reply, (request, reply) ∈ portalsAsked xs ∧
      request.chat.chat = chat ∧ request.remoteName = asked := by
  rw [namesGiven, Prod.mk.injEq, List.map_eq_singleton_iff, List.map_eq_singleton_iff] at h
  obtain ⟨⟨message, hoffered, hmessage⟩, ⟨request, reply⟩, hasked, hrequest⟩ := h
  rw [Prod.mk.injEq] at hmessage hrequest
  obtain ⟨⟨c, answer⟩, hx, hc⟩ :=
    List.mem_filterMap.mp (hoffered ▸ List.mem_singleton_self message)
  constructor
  · cases c with
    | queueMessage room offered =>
      cases hc
      exact ⟨room, message, answer, hx, hmessage⟩
    | _ => cases hc
  · exact ⟨request, reply, hasked ▸ List.mem_singleton_self _, hrequest⟩

theorem dispatch_names_listed :
    let run := (dispatch trialSettings (namedBody "Ada")).effect (.answering fun _ => none) ()
    ∃ room message reply, ⟨.queueMessage room message, reply⟩ ∈ run.exchanges ∧
      message.senderName = some "Ada" ∧
      ∃ request : PortalRequest, (portalsAsked run.exchanges).filter
        (fun p => p.1.chat.chat = ChatId.ofAccount message.sender.text) = [(request, .ok room)] ∧
        request.remoteName = message.senderName := by
  intro run
  have hnames : namesGiven run.exchanges =
      ([("1", some "Ada")], [(ChatId.ofAccount "1", some "Ada")]) := by
    decide +kernel
  obtain ⟨⟨room, message, reply, hqueued, -, hname⟩, -⟩ := names_of_namesGiven hnames
  obtain ⟨accepted, request, -, hasked, -, -, hfrom, hsame⟩ :=
    dispatch_names (.answering fun _ => none) trialSettings (namedBody "Ada") () room message reply
      hqueued
  refine ⟨room, message, reply, hqueued, hname, request, hasked, ?_⟩
  refine (hsame.mpr fun name hremote => ?_).symm
  -- Only the name that the message has is not blank.
  cases hblank : Text.blank name with
  | false => rfl
  | true =>
    rw [hremote, Option.bind_some, Text.nonblank?, if_pos hblank, hname] at hfrom
    cases hfrom

/-- A name of white space only is a name to the room and none to the message. -/
theorem dispatch_names_differ :
    let run := (dispatch trialSettings (namedBody " ")).effect (.answering fun _ => none) ()
    ¬ ∀ room message reply request answer,
      ⟨.queueMessage room message, reply⟩ ∈ run.exchanges →
      (request, answer) ∈ portalsAsked run.exchanges →
      request.chat.chat = ChatId.ofAccount message.sender.text →
      message.senderName = request.remoteName := by
  intro run hall
  have hnames : namesGiven run.exchanges =
      ([("1", none)], [(ChatId.ofAccount "1", some " ")]) := by
    decide +kernel
  obtain ⟨⟨room, message, reply, hqueued, hsender, hname⟩, request, answer, hasked, hchat,
    hremote⟩ := names_of_namesGiven hnames
  have hsame := hall room message reply request answer hqueued hasked (by rw [hchat, hsender])
  rw [hname, hremote] at hsame
  cases hsame

end Delivery

end RoomBridge
