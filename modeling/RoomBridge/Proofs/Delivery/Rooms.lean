import Mathlib.Data.List.Nodup
import RoomBridge.Proofs.Delivery.Batch
import RoomBridge.Proofs.Identifier

/-!
# The rooms of a delivery

The room of a sender is asked for once a delivery, when the first of its messages gets past the
checks, and everything that is done in a room for a message is done in the room of its sender.

* `Handled.roomed` : what a message asks for and which room it touches;
* `Batch.chats_eq`, `Batch.found` : the same for many, however senders follow each other;
* `dispatch_rooms` : for a whole delivery.
-/

namespace RoomBridge

/-- The room that a call does something in. -/
def Call.room? : Call → Option RoomId
  | uploadContent room _ | sendNotice room _ | queueMessage room _ => some room
  | _ => none

/-- What was asked for and replied, if a room was asked for. -/
def Exchange.portal? : Exchange → Option (PortalRequest × Except Failure RoomId)
  | ⟨.ensurePortal request, reply⟩ => some (request, reply)
  | _ => none

/-- The rooms asked for, in order, with the replies. -/
def portalsAsked (xs : List Exchange) : List (PortalRequest × Except Failure RoomId) :=
  xs.filterMap Exchange.portal?

@[simp] theorem portalsAsked_append (xs ys : List Exchange) :
    portalsAsked (xs ++ ys) = portalsAsked xs ++ portalsAsked ys :=
  List.filterMap_append

theorem mem_portalsAsked {xs : List Exchange} {request : PortalRequest}
    {reply : Except Failure RoomId} :
    (request, reply) ∈ portalsAsked xs ↔ ⟨.ensurePortal request, reply⟩ ∈ xs := by
  refine List.mem_filterMap.trans ⟨?_, fun h => ⟨_, h, rfl⟩⟩
  rintro ⟨⟨c, answer⟩, hx, hportal⟩
  cases c with
  | ensurePortal asked =>
    cases hportal
    exact hx
  | _ => cases hportal

/-- A call that a message makes once its room is known: none for a room, and in no other room. -/
def Call.StaysIn (room : RoomId) (c : Call) : Prop :=
  (∀ request, c ≠ .ensurePortal request) ∧ ∀ other, c.room? = some other → other = room

theorem portalsAsked_eq_nil {xs : List Exchange}
    (h : ∀ x ∈ xs, ∀ request, x.call ≠ .ensurePortal request) : portalsAsked xs = [] := by
  refine List.filterMap_eq_nil_iff.mpr fun x hx => ?_
  have hother := h x hx
  obtain ⟨c, reply⟩ := x
  cases c with
  | ensurePortal request => exact absurd rfl (hother request)
  | _ => rfl

/-- A call to another service than the rooms and their queues has nothing to do with a room. -/
theorem Call.roomless {c : Call} (hrooms : c.service ≠ .rooms) (hqueue : c.service ≠ .queue) :
    (∀ request, c ≠ .ensurePortal request) ∧ c.room? = none := by
  cases c <;> simp_all [Call.service, Call.room?]

/-! ## First occurrences -/

theorem nodup_eraseDups {α : Type} [DecidableEq α] : (l : List α) → l.eraseDups.Nodup
  | [] => by simp
  | a :: l => by
    rw [List.eraseDups_cons, List.nodup_cons, List.mem_eraseDups]
    exact ⟨by simp, nodup_eraseDups (l.filter fun b => !b == a)⟩
termination_by l => l.length
decreasing_by exact Nat.lt_succ_of_le (List.length_filter_le _ l)

/-- What has a value that nothing else in a list has is found by that value. -/
theorem filter_eq_singleton {α β : Type} [DecidableEq β] {f : α → β} {l : List α} {a : α}
    (hl : (l.map f).Nodup) (ha : a ∈ l) : l.filter (fun b => f b = f a) = [a] := by
  induction l with
  | nil => simp at ha
  | cons b l ih =>
    rw [List.map_cons, List.nodup_cons] at hl
    obtain ⟨hb, hl⟩ := hl
    rcases List.mem_cons.mp ha with rfl | ha
    · rw [List.filter_cons_of_pos (by simp), List.filter_eq_nil_iff.mpr]
      intro c hc
      have hne : f c ≠ f a := fun h => hb (h ▸ List.mem_map_of_mem hc)
      simpa using hne
    · have hne : f b ≠ f a := fun h => hb (h ▸ List.mem_map_of_mem ha)
      rw [List.filter_cons_of_neg (by simpa using hne), ih hl ha]

namespace Delivery

variable {σ : Type} {world : World σ} {settings : Settings} {session : Session}
  {value : ChangeValue} {portals : Portals}

theorem Carries.staysIn {room : RoomId} {c : Call} (h : Carries room c) : c.StaysIn room := by
  rcases h with h | ⟨upload, rfl⟩
  · have hroomless := Call.roomless (c := c) (by simp [h]) (by simp [h])
    exact ⟨hroomless.1, by simp [hroomless.2]⟩
  · simp [Call.StaysIn, Call.room?]

/-- Carrying an attachment over and then doing something in a room is staying in that room. -/
theorem staysIn_append {room : RoomId} {carried : List Exchange} {x : Exchange}
    (hcarried : ∀ y ∈ carried, Carries room y.call) (hx : x.call.StaysIn room) :
    ∀ y ∈ carried ++ [x], y.call.StaysIn room := by
  intro y hy
  rcases List.mem_append.mp hy with hy | hy
  · exact (hcarried y hy).staysIn
  · rw [List.mem_singleton.mp hy]
    exact hx

/-! ## One message -/

/-- How a message finds a room and what becomes of the rooms known: it is refused before, there is
no room for its sender, or there is one and it stays in that. -/
inductive Roomed (portals : Portals) (m : CloudMessage) :
    List Exchange → Except Failure (MessageId × Portals) → Prop
  | refused (failure : Failure) : (routeOf m).isOk = false → Roomed portals m [] (.error failure)
  | roomless (request : PortalRequest) (failure : Failure) : (routeOf m).isOk = true →
    request.chat = .ofAccount m.sender → portals.lookup m.sender = none →
    Roomed portals m [⟨.ensurePortal request, .error failure⟩] (.error failure)
  | roomed (request : PortalRequest) (room : RoomId) (known : Portals) (asked rest : List Exchange)
      (r : Except Failure (MessageId × Portals)) : (routeOf m).isOk = true →
    request.chat = .ofAccount m.sender → Portal request portals m.sender room asked known →
    (∀ x ∈ rest, x.call.StaysIn room) → (∀ id after, r = .ok (id, after) → after = known) →
    Roomed portals m (asked ++ rest) r

theorem Handled.roomed {m : CloudMessage} {s : σ} {xs : List Exchange}
    {r : Except Failure (MessageId × Portals)}
    (h : Handled world settings session value portals m s xs r) : Roomed portals m xs r := by
  have passes : ∀ {route : Route}, routeOf m = .ok route → (routeOf m).isOk = true :=
    fun hroute => by rw [hroute]; rfl
  cases h with
  | refused failure hroute => exact .refused failure (by rw [hroute]; rfl)
  | roomless route failure t asked hroute hportal =>
    obtain ⟨hnone, rfl⟩ := portal_error hportal
    exact .roomless _ failure (passes hroute) rfl hnone
  | lost kind media room known failure t u asked tried reply hroute hmedia hportal hlost =>
    rw [List.append_assoc]
    exact .roomed _ room known asked _ _ (passes hroute) rfl (portal_ok hportal)
      (staysIn_append (fetchToRoom_error hlost).2 (by simp [Call.StaysIn, Call.room?])) (by simp)
  | offered route room known t message asked carried reply hroute hportal hconv =>
    rw [List.append_assoc]
    refine .roomed _ room known asked _ _ (passes hroute) rfl (portal_ok hportal)
      (staysIn_append hconv.carries (by simp [Call.StaysIn, Call.room?])) ?_
    intro id after hr
    cases reply with
    | error failure => cases hr
    | ok _ =>
      cases hr
      rfl

/-- The room of an account is known, or it was opened by one of the calls `xs`. -/
def Found (portals : Portals) (xs : List Exchange) (account : String) (room : RoomId) : Prop :=
  portals.lookup account = some room ∨
    ∃ request, request.chat = ChatKey.ofAccount account ∧ (request, .ok room) ∈ portalsAsked xs

theorem Found.append_right {xs : List Exchange} {account : String} {room : RoomId}
    (h : Found portals xs account room) (ys : List Exchange) :
    Found portals (xs ++ ys) account room := by
  rcases h with h | ⟨request, hchat, h⟩
  · exact Or.inl h
  · refine Or.inr ⟨request, hchat, ?_⟩
    rw [portalsAsked_append]
    exact List.mem_append_left _ h

namespace Roomed

variable {m : CloudMessage} {xs : List Exchange} {r : Except Failure (MessageId × Portals)}

/-- A message touches no room but that of its sender. -/
theorem found (h : Roomed portals m xs r) {x : Exchange} (hx : x ∈ xs) {room : RoomId}
    (hroom : x.call.room? = some room) : Found portals xs m.sender room := by
  cases h with
  | refused failure hpass => simp at hx
  | roomless request failure hpass hchat hnone =>
    rw [List.mem_singleton.mp hx] at hroom
    simp [Call.room?] at hroom
  | roomed request found known asked rest r hpass hchat hportal hrest hknown =>
    have hstays : room = found := by
      rcases List.mem_append.mp hx with hx | hx
      · rw [hportal.ensures x hx] at hroom
        simp [Call.room?] at hroom
      · exact (hrest x hx).2 room hroom
    rw [hstays]
    cases hportal with
    | known hlookup => exact Or.inl hlookup
    | opened hnone => exact Or.inr ⟨request, hchat, List.mem_cons_self⟩

variable {id : MessageId} {after : Portals}

/-- The rooms known after a message were known before it, or it has opened them. -/
theorem found_after (h : Roomed portals m xs (.ok (id, after))) {account : String} {room : RoomId}
    (hroom : after.lookup account = some room) : Found portals xs account room := by
  cases h with
  | roomed request found known asked rest r hpass hchat hportal hrest hknown =>
    rw [hknown id after rfl] at hroom
    cases hportal with
    | known hlookup => exact Or.inl hroom
    | opened hnone =>
      rw [List.lookup_cons] at hroom
      split at hroom
      · rename_i hsame
        rw [beq_iff_eq] at hsame
        rw [Option.some.injEq] at hroom
        rw [hsame, ← hroom]
        exact Or.inr ⟨request, hchat, List.mem_cons_self⟩
      · exact Or.inl hroom

/-- After a message the room of its sender is known, and no other room that was not. -/
theorem unknown_after (h : Roomed portals m xs (.ok (id, after))) (account : String) :
    (after.lookup account).isNone = ((portals.lookup account).isNone && !account == m.sender) := by
  cases h with
  | roomed request found known asked rest r hpass hchat hportal hrest hknown =>
    rw [hknown id after rfl]
    cases hportal with
    | known hlookup =>
      by_cases hsame : account = m.sender
      · simp [hsame, hlookup]
      · simp [hsame]
    | opened hnone =>
      by_cases hsame : account = m.sender
      · simp [hsame]
      · have hne : (account == m.sender) = false := by simpa using hsame
        simp [List.lookup_cons, hne]

end Roomed

/-! ## A batch -/

/-- The messages that get past the checks. -/
def passing (ms : List CloudMessage) : List CloudMessage := ms.filter fun m => (routeOf m).isOk

/-- The senders whose rooms are still to be asked for, each once, as they first appear. -/
def strangers (portals : Portals) (ms : List CloudMessage) : List String :=
  (((passing ms).map (·.sender)).filter fun account => (portals.lookup account).isNone).eraseDups

/-- The first message that gets past the checks asks for the room of its sender if that is not
known; what is left to ask for is what is not known after it. -/
theorem strangers_cons {known : Portals} {m : CloudMessage} (ms : List CloudMessage)
    (hpass : (routeOf m).isOk = true)
    (hknown : ∀ account, (known.lookup account).isNone =
      ((portals.lookup account).isNone && !account == m.sender)) :
    strangers portals (m :: ms) = strangers portals [m] ++ strangers known ms := by
  have hrest : strangers known ms = ((((passing ms).map (·.sender)).filter
      fun account => (portals.lookup account).isNone).filter
        fun account => !account == m.sender).eraseDups := by
    unfold strangers
    rw [List.filter_filter]
    congr 2
    funext account
    rw [hknown, Bool.and_comm]
  have hcons : ∀ ns, (passing (m :: ns)).map (·.sender) = m.sender :: (passing ns).map (·.sender) :=
    fun ns => by simp [passing, hpass]
  rw [hrest, strangers, strangers, hcons, hcons, List.filter_cons, List.filter_cons]
  -- A known sender is passed over anyway, so leaving it out later changes nothing.
  by_cases hnone : (portals.lookup m.sender).isNone = true
  · rw [if_pos hnone, if_pos hnone, List.eraseDups_cons, List.eraseDups_cons]
    rfl
  · rw [if_neg hnone, if_neg hnone]
    refine congrArg List.eraseDups (List.filter_eq_self.mpr fun account haccount => ?_).symm
    have hne : account ≠ m.sender := fun h => hnone (h ▸ (List.mem_filter.mp haccount).2)
    simpa using hne

/-- A message asks for the room of its sender if that has to be found and is not known. -/
theorem Roomed.chats_eq {m : CloudMessage} {xs : List Exchange}
    {r : Except Failure (MessageId × Portals)} (h : Roomed portals m xs r) :
    (portalsAsked xs).map (·.1.chat) = (strangers portals [m]).map ChatKey.ofAccount := by
  have hone : ∀ a : String, [a].eraseDups = [a] := fun a => by simp [List.eraseDups_cons]
  cases h with
  | refused failure hpass => simp [strangers, passing, hpass, portalsAsked]
  | roomless request failure hpass hchat hnone =>
    simp [strangers, passing, hpass, hnone, hone, portalsAsked, Exchange.portal?, hchat]
  | roomed request room known asked rest r hpass hchat hportal hrest hknown =>
    rw [portalsAsked_append, portalsAsked_eq_nil fun x hx => (hrest x hx).1, List.append_nil]
    cases hportal with
    | known hlookup => simp [strangers, passing, hpass, hlookup, portalsAsked]
    | opened hnone =>
      simp [strangers, passing, hpass, hnone, hone, portalsAsked, Exchange.portal?, hchat]

/-- A message that is queued got past the checks. -/
theorem Roomed.passes {m : CloudMessage} {xs : List Exchange} {p : MessageId × Portals}
    (h : Roomed portals m xs (.ok p)) : (routeOf m).isOk = true := by
  cases h with
  | roomed request room known asked rest r hpass hchat hportal hrest hknown => exact hpass

theorem Handling.roomed_of {m : CloudMessage} {s t : σ} {xs : List Exchange}
    {r : Except Failure (MessageId × Portals)}
    (hrun : (⟨session, value, portals, m, s⟩ : Handling σ).effect world settings = ⟨r, t, xs⟩) :
    Roomed portals m xs r :=
  (Handling.handled_of hrun).roomed

namespace Batch

variable {s : σ} {ms : List CloudMessage} {hs : List (Handling σ)}
  {e : Effect σ (List MessageId × Option Failure)}

/-- Only the last message handled can be one that does not get past the checks. -/
theorem passing_prefix (h : Batch world settings session value portals s ms hs e) :
    passing (hs.map (·.message)) <+: hs.map (·.message) := by
  induction h with
  | done portals s => exact List.prefix_rfl
  | @stopped portals s t m failure xs ms hrun =>
    cases hpass : (routeOf m).isOk <;> simp [passing, hpass]
  | next hrun hrest ih => simpa [passing, (Handling.roomed_of hrun).passes] using ih

/-- A batch asks for the rooms of the senders that are not known, each once. -/
theorem chats_eq (h : Batch world settings session value portals s ms hs e) :
    (portalsAsked e.exchanges).map (·.1.chat) =
      (strangers portals (hs.map (·.message))).map ChatKey.ofAccount := by
  induction h with
  | done portals s => rfl
  | stopped ms hrun => exact (Handling.roomed_of hrun).chats_eq
  | @next portals known s t u m id xs ys ms hs ids failure hrun hrest ih =>
    have hm := Handling.roomed_of hrun
    rw [portalsAsked_append, List.map_append, hm.chats_eq, ih, List.map_cons,
      strangers_cons (hs.map (·.message)) hm.passes hm.unknown_after, List.map_append]

/-- Everything a batch does in a room is done in the room of the sender whose message it is. -/
theorem found (h : Batch world settings session value portals s ms hs e) {g : Handling σ}
    (hg : g ∈ hs) {x : Exchange} (hx : x ∈ (g.effect world settings).exchanges) {room : RoomId}
    (hroom : x.call.room? = some room) : Found portals e.exchanges g.message.sender room := by
  induction h with
  | done portals s => simp at hg
  | stopped ms hrun =>
    obtain rfl := List.mem_singleton.mp hg
    rw [hrun] at hx
    exact (Handling.roomed_of hrun).found hx hroom
  | @next portals known s t u m id xs ys ms hs ids failure hrun hrest ih =>
    have hm := Handling.roomed_of hrun
    rcases List.mem_cons.mp hg with rfl | hg
    · rw [hrun] at hx
      exact (hm.found hx hroom).append_right ys
    · rcases ih hg with hlookup | ⟨request, hchat, hasked⟩
      · exact (hm.found_after hlookup).append_right ys
      · refine Or.inr ⟨request, hchat, ?_⟩
        rw [portalsAsked_append]
        exact List.mem_append_right _ hasked

end Batch

/-! ## A delivery -/

section

variable (world : World σ) (settings : Settings) (body : Bytes) (s : σ)

/-- A delivery asks for the rooms of the senders whose messages get past the checks. -/
theorem chats_of_dispatch :
    (portalsAsked ((dispatch settings body).effect world s).exchanges).map (·.1.chat) =
      ((passing ((handlings world settings body s).map (·.message))).map
        (·.sender)).eraseDups.map ChatKey.ofAccount := by
  rcases dispatch_cases world settings body s with
    ⟨hnone, businessId, failure, t, xs, hrun, hstore⟩ |
    ⟨accepted, session, t, xs, ids, failure, u, ys, hfind, hbatch, hrun⟩
  · have hasked : portalsAsked xs = [] := portalsAsked_eq_nil fun x hx =>
      (Call.roomless (by simp [hstore x hx]) (by simp [hstore x hx])).1
    rw [hrun, hnone, hasked]
    rfl
  · have hfound : portalsAsked xs = [] := by
      rw [(findSession_ok hfind).2]
      rfl
    have hknown : ((passing ((handlings world settings body s).map (·.message))).map
        (·.sender)).eraseDups =
          strangers [] ((handlings world settings body s).map (·.message)) := by
      simp [strangers]
    rw [hrun, portalsAsked_append, hfound, List.nil_append, hknown]
    exact hbatch.chats_eq

/-- No chat has its room asked for twice. -/
theorem nodup_chats_of_dispatch :
    ((portalsAsked ((dispatch settings body).effect world s).exchanges).map
      (·.1.chat.chat)).Nodup := by
  have hchats := congrArg (List.map ChatKey.chat) (chats_of_dispatch world settings body s)
  rw [List.map_map, List.map_map] at hchats
  refine hchats ▸ ?_
  exact (nodup_eraseDups _).map ChatId.ofAccount_injective

variable {world settings body s}

/-- What is done in a room for a message is done in the one room replied for its sender's chat. -/
theorem room_of_handling {h : Handling σ} (hh : h ∈ handlings world settings body s) {x : Exchange}
    (hx : x ∈ (h.effect world settings).exchanges) {room : RoomId}
    (hroom : x.call.room? = some room) :
    ∃ request, (portalsAsked ((dispatch settings body).effect world s).exchanges).filter
      (fun p => p.1.chat.chat = ChatId.ofAccount h.message.sender) = [(request, .ok room)] := by
  have hnodup := nodup_chats_of_dispatch world settings body s
  rcases dispatch_cases world settings body s with
    ⟨hnone, businessId, failure, t, xs, hrun, hstore⟩ |
    ⟨accepted, session, t, xs, ids, failure, u, ys, hfind, hbatch, hrun⟩
  · simp [hnone] at hh
  · rcases hbatch.found hh hx hroom with hlookup | ⟨request, hchat, hmem⟩
    · simp at hlookup
    · have hid : request.chat.chat = ChatId.ofAccount h.message.sender := by rw [hchat]; rfl
      rw [← hid]
      have hasked : (request, .ok room) ∈
          portalsAsked ((dispatch settings body).effect world s).exchanges := by
        rw [hrun, portalsAsked_append]
        exact List.mem_append_right _ hmem
      exact ⟨request, filter_eq_singleton hnodup hasked⟩

/-- Whatever is done in a room is done for a message. -/
theorem handling_of_room {x : Exchange}
    (hx : x ∈ ((dispatch settings body).effect world s).exchanges) (hroom : x.call.room? ≠ none) :
    ∃ h ∈ handlings world settings body s, x ∈ (h.effect world settings).exchanges :=
  handling_of_call hx fun hstore =>
    hroom (Call.roomless (by simp [hstore]) (by simp [hstore])).2

/-- Only the last message handled can be one that does not get past the checks. -/
theorem passing_prefix_of_dispatch :
    passing ((handlings world settings body s).map (·.message)) <+:
      (handlings world settings body s).map (·.message) := by
  rcases dispatch_cases world settings body s with
    ⟨hnone, -⟩ | ⟨accepted, session, t, xs, ids, failure, u, ys, hfind, hbatch, hrun⟩
  · rw [hnone]
    exact List.nil_prefix
  · exact hbatch.passing_prefix

end

/-- **A delivery asks once for the room of each sender, and does everything in the right room.** The
messages that get past the checks are the first ones handled. Their senders' rooms are asked for
in the order in which these appear, each once; and whatever is uploaded, announced or queued for a
message goes to the room that was replied for the chat of its sender. -/
theorem dispatch_rooms (world : World σ) (settings : Settings) (body : Bytes) (s : σ) :
    let run := (dispatch settings body).effect world s
    let hs := handlings world settings body s
    let asked := portalsAsked run.exchanges
    let passed := (hs.map (·.message)).filter fun m => (routeOf m).isOk
    (asked.map (·.1.chat.chat)).Nodup ∧
      passed <+: hs.map (·.message) ∧
      asked.map (·.1.chat) = (passed.map (·.sender)).eraseDups.map ChatKey.ofAccount ∧
      (∀ x ∈ run.exchanges, x.call.room? ≠ none →
        ∃ h ∈ hs, x ∈ (h.effect world settings).exchanges) ∧
      ∀ h ∈ hs, ∀ x ∈ (h.effect world settings).exchanges, ∀ room, x.call.room? = some room →
        ∃ request, asked.filter (fun p => p.1.chat.chat = ChatId.ofAccount h.message.sender) =
          [(request, .ok room)] :=
  ⟨nodup_chats_of_dispatch world settings body s, passing_prefix_of_dispatch,
    chats_of_dispatch world settings body s, fun _ => handling_of_room,
    fun _ hh _ hx _ hroom => room_of_handling hh hx hroom⟩

/-- Two senders in turn: the room of each is asked for when it first writes. -/
example : (portalsAsked ((dispatch trialSettings (trialBody
      "[[\"1\",\"a\",\"\",\"text\"],[\"2\",\"b\",\"\",\"text\"],[\"1\",\"c\",\"\",\"text\"]]")).effect
        (.answering fun _ => none) ()).exchanges).map (·.1.chat.chat) =
      [.ofAccount "1", .ofAccount "2"] := by
  decide +kernel

end Delivery

end RoomBridge
