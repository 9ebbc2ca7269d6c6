import RoomBridge.Proofs.Delivery.Admission
import RoomBridge.Proofs.Delivery.Rooms

/-!
# A batch and its messages one by one

The rooms that a delivery remembers save it from asking again, and change nothing else: where the
room of a chat is always the same, a batch does what its messages do that are delivered one by one.
The two runs are led side by side. What holds all along is that the rooms remembered are those that
would be replied.

* `World.routing` : a world in which the room depends on the chat;
* `Agree` : the rooms remembered are right;
* `Alike`, `deliverMessage_alike` : a message with some rooms remembered, and with none;
* `deliverAll_oneByOne` : many messages;
* `dispatch_refines_oneByOne` : a whole delivery.
-/

namespace RoomBridge

/-- Looks up a session or a room; all other calls do something. -/
def Call.isLookup : Call → Bool
  | .findSession _ _ | .ensurePortal _ => true
  | _ => false

/-- All that was done: every exchange but the lookups, in order. -/
def deeds (xs : List Exchange) : List Exchange := xs.filter fun x => !x.call.isLookup

@[simp] theorem deeds_append (xs ys : List Exchange) : deeds (xs ++ ys) = deeds xs ++ deeds ys :=
  List.filter_append ..

/-- The requests for rooms, in order. -/
def roomsRequested (xs : List Exchange) : List PortalRequest := (portalsAsked xs).map (·.1)

@[simp] theorem roomsRequested_append (xs ys : List Exchange) :
    roomsRequested (xs ++ ys) = roomsRequested xs ++ roomsRequested ys := by
  rw [roomsRequested, portalsAsked_append, List.map_append]
  rfl

/-- The requests without those for a chat that was asked for before. -/
def PortalRequest.firsts : List PortalRequest → List PortalRequest
  | [] => []
  | r :: rs => r :: (firsts rs).filter fun q => q.chat.chat ≠ r.chat.chat

/-- The world in which every lookup of a session finds `session` and every request for a room is
granted the room of its chat; all other calls are answered as in `others`. -/
def World.routing {σ : Type} (others : World σ) (session : Session) (roomOf : ChatId → RoomId) :
    World σ where
  answer
    | .findSession _ _, s => (.ok (some session), s)
    | .ensurePortal request, s => (.ok (roomOf request.chat.chat), s)
    | c, s => others.answer c s
  isCancelled := others.isCancelled

namespace Delivery

/-- Delivers bodies one after another, up to the first delivery that fails: the ids of all that was
queued, and that failure. -/
def oneByOne (settings : Settings) : List Bytes → Action (List MessageId × Option Failure)
  | [] => return ([], none)
  | body :: bodies => do
    let d ← dispatch settings body
    match d.failure with
    | some failure => return (d.queued, some failure)
    | none =>
      let (ids, failure) ← oneByOne settings bodies
      return (d.queued ++ ids, failure)

variable {σ : Type} {settings : Settings} {session : Session} {value : ChangeValue}
  {portals : Portals} {m : CloudMessage}

/-! ## After the room is known -/

/-- What is done for a message once its room is known. -/
def bring (settings : Settings) (session : Session) (m : CloudMessage) (route : Route)
    (origin : Origin) (room : RoomId) : Attempt MessageId := do
  let message ← convert settings session m route origin room
  Attempt.ask (.queueMessage room message)
  return message.id

/-- A message that gets past the checks has its room looked for, and is then brought there. -/
theorem effect_deliverMessage {world : World σ} {route : Route} {room : RoomId} {known : Portals}
    {s t : σ} {asked : List Exchange} (hroute : routeOf m = .ok route)
    (hportal : (portalOf settings session value portals m).effect world s =
      ⟨.ok (room, known), t, asked⟩) :
    (deliverMessage settings session value portals m).effect world s =
      let brought := (bring settings session m route (originOf value m) room).effect world t
      ⟨brought.result.map fun id => (id, known), brought.state, asked ++ brought.exchanges⟩ := by
  unfold portalOf at hportal
  unfold deliverMessage bring originOf
  rw [hroute, Attempt.effect_bind, Attempt.effect_check]
  dsimp only
  rw [Effect.after_nil, Attempt.effect_note_bind, Attempt.effect_bind, hportal]
  dsimp only
  rw [Attempt.effect_bind, Attempt.effect_bind]
  rcases (convert settings session m route _ room).effect world t with ⟨failure | message, u, xs⟩
  · rfl
  · dsimp only
    rw [Attempt.effect_bind, Attempt.effect_bind]
    rcases (Attempt.ask (.queueMessage room message)).effect world u with ⟨failure | _, v, ys⟩
    · rfl
    · dsimp only
      rw [Attempt.effect_note_bind]
      rfl

/-- A message that does not get past the checks is refused without any call. -/
theorem effect_deliverMessage_refused {world : World σ} {failure : Failure}
    (hroute : routeOf m = .error failure) (s : σ) :
    (deliverMessage settings session value portals m).effect world s = ⟨.error failure, s, []⟩ := by
  unfold deliverMessage
  rw [hroute]
  rfl

/-- A message is brought to its room without asking for another. -/
theorem bring_staysIn (world : World σ) (settings : Settings) (session : Session)
    (m : CloudMessage) (route : Route) (origin : Origin) (room : RoomId) (s : σ) :
    ∀ x ∈ ((bring settings session m route origin room).effect world s).exchanges,
      x.call.StaysIn room := by
  unfold bring
  rw [Attempt.effect_bind]
  rcases hconv : (convert settings session m route origin room).effect world s with
    ⟨failure | message, t, xs⟩
  · obtain ⟨kind, media, u, tried, reply, -, -, hlost, rfl⟩ := convert_error hconv
    exact staysIn_append (fetchToRoom_error hlost).2 (by simp [Call.StaysIn, Call.room?])
  · dsimp only
    have hqueue : ∀ reply, (⟨.queueMessage room message, reply⟩ : Exchange).call.StaysIn room := by
      intro reply
      simp [Call.StaysIn, Call.room?]
    rw [Attempt.effect_bind, Attempt.effect_ask]
    rcases world.answer (.queueMessage room message) t with ⟨failure | _, u⟩
    · exact staysIn_append (convert_ok hconv).carries (hqueue _)
    · exact staysIn_append (convert_ok hconv).carries (hqueue _)

/-! ## Rooms remembered -/

/-- The rooms remembered are those that would be replied. -/
def Agree (roomOf : ChatId → RoomId) (portals : Portals) : Prop :=
  ∀ account room, portals.lookup account = some room → room = roomOf (.ofAccount account)

/-- The chat of a request has no room that is remembered. -/
def unknown (portals : Portals) (request : PortalRequest) : Bool :=
  portals.all fun p => ChatId.ofAccount p.1 ≠ request.chat.chat

theorem unknown_eq {request : PortalRequest} {sender : String}
    (hchat : request.chat = .ofAccount sender) :
    unknown portals request = (portals.lookup sender).isNone := by
  have hid : request.chat.chat = ChatId.ofAccount sender := by
    rw [hchat]
    rfl
  rw [Bool.eq_iff_iff, Option.isNone_iff_eq_none, List.lookup_eq_none_iff, unknown, List.all_eq_true]
  refine forall₂_congr fun p _ => ?_
  rw [hid, decide_eq_true_iff, bne_iff_ne, ne_eq, ne_eq, ChatId.ofAccount_injective.eq_iff, eq_comm]

section

variable {request : PortalRequest} {known : Portals} {sender : String} {xs : List Exchange}
  {room : RoomId}

theorem Portal.deeds_eq (h : Portal request portals sender room xs known) : deeds xs = [] := by
  cases h with
  | known _ => rfl
  | opened _ => rfl

/-- A room is requested if it is not remembered. -/
theorem Portal.roomsRequested_eq (h : Portal request portals sender room xs known)
    (hchat : request.chat = .ofAccount sender) :
    roomsRequested xs = [request].filter (unknown portals) := by
  cases h with
  | known hlookup =>
    rw [List.filter_cons_of_neg (by simp [unknown_eq hchat, hlookup])]
    rfl
  | opened hnone =>
    rw [List.filter_cons_of_pos (by simp [unknown_eq hchat, hnone])]
    rfl

/-- Afterwards the room of the sender is remembered, and no other that was not. -/
theorem Portal.unknown_after (h : Portal request portals sender room xs known)
    (hchat : request.chat = .ofAccount sender) (q : PortalRequest) :
    unknown known q = (unknown portals q && decide (q.chat.chat ≠ request.chat.chat)) := by
  have hid : request.chat.chat = ChatId.ofAccount sender := by
    rw [hchat]
    rfl
  cases h with
  | known hlookup =>
    -- A request for the chat of the sender is none for an unknown room.
    by_cases hsame : q.chat.chat = request.chat.chat
    · have hknown : unknown portals q = unknown portals request := by
        rw [unknown, unknown, hsame]
      rw [hknown, unknown_eq hchat, hlookup]
      rfl
    · rw [decide_eq_true hsame, Bool.and_true]
  | opened hnone =>
    rw [unknown, List.all_cons, hid, Bool.and_comm]
    congr 1
    rw [decide_eq_decide]
    exact ne_comm

/-- What is unknown after a request was the first for its chat, and is none for the same chat. -/
theorem filter_firsts_cons
    (hunknown : ∀ q, unknown known q =
      (unknown portals q && decide (q.chat.chat ≠ request.chat.chat)))
    (rs : List PortalRequest) :
    (PortalRequest.firsts (request :: rs)).filter (unknown portals) =
      [request].filter (unknown portals) ++ (PortalRequest.firsts rs).filter (unknown known) := by
  rw [PortalRequest.firsts, ← List.singleton_append, List.filter_append, List.filter_filter]
  congr 2
  funext q
  exact (hunknown q).symm

theorem Portal.agree {roomOf : ChatId → RoomId}
    (h : Portal request portals sender (roomOf (.ofAccount sender)) xs known)
    (hagree : Agree roomOf portals) : Agree roomOf known := by
  cases h with
  | known _ => exact hagree
  | opened hnone =>
    intro account room hroom
    rw [List.lookup_cons] at hroom
    split at hroom
    · next hsame =>
      rw [beq_iff_eq] at hsame
      rw [Option.some.injEq] at hroom
      rw [← hroom, hsame]
    · exact hagree account room hroom

end

section

variable (others : World σ) (found : Session) {roomOf : ChatId → RoomId}

/-- Where rooms depend on their chats, a message finds the room of its sender's chat, whatever is
remembered of rooms. -/
theorem effect_portalOf_routing (settings : Settings) (session : Session) (value : ChangeValue)
    (m : CloudMessage) (hagree : Agree roomOf portals) (s : σ) :
    ∃ xs known, (portalOf settings session value portals m).effect
        (others.routing found roomOf) s = ⟨.ok (roomOf (.ofAccount m.sender), known), s, xs⟩ ∧
      Portal (portalRequest settings session m.sender (profileName? value m.sender)) portals
        m.sender (roomOf (.ofAccount m.sender)) xs known := by
  unfold portalOf portal
  cases hlookup : portals.lookup m.sender with
  | some room =>
    obtain rfl : room = roomOf (.ofAccount m.sender) := hagree m.sender room hlookup
    exact ⟨[], portals, rfl, .known hlookup⟩
  | none => exact ⟨_, _, rfl, .opened hlookup⟩

end

/-! ## One message -/

/-- Two ways to handle a message come to the same: one with the rooms `portals` remembered, one that
has to ask. -/
inductive Alike (roomOf : ChatId → RoomId) (portals : Portals) :
    Effect σ (Except Failure (MessageId × Portals)) →
      Effect σ (Except Failure (MessageId × Portals)) → Prop
  | failed (failure : Failure) (t : σ) (xs ys : List Exchange) : deeds xs = deeds ys →
    roomsRequested xs = (PortalRequest.firsts (roomsRequested ys)).filter (unknown portals) →
    Alike roomOf portals ⟨.error failure, t, xs⟩ ⟨.error failure, t, ys⟩
  | queued (id : MessageId) (known anew : Portals) (request : PortalRequest) (t : σ)
      (xs ys : List Exchange) : deeds xs = deeds ys → roomsRequested ys = [request] →
    roomsRequested xs = [request].filter (unknown portals) → Agree roomOf known →
    (∀ q, unknown known q = (unknown portals q && decide (q.chat.chat ≠ request.chat.chat))) →
    Alike roomOf portals ⟨.ok (id, known), t, xs⟩ ⟨.ok (id, anew), t, ys⟩

/-- What is remembered of rooms saves a message a request, and changes nothing else. -/
theorem deliverMessage_alike (others : World σ) (found : Session) {roomOf : ChatId → RoomId}
    (settings : Settings) (session : Session) (m : CloudMessage) {v : ChangeValue}
    (hagree : Agree roomOf portals) (hcontacts : v.contacts = value.contacts) (s : σ) :
    Alike roomOf portals
      ((deliverMessage settings session value portals m).effect (others.routing found roomOf) s)
      ((deliverMessage settings session v [] m).effect (others.routing found roomOf) s) := by
  cases hroute : routeOf m with
  | error failure =>
    rw [effect_deliverMessage_refused hroute, effect_deliverMessage_refused hroute]
    exact .failed failure s [] [] rfl rfl
  | ok route =>
    have horigin : originOf v m = originOf value m := by
      rw [originOf, originOf, profileName?_congr hcontacts]
    have hnothing : Agree roomOf [] := nofun
    obtain ⟨xs, known, hportal, hknown⟩ :=
      effect_portalOf_routing others found settings session value m hagree s
    obtain ⟨ys, anew, hportal', hanew⟩ :=
      effect_portalOf_routing others found settings session v m hnothing s
    rw [profileName?_congr hcontacts] at hanew
    rw [effect_deliverMessage hroute hportal, effect_deliverMessage hroute hportal', horigin]
    have hstays := bring_staysIn (others.routing found roomOf) settings session m route
      (originOf value m) (roomOf (.ofAccount m.sender)) s
    rcases hbrought : (bring settings session m route (originOf value m)
      (roomOf (.ofAccount m.sender))).effect (others.routing found roomOf) s with
      ⟨failure | id, t, zs⟩
    all_goals
      rw [hbrought] at hstays
      have hnone : roomsRequested zs = [] := by
        rw [roomsRequested, portalsAsked_eq_nil fun x hx => (hstays x hx).1, List.map_nil]
      have hdeeds : deeds (xs ++ zs) = deeds (ys ++ zs) := by
        rw [deeds_append, deeds_append, hknown.deeds_eq, hanew.deeds_eq]
      have hrooms := hknown.roomsRequested_eq rfl
      have hroom : roomsRequested ys = [_] := hanew.roomsRequested_eq rfl
    · refine .failed failure t _ _ hdeeds ?_
      rw [roomsRequested_append, roomsRequested_append, hnone, hrooms, hroom]
      simp [PortalRequest.firsts]
    · refine .queued id known anew _ t _ _ hdeeds ?_ ?_ (hknown.agree hagree)
        (hknown.unknown_after rfl)
      · rw [roomsRequested_append, hnone, hroom, List.append_nil]
      · rw [roomsRequested_append, hnone, hrooms, List.append_nil]

/-! ## Many messages -/

section

variable {world : World σ} {bodies : List Bytes} {body : Bytes} {businessId : Option String}
  {queued : List MessageId} {s t : σ} {xs : List Exchange}

/-- The first body whose delivery fails is the last. -/
theorem effect_oneByOne_stopped {failure : Failure}
    (h : (dispatch settings body).effect world s = ⟨⟨businessId, queued, some failure⟩, t, xs⟩) :
    (oneByOne settings (body :: bodies)).effect world s = ⟨(queued, some failure), t, xs⟩ := by
  rw [oneByOne, Action.effect_bind, h]
  dsimp only
  rw [Action.effect_pure, Effect.after, List.append_nil]

theorem effect_oneByOne_next
    (h : (dispatch settings body).effect world s = ⟨⟨businessId, queued, none⟩, t, xs⟩) :
    (oneByOne settings (body :: bodies)).effect world s =
      let rest := (oneByOne settings bodies).effect world t
      ⟨(queued ++ rest.result.1, rest.result.2), rest.state, xs ++ rest.exchanges⟩ := by
  rw [oneByOne, Action.effect_bind, h]
  dsimp only
  rw [Action.effect_bind, Action.effect_pure, Effect.after, Effect.after, List.append_nil]

end

/-- `body` brings the message `m` alone to the account of a batch, with the contacts of the batch. -/
def BringsOne (businessId : String) (value : ChangeValue) (body : Bytes) (m : CloudMessage) : Prop :=
  ∃ v, Brings body businessId v ∧ v.contacts = value.contacts ∧ v.messages = [m]

section

variable (others : World σ) (found : Session) {roomOf : ChatId → RoomId} {businessId : String}
  {body : Bytes} {v : ChangeValue} {s t : σ} {ys : List Exchange}

/-- The delivery of one message is the lookup of its account and what the message comes to. -/
theorem effect_dispatch_one (hblank : Text.blank businessId = false)
    (hbrings : Brings body businessId v) (hone : v.messages = [m])
    {r : Except Failure (MessageId × Portals)}
    (h : (deliverMessage settings found v [] m).effect (others.routing found roomOf) s =
      ⟨r, t, ys⟩) :
    (dispatch settings body).effect (others.routing found roomOf) s =
      ⟨match r with
        | .error failure => ⟨some businessId, [], some failure⟩
        | .ok (id, _) => ⟨some businessId, [id], none⟩,
        t, ⟨.findSession .businessId businessId, .ok (some found)⟩ :: ys⟩ := by
  have hfind : (findSession businessId).effect (others.routing found roomOf) s =
      ⟨.ok found, s, [⟨.findSession .businessId businessId, .ok (some found)⟩]⟩ :=
    effect_findSession hblank rfl
  rw [effect_dispatch_registered hbrings.accept_eq hfind]
  dsimp only
  rw [hone]
  rcases r with failure | ⟨id, known⟩
  · rw [effect_deliverAll_stopped h]
    rfl
  · rw [effect_deliverAll_next h, deliverAll]
    simp

/-- Messages that are handled with some rooms remembered do what their single deliveries do, and ask
for the rooms that are not remembered, each once. -/
theorem deliverAll_oneByOne (settings : Settings) (hblank : Text.blank businessId = false)
    {bodies : List Bytes} {ms : List CloudMessage}
    (hbodies : List.Forall₂ (BringsOne businessId value) bodies ms)
    (hagree : Agree roomOf portals) (s : σ) :
    let all := (deliverAll settings found businessId value portals ms).effect
      (others.routing found roomOf) s
    let one := (oneByOne settings bodies).effect (others.routing found roomOf) s
    all.result = one.result ∧ all.state = one.state ∧
      deeds all.exchanges = deeds one.exchanges ∧
      roomsRequested all.exchanges =
        (PortalRequest.firsts (roomsRequested one.exchanges)).filter (unknown portals) := by
  induction hbodies generalizing portals s with
  | nil => exact ⟨rfl, rfl, rfl, rfl⟩
  | @cons body m bodies ms hbody hrest ih =>
    obtain ⟨v, hbrings, hcontacts, hone⟩ := hbody
    have halike := deliverMessage_alike others found settings found m hagree hcontacts s
    generalize hfirst : (deliverMessage settings found value portals m).effect
      (others.routing found roomOf) s = first at halike
    generalize hsingle : (deliverMessage settings found v [] m).effect
      (others.routing found roomOf) s = single at halike
    have hlookup : ∀ xs, deeds (⟨.findSession .businessId businessId, .ok (some found)⟩ :: xs) =
        deeds xs := fun xs => rfl
    have hrooms : ∀ xs, roomsRequested (⟨.findSession .businessId businessId, .ok (some found)⟩ ::
        xs) = roomsRequested xs := fun xs => rfl
    dsimp only
    cases halike with
    | failed failure t xs ys hdeeds hrequested =>
      rw [effect_deliverAll_stopped hfirst,
        effect_oneByOne_stopped (effect_dispatch_one others found hblank hbrings hone hsingle)]
      refine ⟨rfl, rfl, ?_, ?_⟩
      · rw [hlookup, hdeeds]
      · rw [hrooms, hrequested]
    | queued id known anew request t xs ys hdeeds hnew hrequested hknown hunknown =>
      obtain ⟨hresult, hstate, hrestdeeds, hrestrooms⟩ := ih hknown t
      rw [effect_deliverAll_next hfirst,
        effect_oneByOne_next (effect_dispatch_one others found hblank hbrings hone hsingle)]
      dsimp only
      refine ⟨?_, hstate, ?_, ?_⟩
      · rw [hresult]
        rfl
      · rw [deeds_append, deeds_append, hlookup, hdeeds, hrestdeeds]
      · rw [roomsRequested_append, roomsRequested_append, hrooms, hnew, hrequested, hrestrooms,
          List.singleton_append, filter_firsts_cons hunknown]

end

/-! ## A delivery -/

/-- **A batch does what its messages do one by one.** Where lookups always find the session and the
room of a chat is always the same, however everything else behaves: a delivery of a batch makes the
same calls as one delivery a message, with the same replies, up to the first that fails, queues the
same ids, and ends with the same failure and in the same state. It asks for the same rooms, but for
none again. -/
theorem dispatch_refines_oneByOne (others : World σ) (found : Session) (roomOf : ChatId → RoomId)
    (settings : Settings) (batch : Bytes) (bodies : List Bytes) (businessId : String)
    (value : ChangeValue) (s : σ) (hbatch : Brings batch businessId value)
    (hbodies : List.Forall₂ (BringsOne businessId value) bodies value.messages) :
    let all := (dispatch settings batch).effect (others.routing found roomOf) s
    let one := (oneByOne settings bodies).effect (others.routing found roomOf) s
    deeds all.exchanges = deeds one.exchanges ∧
      all.result.queued = one.result.1 ∧ all.result.failure = one.result.2 ∧
      roomsRequested all.exchanges = PortalRequest.firsts (roomsRequested one.exchanges) ∧
      all.state = one.state := by
  dsimp only
  by_cases hblank : Text.blank businessId = true
  · -- No account is looked up, so the first message alone is refused like the batch.
    have hrefused : ∀ {body v}, Brings body businessId v →
        (dispatch settings body).effect (others.routing found roomOf) s =
          ⟨⟨some businessId, [], some (.unregisteredAccount businessId)⟩, s, []⟩ := fun h =>
      effect_dispatch_unregistered h.accept_eq (effect_findSession_blank hblank s)
    obtain ⟨-, -, -, hsome⟩ := id hbatch
    cases hbodies' : value.messages with
    | nil => exact absurd hbodies' hsome
    | cons m ms =>
      rw [hbodies'] at hbodies
      cases hbodies with
      | cons hbody hrest =>
        obtain ⟨v, hbrings, -, -⟩ := hbody
        rw [hrefused hbatch, effect_oneByOne_stopped (hrefused hbrings)]
        exact ⟨rfl, rfl, rfl, rfl, rfl⟩
  · have hfind : (findSession businessId).effect (others.routing found roomOf) s =
        ⟨.ok found, s, [⟨.findSession .businessId businessId, .ok (some found)⟩]⟩ :=
      effect_findSession (Bool.eq_false_iff.mpr hblank) rfl
    have hnothing : Agree roomOf [] := nofun
    obtain ⟨hresult, hstate, hdeeds, hrooms⟩ := deliverAll_oneByOne others found settings
      (Bool.eq_false_iff.mpr hblank) hbodies hnothing s
    have hall : ∀ rs, List.filter (unknown []) rs = rs := fun rs =>
      List.filter_eq_self.mpr fun _ _ => rfl
    rw [effect_dispatch_registered hbatch.accept_eq hfind]
    dsimp only
    refine ⟨hdeeds, congrArg Prod.fst hresult, congrArg Prod.snd hresult, ?_, hstate⟩
    rw [← hall (PortalRequest.firsts _)]
    exact hrooms

/-- Two texts of one sender, and an image of another. -/
def lossyBatch : Bytes :=
  trialBody
    "[[\"1\",\"a\",\"\",\"text\",[\"hi\"]],[\"1\",\"b\",\"\",\"text\",[\"ho\"]],
      [\"2\",\"c\",\"\",\"image\",null,[\"MID\"]]]"

/-- The same, one by one. -/
def lossyBodies : List Bytes :=
  [trialBody "[[\"1\",\"a\",\"\",\"text\",[\"hi\"]]]",
    trialBody "[[\"1\",\"b\",\"\",\"text\",[\"ho\"]]]",
    trialBody "[[\"2\",\"c\",\"\",\"image\",null,[\"MID\"]]]"]

/-- What is read in them. -/
def lossyMessages : List CloudMessage :=
  [⟨"1", "a", "", "text", some ⟨"hi"⟩, none, none, none, none, none⟩,
    ⟨"1", "b", "", "text", some ⟨"ho"⟩, none, none, none, none, none⟩,
    ⟨"2", "c", "", "image", none, some ⟨"MID", none, none, none, none, none, none⟩, none, none,
      none, none⟩]

/-- The fields in which it is. -/
def lossyFields (v : ChangeValue) : List Contact × List CloudMessage := (v.contacts, v.messages)

/-- A world in which nothing can be uploaded to rooms. -/
def lossyOthers : World Unit :=
  .answering fun
    | .uploadContent _ _ => some (.external "no space left")
    | _ => none

/-- The owner of the account. -/
def lossyOwner : Session := ⟨"W1", "P1", "token", "App", "@agent", none⟩

/-- The room of a chat is called like the chat. -/
def lossyRoomOf (chat : ChatId) : RoomId := ⟨chat.text⟩

theorem dispatch_refines_oneByOne_lossy :
    let all := (dispatch trialSettings lossyBatch).effect
      (lossyOthers.routing lossyOwner lossyRoomOf) ()
    let one := (oneByOne trialSettings lossyBodies).effect
      (lossyOthers.routing lossyOwner lossyRoomOf) ()
    (∃ value, Brings lossyBatch "W1" value ∧
      List.Forall₂ (BringsOne "W1" value) lossyBodies value.messages) ∧
    (one.result.1.length = 2 ∧ one.result.2.isSome ∧ (roomsRequested one.exchanges).length = 3) ∧
    deeds all.exchanges = deeds one.exchanges ∧
      all.result.queued = one.result.1 ∧ all.result.failure = one.result.2 ∧
      roomsRequested all.exchanges = PortalRequest.firsts (roomsRequested one.exchanges) ∧
      all.state = one.state := by
  obtain ⟨value, hbatch, hvalue⟩ : ∃ v, Brings lossyBatch "W1" v ∧
      lossyFields v = ([], lossyMessages) :=
    brings_of_read lossyFields (by decide +kernel)
  obtain ⟨hcontacts, hmessages⟩ := Prod.mk.inj hvalue
  have hbodies : List.Forall₂ (BringsOne "W1" value) lossyBodies value.messages := by
    have hone : ∀ {body m}, (∃ v, Brings body "W1" v ∧ lossyFields v = ([], [m])) →
        BringsOne "W1" value body m := by
      rintro body m ⟨v, hbrings, hv⟩
      obtain ⟨hnone, hm⟩ := Prod.mk.inj hv
      exact ⟨v, hbrings, hnone.trans hcontacts.symm, hm⟩
    rw [hmessages, lossyMessages, lossyBodies]
    refine .cons (hone (brings_of_read lossyFields ?_)) (.cons (hone (brings_of_read lossyFields ?_))
      (.cons (hone (brings_of_read lossyFields ?_)) .nil))
    all_goals decide +kernel
  have hrefines := dispatch_refines_oneByOne lossyOthers lossyOwner lossyRoomOf trialSettings
    lossyBatch lossyBodies "W1" value () hbatch hbodies
  refine ⟨⟨value, hbatch, hbodies⟩, ?_, hrefines⟩
  decide +kernel

end Delivery

end RoomBridge
