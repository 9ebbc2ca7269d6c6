import RoomBridge.Proofs.Delivery.Batch

/-!
# What a delivery queues

A delivery queues its messages in order up to the first that fails, each once, and does nothing for
those after it.
-/

namespace RoomBridge

/-- The id of a message that a queue has taken. -/
def Exchange.queued? : Exchange → Option MessageId
  | ⟨.queueMessage _ message, .ok _⟩ => some message.id
  | _ => none

/-- The ids of the messages that queues have taken, in order. -/
def queuedIds (xs : List Exchange) : List MessageId := xs.filterMap Exchange.queued?

@[simp] theorem queuedIds_append (xs ys : List Exchange) :
    queuedIds (xs ++ ys) = queuedIds xs ++ queuedIds ys :=
  List.filterMap_append

/-- Nothing is queued by asking others than the queues. -/
theorem queuedIds_eq_nil {xs : List Exchange} (h : ∀ x ∈ xs, x.call.service ≠ .queue) :
    queuedIds xs = [] := by
  refine List.filterMap_eq_nil_iff.mpr fun x hx => ?_
  have hservice := h x hx
  obtain ⟨c, reply⟩ := x
  cases c with
  | queueMessage room message => exact absurd rfl hservice
  | _ => rfl

namespace Delivery

variable {σ : Type} {world : World σ} {settings : Settings} {session : Session}
  {value : ChangeValue} {portals : Portals}

/-! ## One message -/

/-- A message that is handled is queued once, under its own id, or it fails and is not queued. -/
theorem Handled.queues {m : CloudMessage} {s : σ} {xs : List Exchange}
    {r : Except Failure (MessageId × Portals)}
    (h : Handled world settings session value portals m s xs r) :
    (∃ failure, r = .error failure ∧ queuedIds xs = []) ∨
      ∃ known, r = .ok (queuedId m, known) ∧ queuedIds xs = [queuedId m] := by
  have hasked : ∀ {t : σ} {room : RoomId} {known : Portals} {asked : List Exchange},
      (portalOf settings session value portals m).effect world s = ⟨.ok (room, known), t, asked⟩ →
      queuedIds asked = [] := fun hportal => queuedIds_eq_nil fun x hx => by
    rw [(portal_ok hportal).ensures x hx]
    exact Service.noConfusion
  cases h with
  | refused failure hroute => exact Or.inl ⟨failure, rfl, rfl⟩
  | roomless route failure t asked hroute hportal =>
    rw [(portal_error hportal).2]
    exact Or.inl ⟨failure, rfl, rfl⟩
  | lost kind media room known failure t u asked tried reply hroute hmedia hportal hlost =>
    have htried : queuedIds tried = [] := queuedIds_eq_nil fun x hx =>
      ((fetchToRoom_error hlost).2 x hx).service_ne_queue
    refine Or.inl ⟨failure, rfl, ?_⟩
    rw [queuedIds_append, queuedIds_append, hasked hportal, htried]
    rfl
  | offered route room known t message asked carried reply hroute hportal hconv =>
    have hcarried : queuedIds carried = [] := queuedIds_eq_nil fun x hx =>
      (hconv.carries x hx).service_ne_queue
    rw [queuedIds_append, queuedIds_append, hasked hportal, hcarried,
      show queuedId m = message.id from hconv.id_eq.symm]
    cases reply with
    | error failure => exact Or.inl ⟨failure, rfl, rfl⟩
    | ok _ => exact Or.inr ⟨known, rfl, rfl⟩

/-- A handling that succeeds has queued its message, once. -/
theorem Handling.queued_of_ok {h : Handling σ} {id : MessageId} {known : Portals} {t : σ}
    {xs : List Exchange} (hrun : h.effect world settings = ⟨.ok (id, known), t, xs⟩) :
    id = queuedId h.message ∧ queuedIds xs = [queuedId h.message] := by
  rcases (Handling.handled_of hrun).queues with ⟨failure, hr, -⟩ | ⟨after, hr, hids⟩
  · cases hr
  · cases hr
    exact ⟨rfl, hids⟩

/-- A handling that fails has queued nothing. -/
theorem Handling.queued_of_error {h : Handling σ} {failure : Failure} {t : σ} {xs : List Exchange}
    (hrun : h.effect world settings = ⟨.error failure, t, xs⟩) : queuedIds xs = [] := by
  rcases (Handling.handled_of hrun).queues with ⟨_, -, hids⟩ | ⟨after, hr, -⟩
  · exact hids
  · cases hr

/-! ## A batch -/

namespace Batch

variable {s : σ} {ms : List CloudMessage} {hs : List (Handling σ)}
  {e : Effect σ (List MessageId × Option Failure)}

/-- The ids that a batch reports are those of the messages that the queues have taken. -/
theorem queuedIds_eq (h : Batch world settings session value portals s ms hs e) :
    queuedIds e.exchanges = e.result.1 := by
  induction h with
  | done portals s => rfl
  | stopped ms hrun => exact Handling.queued_of_error hrun
  | next hrun _ ih =>
    obtain ⟨rfl, hids⟩ := Handling.queued_of_ok hrun
    rw [queuedIds_append, hids, ih]
    rfl

/-- A batch queues a prefix of its messages; it reports no failure only if that is all of them. -/
theorem queued_prefix (h : Batch world settings session value portals s ms hs e) :
    e.result.1 = (ms.take e.result.1.length).map queuedId ∧ e.result.1.length ≤ ms.length ∧
      (e.result.2 = none ↔ e.result.1.length = ms.length) := by
  induction h with
  | done portals s => simp
  | stopped ms hrun => simp
  | next hrun _ ih =>
    obtain ⟨rfl, -⟩ := Handling.queued_of_ok hrun
    obtain ⟨hids, hle, hnone⟩ := ih
    refine ⟨?_, by simpa using hle, by simpa using hnone⟩
    simpa using hids

/-- The messages handled are those queued and the one that failed. -/
theorem handled_prefix (h : Batch world settings session value portals s ms hs e) :
    hs.map (·.message) = ms.take (e.result.1.length + 1) := by
  induction h with
  | done portals s => rfl
  | stopped ms hrun => simp
  | next hrun _ ih => simpa using ih

/-- The handlings before the last one queued their messages. -/
theorem result_of_queued (h : Batch world settings session value portals s ms hs e) {i : Nat}
    {g : Handling σ} (hi : hs[i]? = some g) (hlt : i < e.result.1.length) :
    ∃ known t xs, g.effect world settings = ⟨.ok (queuedId g.message, known), t, xs⟩ := by
  induction h generalizing i with
  | done portals s => simp at hi
  | stopped ms hrun => simp at hlt
  | next hrun _ ih =>
    cases i with
    | zero =>
      obtain ⟨rfl, -⟩ := Handling.queued_of_ok hrun
      obtain rfl : _ = g := by simpa using hi
      exact ⟨_, _, _, hrun⟩
    | succ i => exact ih (by simpa using hi) (by simpa using hlt)

/-- A handling after those that queued their messages failed, with the failure of the batch. -/
theorem result_of_failed (h : Batch world settings session value portals s ms hs e)
    {g : Handling σ} (hi : hs[e.result.1.length]? = some g) :
    ∃ failure t xs, g.effect world settings = ⟨.error failure, t, xs⟩ ∧
      e.result.2 = some failure := by
  induction h with
  | done portals s => simp at hi
  | stopped ms hrun =>
    obtain rfl : _ = g := by simpa using hi
    exact ⟨_, _, _, hrun, rfl⟩
  | next hrun _ ih => exact ih (by simpa using hi)

end Batch

/-! ## A delivery -/

/-- **A delivery queues its messages in order, each once, up to the first that fails.** The first
`k` messages are queued, under the ids that the queues have taken; the next one, if there is one,
fails and gives the delivery its failure; and apart from the lookup of the session every call is
made while one of those `k + 1` is handled. -/
theorem dispatch_queues_prefix (world : World σ) (settings : Settings) (body : Bytes) (s : σ)
    (accepted : Accepted) (session : Session) (haccept : accept body = .ok accepted)
    (hfind : ((findSession accepted.businessId).effect world s).result = .ok session) :
    let ms := accepted.value.messages
    let lookup := (findSession accepted.businessId).effect world s
    let run := (dispatch settings body).effect world s
    let hs := handlings world settings body s
    ∃ k ≤ ms.length,
      run.result.queued =
        (ms.take k).map (fun m => MessageId.ofParts (.ofAccount m.sender) ⟨m.sender⟩ m.id) ∧
      queuedIds run.exchanges = run.result.queued ∧
      (run.result.failure = none ↔ k = ms.length) ∧
      hs.map (·.message) = ms.take (k + 1) ∧
      run.exchanges =
        lookup.exchanges ++ hs.flatMap (fun h => (h.effect world settings).exchanges) ∧
      (∀ i h, hs[i]? = some h → i < k →
        queuedIds (h.effect world settings).exchanges = [queuedId h.message] ∧
        ∃ known, (h.effect world settings).result = .ok (queuedId h.message, known)) ∧
      ∀ m, ms[k]? = some m → ∃ h failure, hs[k]? = some h ∧ h.message = m ∧
        queuedIds (h.effect world settings).exchanges = [] ∧
        (h.effect world settings).result = .error failure ∧
        run.result.failure = some failure := by
  intro ms lookup run hs
  rcases hlookup : (findSession accepted.businessId).effect world s with ⟨r, t, xs⟩
  rw [hlookup] at hfind
  obtain rfl : r = .ok session := hfind
  obtain ⟨ids, failure, u, ys, hbatch, hrun⟩ := dispatch_batch settings haccept hlookup
  obtain ⟨hids, hle, hnone⟩ := hbatch.queued_prefix
  have htaken : queuedIds xs = [] := by
    rw [(findSession_ok hlookup).2]
    rfl
  have hsent : queuedIds ys = ids := hbatch.queuedIds_eq
  have hasked : ys = hs.flatMap fun h => (h.effect world settings).exchanges := hbatch.exchanges_eq
  refine ⟨ids.length, hle, ?_, ?_, ?_, hbatch.handled_prefix, ?_, ?_, ?_⟩
  · simp only [run, hrun]
    exact hids
  · simp only [run, hrun]
    rw [queuedIds_append, htaken, hsent, List.nil_append]
  · simp only [run, hrun]
    exact hnone
  · simp only [run, hrun, lookup, hlookup]
    rw [hasked]
  · intro i h hi hlt
    obtain ⟨known, v, zs, hok⟩ := hbatch.result_of_queued hi hlt
    rw [hok]
    exact ⟨(Handling.queued_of_ok hok).2, known, rfl⟩
  · intro m hm
    have hat : (hs.map (·.message))[ids.length]? = some m := by
      rw [hbatch.handled_prefix, List.getElem?_take_of_lt (Nat.lt_succ_self _)]
      exact hm
    obtain ⟨h, hh, rfl⟩ : ∃ h, hs[ids.length]? = some h ∧ h.message = m := by
      simpa using hat
    obtain ⟨e, v, zs, herror, hfailure⟩ := hbatch.result_of_failed hh
    refine ⟨h, e, hh, rfl, ?_, ?_, ?_⟩
    · rw [herror]
      exact Handling.queued_of_error herror
    · rw [herror]
    · simp only [run, hrun]
      exact hfailure

/-- Three messages, of which the second has a tag that nothing is known of. -/
def reactionBody : Bytes :=
  trialBody
    "[[\"1\",\"a\",\"\",\"text\",[\"hi\"]],[\"2\",\"b\",\"\",\"reaction\"],[\"1\",\"c\",\"\",\"text\"]]"

theorem dispatch_queues_prefix_reaction :
    ∃ accepted session,
      accept reactionBody = .ok accepted ∧
      ((findSession accepted.businessId).effect (.answering fun _ => none) ()).result =
        .ok session ∧
      accepted.value.messages.length = 3 ∧
      ∃ k, k = 1 ∧
        ((dispatch trialSettings reactionBody).effect (.answering fun _ => none) ()).result.queued =
          (accepted.value.messages.take k).map queuedId ∧
        (handlings (.answering fun _ => none) trialSettings reactionBody ()).map (·.message) =
          accepted.value.messages.take (k + 1) := by
  have hone : ((dispatch trialSettings reactionBody).effect
      (.answering fun _ => none) ()).result.queued.length = 1 := by
    decide +kernel
  have hbody : (accept reactionBody).toOption.map
      (fun accepted => (accepted.businessId, accepted.value.messages.length)) =
        some ("W1", 3) := by
    decide +kernel
  obtain ⟨accepted, haccept, hid, hcount⟩ : ∃ accepted, accept reactionBody = .ok accepted ∧
      accepted.businessId = "W1" ∧ accepted.value.messages.length = 3 := by
    cases h : accept reactionBody with
    | error failure => simp [h, Except.toOption] at hbody
    | ok accepted => exact ⟨accepted, rfl, by simpa [h, Except.toOption] using hbody⟩
  have hfind : ((findSession accepted.businessId).effect (.answering fun _ => none) ()).result =
      .ok ⟨"W1", "P1", "token", "App", "@agent", none⟩ := by
    rw [hid]
    rfl
  obtain ⟨k, -, hqueued, -, -, hhandled, -⟩ := dispatch_queues_prefix
    (.answering fun _ => none) trialSettings reactionBody () accepted _ haccept hfind
  refine ⟨accepted, _, haccept, hfind, hcount, k, ?_, hqueued, hhandled⟩
  rw [hqueued, List.length_map, List.length_take] at hone
  omega

end Delivery

end RoomBridge
