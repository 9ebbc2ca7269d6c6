import RoomBridge.Proofs.Delivery.Handling

/-!
# Handling the messages of a delivery

The messages of an accepted delivery are handled one by one. `handlings` lists the handlings of a
delivery, each with what was known and where the run stood when it began; `Batch` ties the list to
the effect of the whole, and is what proofs about all messages go by induction on.

* `deliverAll_batch` : the messages of a change make a `Batch`;
* `dispatch_cases` : all that a delivery can come to.
-/

namespace RoomBridge.Delivery

variable {σ : Type}

/-! ## Handlings -/

/-- A message about to be handled: for whom, with which rooms known, and in which state. -/
structure Handling (σ : Type) where
  session : Session
  value : ChangeValue
  portals : Portals
  message : CloudMessage
  state : σ

namespace Handling

/-- What handling the message comes to. -/
def effect (h : Handling σ) (world : World σ) (settings : Settings) :
    Effect σ (Except Failure (MessageId × Portals)) :=
  (deliverMessage settings h.session h.value h.portals h.message).effect world h.state

/-- The handlings of some messages, up to the first that fails. -/
def sequence (world : World σ) (settings : Settings) (session : Session) (value : ChangeValue) :
    Portals → σ → List CloudMessage → List (Handling σ)
  | _, _, [] => []
  | portals, s, m :: ms =>
    let h : Handling σ := ⟨session, value, portals, m, s⟩
    match h.effect world settings with
    | ⟨.ok (_, known), t, _⟩ => h :: sequence world settings session value known t ms
    | ⟨.error _, _, _⟩ => [h]

/-- All that a handling can come to. -/
theorem handled (h : Handling σ) (world : World σ) (settings : Settings) :
    Handled world settings h.session h.value h.portals h.message h.state
      (h.effect world settings).exchanges (h.effect world settings).result :=
  deliverMessage_handled settings h.session h.value h.portals h.message h.state

theorem handled_of {h : Handling σ} {world : World σ} {settings : Settings} {t : σ}
    {xs : List Exchange} {r : Except Failure (MessageId × Portals)}
    (hrun : h.effect world settings = ⟨r, t, xs⟩) :
    Handled world settings h.session h.value h.portals h.message h.state xs r := by
  have hh := h.handled world settings
  rwa [hrun] at hh

end Handling

/-- The handlings of a delivery; none if it is not accepted or its account is not registered. -/
def handlings (world : World σ) (settings : Settings) (body : Bytes) (s : σ) : List (Handling σ) :=
  match accept body with
  | .error _ => []
  | .ok accepted =>
    match (findSession accepted.businessId).effect world s with
    | ⟨.ok session, t, _⟩ =>
      Handling.sequence world settings session accepted.value [] t accepted.value.messages
    | ⟨.error _, _, _⟩ => []

/-! ## Batches -/

/-- Some messages are handled one after another: from which rooms and state, which messages, their
handlings, and the effect of all. -/
inductive Batch (world : World σ) (settings : Settings) (session : Session) (value : ChangeValue) :
    Portals → σ → List CloudMessage → List (Handling σ) →
      Effect σ (List MessageId × Option Failure) → Prop
  | done (portals : Portals) (s : σ) :
    Batch world settings session value portals s [] [] ⟨([], none), s, []⟩
  | stopped {portals : Portals} {s t : σ} {m : CloudMessage} {failure : Failure}
      {xs : List Exchange} (ms : List CloudMessage) :
    (⟨session, value, portals, m, s⟩ : Handling σ).effect world settings =
      ⟨.error failure, t, xs⟩ →
    Batch world settings session value portals s (m :: ms) [⟨session, value, portals, m, s⟩]
      ⟨([], some failure), t, xs⟩
  | next {portals known : Portals} {s t u : σ} {m : CloudMessage} {id : MessageId}
      {xs ys : List Exchange} {ms : List CloudMessage} {hs : List (Handling σ)}
      {ids : List MessageId} {failure : Option Failure} :
    (⟨session, value, portals, m, s⟩ : Handling σ).effect world settings =
      ⟨.ok (id, known), t, xs⟩ →
    Batch world settings session value known t ms hs ⟨(ids, failure), u, ys⟩ →
    Batch world settings session value portals s (m :: ms)
      (⟨session, value, portals, m, s⟩ :: hs) ⟨(id :: ids, failure), u, xs ++ ys⟩

/-- What is asked for in a batch is asked for by its handlings, one after another. -/
theorem Batch.exchanges_eq {world : World σ} {settings : Settings} {session : Session}
    {value : ChangeValue} {portals : Portals} {s : σ} {ms : List CloudMessage}
    {hs : List (Handling σ)} {e : Effect σ (List MessageId × Option Failure)}
    (h : Batch world settings session value portals s ms hs e) :
    e.exchanges = hs.flatMap fun h => (h.effect world settings).exchanges := by
  induction h with
  | done portals s => rfl
  | stopped ms hrun => simp [hrun]
  | next hrun _ ih => simpa [hrun] using ih

/-- The first message that fails ends a delivery. -/
theorem effect_deliverAll_stopped {world : World σ} {settings : Settings} {session : Session}
    {businessId : String} {value : ChangeValue} {portals : Portals} {m : CloudMessage}
    {ms : List CloudMessage} {s t : σ} {failure : Failure} {xs : List Exchange}
    (h : (deliverMessage settings session value portals m).effect world s =
      ⟨.error failure, t, xs⟩) :
    (deliverAll settings session businessId value portals (m :: ms)).effect world s =
      ⟨([], some failure), t, xs⟩ := by
  unfold Attempt.effect at h
  rw [deliverAll, Action.effect_bind, h]
  dsimp only
  rw [Action.effect_note_bind, Action.effect_pure, Effect.after, List.append_nil]

/-- A message that is queued leaves the rooms known and the state to the next one. -/
theorem effect_deliverAll_next {world : World σ} {settings : Settings} {session : Session}
    {businessId : String} {value : ChangeValue} {portals known : Portals} {m : CloudMessage}
    {ms : List CloudMessage} {s t : σ} {id : MessageId} {xs : List Exchange}
    (h : (deliverMessage settings session value portals m).effect world s =
      ⟨.ok (id, known), t, xs⟩) :
    (deliverAll settings session businessId value portals (m :: ms)).effect world s =
      let rest := (deliverAll settings session businessId value known ms).effect world t
      ⟨(id :: rest.result.1, rest.result.2), rest.state, xs ++ rest.exchanges⟩ := by
  unfold Attempt.effect at h
  rw [deliverAll, Action.effect_bind, h]
  dsimp only
  rw [Action.effect_bind, Action.effect_pure, Effect.after, Effect.after, List.append_nil]

theorem deliverAll_batch (world : World σ) (settings : Settings) (session : Session)
    (businessId : String) (value : ChangeValue) (ms : List CloudMessage) (portals : Portals)
    (s : σ) :
    Batch world settings session value portals s ms
      (Handling.sequence world settings session value portals s ms)
      ((deliverAll settings session businessId value portals ms).effect world s) := by
  induction ms generalizing portals s with
  | nil => exact .done portals s
  | cons m ms ih =>
    rcases hrun : (⟨session, value, portals, m, s⟩ : Handling σ).effect world settings with
      ⟨failure | ⟨id, known⟩, t, xs⟩
    · rw [effect_deliverAll_stopped hrun]
      simp only [Handling.sequence, hrun]
      exact .stopped ms hrun
    · rw [effect_deliverAll_next hrun]
      simp only [Handling.sequence, hrun]
      exact .next hrun (ih known t)

/-! ## The whole delivery -/

theorem findSession_ok {world : World σ} {businessId : String} {s t : σ} {session : Session}
    {xs : List Exchange}
    (h : (findSession businessId).effect world s = ⟨.ok session, t, xs⟩) :
    Text.blank businessId = false ∧
      xs = [⟨.findSession .businessId businessId, .ok (some session)⟩] := by
  unfold findSession at h
  split at h
  · simp at h
  rename_i hblank
  obtain ⟨found, u, ys, zs, hasked, hend, rfl⟩ := Attempt.effect_bind_ok h
  rw [Attempt.effect_ask_eq hasked]
  cases found with
  | none => simp at hend
  | some found =>
    simp only [Attempt.effect_pure, Effect.mk.injEq, Except.ok.injEq] at hend
    obtain ⟨rfl, -, rfl⟩ := hend
    exact ⟨by simpa using hblank, rfl⟩

/-- There is no session for a blank account, for one that the store does not have, and when the
store fails. -/
theorem findSession_error {world : World σ} {businessId : String} {s t : σ} {failure : Failure}
    {xs : List Exchange}
    (h : (findSession businessId).effect world s = ⟨.error failure, t, xs⟩) :
    (Text.blank businessId = true ∧ failure = .unregisteredAccount businessId ∧ xs = []) ∨
      (failure = .unregisteredAccount businessId ∧
        xs = [⟨.findSession .businessId businessId, .ok none⟩]) ∨
      xs = [⟨.findSession .businessId businessId, .error failure⟩] := by
  unfold findSession at h
  split at h
  · rename_i hblank
    simp only [Attempt.effect_throw, Effect.mk.injEq, Except.error.injEq] at h
    obtain ⟨rfl, -, rfl⟩ := h
    exact Or.inl ⟨hblank, rfl, rfl⟩
  rcases Attempt.effect_bind_error h with hasked | ⟨found, u, ys, zs, hasked, hend, rfl⟩
  · exact Or.inr (Or.inr (Attempt.effect_ask_eq hasked))
  · rw [Attempt.effect_ask_eq hasked]
    cases found with
    | some found => simp at hend
    | none =>
      simp only [Attempt.effect_throw, Effect.mk.injEq, Except.error.injEq] at hend
      obtain ⟨rfl, -, rfl⟩ := hend
      exact Or.inr (Or.inl ⟨rfl, rfl⟩)

/-- Looking for a session asks nobody but the store. -/
theorem findSession_store (world : World σ) (businessId : String) (s : σ) :
    ∀ x ∈ ((findSession businessId).effect world s).exchanges, x.call.service = .store := by
  rcases hfind : (findSession businessId).effect world s with ⟨failure | session, t, xs⟩
  · rcases findSession_error hfind with ⟨-, -, rfl⟩ | ⟨-, rfl⟩ | rfl <;> simp [Call.service]
  · rw [(findSession_ok hfind).2]
    simp [Call.service]

theorem effect_dispatch_refused {world : World σ} {settings : Settings} {body : Bytes}
    {failure : Failure} (h : accept body = .error failure) (s : σ) :
    (dispatch settings body).effect world s = ⟨⟨none, [], some failure⟩, s, []⟩ := by
  unfold dispatch
  rw [h]
  rfl

theorem effect_dispatch_unregistered {world : World σ} {settings : Settings} {body : Bytes}
    {accepted : Accepted} {s t : σ} {failure : Failure} {xs : List Exchange}
    (haccept : accept body = .ok accepted)
    (hfind : (findSession accepted.businessId).effect world s = ⟨.error failure, t, xs⟩) :
    (dispatch settings body).effect world s =
      ⟨⟨some accepted.businessId, [], some failure⟩, t, xs⟩ := by
  unfold Attempt.effect at hfind
  unfold dispatch dispatchAccepted
  rw [haccept]
  dsimp only
  rw [Action.effect_bind, hfind]
  dsimp only
  rw [Action.effect_note_bind, Action.effect_pure, Effect.after, List.append_nil]

/-- A delivery to a registered account is the lookup of its session and then its messages. -/
theorem effect_dispatch_registered {world : World σ} {settings : Settings} {body : Bytes}
    {accepted : Accepted} {s t : σ} {session : Session} {xs : List Exchange}
    (haccept : accept body = .ok accepted)
    (hfind : (findSession accepted.businessId).effect world s = ⟨.ok session, t, xs⟩) :
    (dispatch settings body).effect world s =
      let all := (deliverAll settings session accepted.businessId accepted.value []
        accepted.value.messages).effect world t
      ⟨⟨some accepted.businessId, all.result.1, all.result.2⟩, all.state, xs ++ all.exchanges⟩ := by
  unfold Attempt.effect at hfind
  unfold dispatch dispatchAccepted
  rw [haccept]
  dsimp only
  rw [Action.effect_bind, hfind]
  dsimp only
  rw [Action.effect_bind, Action.effect_note_bind, Action.effect_pure, Effect.after, Effect.after,
    List.append_nil]

/-- Its messages make a batch. -/
theorem dispatch_batch {world : World σ} (settings : Settings) {body : Bytes} {accepted : Accepted}
    {s t : σ} {session : Session} {xs : List Exchange} (haccept : accept body = .ok accepted)
    (hfind : (findSession accepted.businessId).effect world s = ⟨.ok session, t, xs⟩) :
    ∃ ids failure u ys,
      Batch world settings session accepted.value [] t accepted.value.messages
        (handlings world settings body s) ⟨(ids, failure), u, ys⟩ ∧
      (dispatch settings body).effect world s =
        ⟨⟨some accepted.businessId, ids, failure⟩, u, xs ++ ys⟩ := by
  have hbatch := deliverAll_batch world settings session accepted.businessId accepted.value
    accepted.value.messages [] t
  refine ⟨_, _, _, _, ?_, effect_dispatch_registered haccept hfind⟩
  simpa only [handlings, haccept, hfind] using hbatch

/-- All that a delivery can come to: either nothing but the lookup of the session is done, and the
delivery fails, or the messages are handled after it. -/
theorem dispatch_cases (world : World σ) (settings : Settings) (body : Bytes) (s : σ) :
    (handlings world settings body s = [] ∧
      ∃ businessId failure t xs, (dispatch settings body).effect world s =
        ⟨⟨businessId, [], some failure⟩, t, xs⟩ ∧ ∀ x ∈ xs, x.call.service = .store) ∨
    ∃ (accepted : Accepted) (session : Session) (t : σ) (xs : List Exchange) (ids : List MessageId)
      (failure : Option Failure) (u : σ) (ys : List Exchange),
      (findSession accepted.businessId).effect world s = ⟨.ok session, t, xs⟩ ∧
      Batch world settings session accepted.value [] t accepted.value.messages
        (handlings world settings body s) ⟨(ids, failure), u, ys⟩ ∧
      (dispatch settings body).effect world s =
        ⟨⟨some accepted.businessId, ids, failure⟩, u, xs ++ ys⟩ := by
  cases haccept : accept body with
  | error failure =>
    refine Or.inl ⟨by simp [handlings, haccept], none, failure, s, [], ?_, by simp⟩
    exact effect_dispatch_refused haccept s
  | ok accepted =>
    rcases hfind : (findSession accepted.businessId).effect world s with ⟨failure | session, t, xs⟩
    · refine Or.inl ⟨by simp [handlings, haccept, hfind], some accepted.businessId, failure, t, xs,
        effect_dispatch_unregistered haccept hfind, ?_⟩
      have hstore := findSession_store world accepted.businessId s
      rwa [hfind] at hstore
    · obtain ⟨ids, failure, u, ys, hbatch, hrun⟩ := dispatch_batch settings haccept hfind
      exact Or.inr ⟨accepted, session, t, xs, ids, failure, u, ys, hfind, hbatch, hrun⟩

/-- Whatever is asked of others than the store is asked for while a message is handled. -/
theorem handling_of_call {world : World σ} {settings : Settings} {body : Bytes} {s : σ}
    {x : Exchange} (hx : x ∈ ((dispatch settings body).effect world s).exchanges)
    (hservice : x.call.service ≠ .store) :
    ∃ h ∈ handlings world settings body s, x ∈ (h.effect world settings).exchanges := by
  rcases dispatch_cases world settings body s with
    ⟨-, businessId, failure, t, xs, hrun, hstore⟩ |
    ⟨accepted, session, t, xs, ids, failure, u, ys, hfind, hbatch, hrun⟩
  · rw [hrun] at hx
    exact absurd (hstore x hx) hservice
  · rw [hrun] at hx
    rcases List.mem_append.mp hx with hx | hx
    · rw [(findSession_ok hfind).2, List.mem_singleton] at hx
      rw [hx] at hservice
      exact absurd rfl hservice
    · have hys := hbatch.exchanges_eq
      dsimp only at hys
      rw [hys] at hx
      exact List.mem_flatMap.mp hx

/-! ## A delivery to try things with -/

/-- Settings under which a thousand bytes are the most that is relayed. -/
def trialSettings : Settings :=
  ⟨"", "v20.0", 30, "token", "", ⟨none, none, none, none, none, none, none⟩, 0, 1000, false⟩

/-- The body of a delivery to the account W1: the array of its messages, as they are written. -/
def trialBody (messages : String) : Bytes :=
  Bytes.ascii ("[\"\",[[\"W1\",[[\"\",[\"\",null,[]," ++ messages ++ "]]]]]]")

/-- A text, and an image from another sender. -/
def imageBody : Bytes :=
  trialBody "[[\"1\",\"a\",\"\",\"text\",[\"hi\"]],[\"2\",\"b\",\"\",\"image\",null,[\"MID\"]]]"

end RoomBridge.Delivery
