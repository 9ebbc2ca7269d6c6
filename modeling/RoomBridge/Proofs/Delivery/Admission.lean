import RoomBridge.Proofs.Delivery.Batch
import RoomBridge.Proofs.Requests

/-!
# Before the first message

A delivery is looked at before anything is done for it: its body, in four steps, and its account.
Until then nobody is asked but the session store, and that once at most; the first thing that is
wrong is what the delivery ends with.

* `Fault`, `Brings` : what can be wrong with a body, and what a body without fault brings;
* `effect_findSession` : the one lookup;
* `effect_dispatch_opening` : an account that is found, and then the first message;
* `dispatch_admission` : every delivery.
-/

namespace RoomBridge.Delivery

variable {σ : Type} {world : World σ} {settings : Settings} {body : Bytes} {businessId : String}
  {value : ChangeValue} {s t : σ}

/-! ## The body -/

/-- The first thing that is wrong with a body: it cannot be read, it has not one entry, its entry
has not one change, or its change has no messages. -/
inductive Fault (body : Bytes) : Failure → Prop
  | unreadable : Envelope.ofJson? body = none →
    Fault body (.malformedPayload "not a webhook envelope")
  | entries (envelope : Envelope) : Envelope.ofJson? body = some envelope →
    envelope.entries.length ≠ 1 → Fault body .multipleEntries
  | changes (object : String) (entry : Entry) :
    Envelope.ofJson? body = some ⟨object, [entry]⟩ →
    entry.changes.length ≠ 1 → Fault body .multipleChanges
  | messages (object businessId : String) (change : Change) :
    Envelope.ofJson? body = some ⟨object, [⟨businessId, [change]⟩]⟩ →
    change.value.messages = [] → Fault body .noMessages

/-- A body brings messages to an account: one entry, of that one change, with messages. -/
def Brings (body : Bytes) (businessId : String) (value : ChangeValue) : Prop :=
  ∃ object field, Envelope.ofJson? body = some ⟨object, [⟨businessId, [⟨field, value⟩]⟩]⟩ ∧
    value.messages ≠ []

theorem Fault.accept_eq {failure : Failure} (h : Fault body failure) :
    accept body = .error failure := by
  unfold accept
  cases h with
  | unreadable hread => rw [hread]
  | entries envelope hread hcount =>
    rw [hread]
    dsimp only
    unfold acceptEnvelope
    split
    · next entry hentries =>
      rw [hentries] at hcount
      exact absurd rfl hcount
    · rfl
  | changes object entry hread hcount =>
    rw [hread]
    dsimp only [acceptEnvelope]
    split
    · next change hchanges =>
      rw [hchanges] at hcount
      exact absurd rfl hcount
    · rfl
  | messages object businessId change hread hnone =>
    rw [hread]
    dsimp only [acceptEnvelope]
    rw [hnone]
    rfl

theorem Brings.accept_eq (h : Brings body businessId value) :
    accept body = .ok ⟨businessId, value⟩ := by
  obtain ⟨object, field, hread, hsome⟩ := h
  have hmessages : value.messages.isEmpty = false := by simpa using hsome
  unfold accept
  rw [hread]
  dsimp only [acceptEnvelope]
  rw [hmessages]
  rfl

/-- A body has a fault or it brings messages. -/
theorem fault_or_brings (body : Bytes) :
    (∃ failure, Fault body failure) ∨ ∃ businessId value, Brings body businessId value := by
  cases hread : Envelope.ofJson? body with
  | none => exact Or.inl ⟨_, .unreadable hread⟩
  | some envelope =>
    by_cases hentries : envelope.entries.length = 1
    · obtain ⟨object, entries⟩ := envelope
      obtain ⟨⟨businessId, changes⟩, rfl⟩ := List.length_eq_one_iff.mp hentries
      by_cases hchanges : changes.length = 1
      · obtain ⟨⟨field, value⟩, rfl⟩ := List.length_eq_one_iff.mp hchanges
        by_cases hmessages : value.messages = []
        · exact Or.inl ⟨_, .messages object businessId ⟨field, value⟩ hread hmessages⟩
        · exact Or.inr ⟨businessId, value, object, field, hread, hmessages⟩
      · exact Or.inl ⟨_, .changes object ⟨businessId, changes⟩ hread hchanges⟩
    · exact Or.inl ⟨_, .entries envelope hread hentries⟩

/-- What is accepted is what the body brings. -/
theorem brings_of_accept {accepted : Accepted} (h : accept body = .ok accepted) :
    Brings body accepted.businessId accepted.value := by
  rcases fault_or_brings body with ⟨failure, hfault⟩ | ⟨businessId, value, hbrings⟩
  · rw [hfault.accept_eq] at h
    cases h
  · rw [hbrings.accept_eq] at h
    cases h
    exact hbrings

/-- What is read in a body that is accepted is in what it brings. -/
theorem brings_of_read {β : Type} (read : ChangeValue → β) {found : β}
    (h : (accept body).toOption.map (fun a => (a.businessId, read a.value)) =
      some (businessId, found)) :
    ∃ value, Brings body businessId value ∧ read value = found := by
  cases haccept : accept body with
  | error failure => simp [haccept, Except.toOption] at h
  | ok accepted =>
    simp only [haccept, Except.toOption, Option.map_some, Option.some.injEq, Prod.mk.injEq] at h
    obtain ⟨rfl, hread⟩ := h
    exact ⟨accepted.value, brings_of_accept haccept, hread⟩

/-! ## The account -/

/-- The session that a lookup has found for an account; none is a failure. -/
def registered (businessId : String) : Option Session → Except Failure Session
  | some session => .ok session
  | none => .error (.unregisteredAccount businessId)

/-- A blank account is not looked up. -/
theorem effect_findSession_blank (h : Text.blank businessId = true) (s : σ) :
    (findSession businessId).effect world s =
      ⟨.error (.unregisteredAccount businessId), s, []⟩ := by
  unfold findSession
  rw [if_pos h, Attempt.effect_throw]

/-- Any other is looked up once. -/
theorem effect_findSession (h : Text.blank businessId = false)
    {reply : Except Failure (Option Session)}
    (hreply : world.answer (.findSession .businessId businessId) s = (reply, t)) :
    (findSession businessId).effect world s =
      ⟨reply.bind (registered businessId), t, [⟨.findSession .businessId businessId, reply⟩]⟩ := by
  have hasked : (Attempt.ask (.findSession .businessId businessId)).effect world s =
      ⟨reply, t, [⟨.findSession .businessId businessId, reply⟩]⟩ := by
    rw [Attempt.effect_ask, hreply]
  unfold findSession
  rw [if_neg (Bool.eq_false_iff.mp h), Attempt.effect_bind, hasked]
  rcases reply with failure | _ | session
  · rfl
  · rfl
  · rfl

/-- A delivery for an account that is found begins with its first message: what is asked for while
that is handled comes right after the lookup, and its id is the first or its failure the only one. -/
theorem effect_dispatch_opening {session : Session} {xs : List Exchange} {m : CloudMessage}
    {ms : List CloudMessage} (hbrings : Brings body businessId value)
    (hfind : (findSession businessId).effect world s = ⟨.ok session, t, xs⟩)
    (hmessages : value.messages = m :: ms) :
    let run := (dispatch settings body).effect world s
    let first := (deliverMessage settings session value [] m).effect world t
    (∃ rest, run.exchanges = xs ++ first.exchanges ++ rest) ∧
      match first.result with
      | .error failure => run.result = ⟨some businessId, [], some failure⟩
      | .ok (id, _) => run.result.businessId = some businessId ∧ run.result.queued.head? = some id := by
  intro run first
  have hrun : run = _ := effect_dispatch_registered hbrings.accept_eq hfind
  dsimp only at hrun
  rw [hmessages] at hrun
  rcases hfirst : (deliverMessage settings session value [] m).effect world t with
    ⟨failure | ⟨id, known⟩, u, ys⟩
  · rw [effect_deliverAll_stopped hfirst] at hrun
    simp only [first, hfirst, hrun]
    exact ⟨⟨[], (List.append_nil _).symm⟩, trivial⟩
  · rw [effect_deliverAll_next hfirst] at hrun
    simp only [first, hfirst, hrun]
    exact ⟨⟨_, (List.append_assoc _ _ _).symm⟩, trivial, rfl⟩

/-! ## Every delivery -/

/-- A delivery for an account reports it. -/
theorem businessId_of_brings (h : Brings body businessId value) (world : World σ)
    (settings : Settings) (s : σ) :
    ((dispatch settings body).effect world s).result.businessId = some businessId := by
  rcases hfind : (findSession businessId).effect world s with ⟨failure | session, t, xs⟩
  · rw [effect_dispatch_unregistered h.accept_eq hfind]
  · rw [effect_dispatch_registered h.accept_eq hfind]

/-- An account is reported just for the bodies that bring messages to one. -/
theorem businessId_isSome_iff (world : World σ) (settings : Settings) (body : Bytes) (s : σ) :
    ((dispatch settings body).effect world s).result.businessId.isSome = true ↔
      ∃ businessId value, Brings body businessId value := by
  rcases fault_or_brings body with ⟨failure, hfault⟩ | ⟨businessId, value, hbrings⟩
  · rw [effect_dispatch_refused hfault.accept_eq]
    constructor
    · exact nofun
    · rintro ⟨businessId, value, hbrings⟩
      have haccept := hfault.accept_eq
      rw [hbrings.accept_eq] at haccept
      cases haccept
  · rw [businessId_of_brings hbrings]
    exact ⟨fun _ => ⟨businessId, value, hbrings⟩, fun _ => rfl⟩

/-- A delivery leaves the session table as it is. -/
theorem dispatch_table_eq (around : Surroundings σ) (settings : Settings) (body : Bytes)
    (p : σ × SessionTable) : ((dispatch settings body).effect around.world p).state.2 = p.2 :=
  ((dispatch_asks settings body).mono fun _ h => h.keepsTable).table_eq around p

/-- **Nothing is done before the body is accepted and its account is found.** A delivery whose body
has a fault ends with the first one, without any call and without an account. Otherwise the account
is reported. If that is blank nothing is asked either; if not, its session is looked up, and the
delivery ends with the failure of the lookup or because nothing was found, with no other call made.
If there is a session, the first message is handled. The sessions stay as they are in any case. -/
theorem dispatch_admission (world : World σ) (settings : Settings) (body : Bytes) (s : σ) :
    let run := (dispatch settings body).effect world s
    ((∃ failure, Fault body failure) ∨ ∃ businessId value, Brings body businessId value) ∧
    (run.result.businessId.isSome ↔ ∃ businessId value, Brings body businessId value) ∧
    (∀ failure, Fault body failure → run = ⟨⟨none, [], some failure⟩, s, []⟩) ∧
    (∀ businessId value, Brings body businessId value →
      run.result.businessId = some businessId ∧
      let lookup : Call := .findSession .businessId businessId
      if Text.blank businessId = true then
        run = ⟨⟨some businessId, [], some (.unregisteredAccount businessId)⟩, s, []⟩
      else match world.answer lookup s with
        | (.error failure, t) =>
          run = ⟨⟨some businessId, [], some failure⟩, t, [⟨lookup, .error failure⟩]⟩
        | (.ok none, t) =>
          run = ⟨⟨some businessId, [], some (.unregisteredAccount businessId)⟩, t,
            [⟨lookup, .ok none⟩]⟩
        | (.ok (some session), t) => ∃ m ms, value.messages = m :: ms ∧
          let first := (deliverMessage settings session value [] m).effect world t
          (∃ rest, run.exchanges = [⟨lookup, .ok (some session)⟩] ++ first.exchanges ++ rest) ∧
          match first.result with
          | .error failure => run.result = ⟨some businessId, [], some failure⟩
          | .ok (id, _) =>
            run.result.businessId = some businessId ∧ run.result.queued.head? = some id) ∧
    ∀ (τ : Type) (around : Surroundings τ) (p : τ × SessionTable),
      ((dispatch settings body).effect around.world p).state.2 = p.2 := by
  intro run
  refine ⟨fault_or_brings body, businessId_isSome_iff world settings body s, ?_, ?_,
    fun τ around => dispatch_table_eq around settings body⟩
  · intro failure hfault
    exact effect_dispatch_refused hfault.accept_eq s
  · intro businessId value hbrings
    have hsome : value.messages ≠ [] := by
      obtain ⟨-, -, -, hsome⟩ := hbrings
      exact hsome
    obtain ⟨m, ms, hmessages⟩ := List.exists_cons_of_ne_nil hsome
    refine ⟨businessId_of_brings hbrings world settings s, ?_⟩
    dsimp only
    by_cases hblank : Text.blank businessId = true
    · rw [if_pos hblank]
      exact effect_dispatch_unregistered hbrings.accept_eq (effect_findSession_blank hblank s)
    · rw [if_neg hblank]
      rcases hreply : world.answer (.findSession .businessId businessId) s with
        ⟨failure | _ | session, t⟩
      all_goals have hfind := effect_findSession (Bool.eq_false_iff.mpr hblank) hreply
      · exact effect_dispatch_unregistered hbrings.accept_eq hfind
      · exact effect_dispatch_unregistered hbrings.accept_eq hfind
      · exact ⟨m, ms, hmessages, effect_dispatch_opening hbrings hfind hmessages⟩

end RoomBridge.Delivery
