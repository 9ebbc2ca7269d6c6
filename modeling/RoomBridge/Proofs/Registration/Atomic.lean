import RoomBridge.Proofs.Registration.Outcome

/-!
# A registration happens as a whole or not at all

Between the insertion of a session and its binding a registration can fail. The session is then
removed again, by its account alone; that nothing else goes with it is due to the insertion, which
found no other session of that account.

* `Settled.bound_eq_inserted`, `Settled.removed_eq` : what a registration asks of the services;
* `Settled.table_of_active`, `Settled.table_of_rejected` : what it leaves in the table;
* `register_atomic` : the two together, for every registration.
-/

namespace RoomBridge

/-! ## What an exchange did with a session -/

namespace Exchange

/-- The session that an insertion has stored. -/
def inserted? : Exchange → Option Session
  | ⟨.insertSession _, .ok session⟩ => some session
  | _ => none

/-- The session that was to be bound. -/
def bound? : Exchange → Option Session
  | ⟨.bind session, _⟩ => some session
  | _ => none

/-- The session that could not be bound. -/
def unbound? : Exchange → Option Session
  | ⟨.bind session, .error _⟩ => some session
  | _ => none

/-- The account whose session was to be removed. -/
def removed? : Exchange → Option String
  | ⟨.removeSession businessId, _⟩ => some businessId
  | _ => none

end Exchange

namespace Registration

variable {identity : String} {request : RegistrationRequest} {table after : SessionTable}
  {xs : List Exchange} {r : Registration}

/-- Lookups do nothing with a session. -/
theorem Lookups.filterMap_eq_nil {β : Type} {f : Exchange → Option β} (h : Lookups xs)
    (hf : ∀ key value reply, f ⟨.findSession key value, reply⟩ = none) : xs.filterMap f = [] := by
  rw [List.filterMap_eq_nil_iff]
  rintro ⟨c, reply⟩ hx
  obtain ⟨key, value, rfl⟩ := h _ hx
  exact hf key value reply

namespace Settled

/-! ## What was asked for -/

/-- At most the session of the request is stored. -/
theorem inserted_eq (h : Settled identity request table xs r after) :
    xs.filterMap Exchange.inserted? = [] ∨
      xs.filterMap Exchange.inserted? = [request.session identity] := by
  cases h with
  | refused reason asked hasked => exact .inl (hasked.filterMap_eq_nil fun _ _ _ => rfl)
  | unstored reason asked hasked =>
    rw [List.filterMap_append, hasked.filterMap_eq_nil fun _ _ _ => rfl]
    exact .inl rfl
  | dropped reason asked hasked | stranded reason removal asked hasked | active asked hasked =>
    rw [List.filterMap_append, hasked.filterMap_eq_nil fun _ _ _ => rfl]
    exact .inr rfl

/-- What is stored is bound, once, and nothing else is. -/
theorem bound_eq_inserted (h : Settled identity request table xs r after) :
    xs.filterMap Exchange.bound? = xs.filterMap Exchange.inserted? := by
  cases h with
  | refused reason asked hasked =>
    rw [hasked.filterMap_eq_nil fun _ _ _ => rfl, hasked.filterMap_eq_nil fun _ _ _ => rfl]
  | unstored reason asked hasked | dropped reason asked hasked
  | stranded reason removal asked hasked | active asked hasked =>
    rw [List.filterMap_append, List.filterMap_append, hasked.filterMap_eq_nil fun _ _ _ => rfl,
      hasked.filterMap_eq_nil fun _ _ _ => rfl]
    rfl

/-- What could not be bound is removed, once, and nothing else is. -/
theorem removed_eq (h : Settled identity request table xs r after) :
    xs.filterMap Exchange.removed? = (xs.filterMap Exchange.unbound?).map (·.businessId) := by
  cases h with
  | refused reason asked hasked =>
    rw [hasked.filterMap_eq_nil fun _ _ _ => rfl, hasked.filterMap_eq_nil fun _ _ _ => rfl]
    rfl
  | unstored reason asked hasked | dropped reason asked hasked
  | stranded reason removal asked hasked | active asked hasked =>
    rw [List.filterMap_append, List.filterMap_append, hasked.filterMap_eq_nil fun _ _ _ => rfl,
      hasked.filterMap_eq_nil fun _ _ _ => rfl]
    rfl

/-! ## How it ended -/

/-- A registration is active with a session, or rejected without one. -/
theorem state_cases (h : Settled identity request table xs r after) :
    (r.state = .active ∧ ∃ session, r.session = some session) ∨
      (∃ reason, r.state = .rejected reason) ∧ r.session = none := by
  cases h with
  | active asked hasked => exact .inl ⟨rfl, _, rfl⟩
  | refused reason asked hasked | unstored reason asked hasked | dropped reason asked hasked
  | stranded reason removal asked hasked => exact .inr ⟨⟨_, rfl⟩, rfl⟩

/-- An active registration has added its session to the table, as the last. -/
theorem table_of_active (h : Settled identity request table xs r after) (hr : r.state = .active) :
    ∃ session, r.session = some session ∧ after = ⟨table.sessions ++ [session]⟩ := by
  cases h with
  | active asked hasked => exact ⟨_, rfl, rfl⟩
  | refused reason asked hasked | unstored reason asked hasked | dropped reason asked hasked
  | stranded reason removal asked hasked => cases hr

/-- A rejected registration leaves the table as it was, unless the session could not be removed. -/
theorem table_of_rejected (h : Settled identity request table xs r after) {reason : Failure}
    (hr : r.state = .rejected reason)
    (hremoved : ∀ businessId e, ⟨.removeSession businessId, .error e⟩ ∉ xs) : after = table := by
  cases h with
  | active asked hasked => cases hr
  | refused e asked hasked | unstored e asked hasked | dropped e asked hasked => rfl
  | stranded e removal asked hasked =>
    exact absurd (by simp) (hremoved (request.session identity).businessId removal)

end Settled

/-! ## Every registration -/

/-- The result is the session of an active registration. -/
theorem result_eq_ok_iff (r : Registration) (session : Session) :
    r.result = .ok session ↔ r.state = .active ∧ r.session = some session := by
  obtain ⟨identity, state, stored⟩ := r
  cases state <;> cases stored <;> simp [result]

/-- **A registration is atomic.** Whatever the table holds and whatever the services do, it ends
active with a session, which is its result, or rejected without one. A session is bound once if it
was stored, and removed once if it could not be bound. An active registration has added its session
to the table; a rejected one leaves the table as it was, unless a removal failed. -/
theorem register_atomic {σ : Type} (around : Surroundings σ) (identity : String)
    (request : RegistrationRequest) (s : σ) (table : SessionTable) :
    let run := (register identity request).effect around.world (s, table)
    let r := run.result
    let inserted := run.exchanges.filterMap Exchange.inserted?
    (r.state = .active ∨ ∃ reason, r.state = .rejected reason) ∧
    (r.session.isSome ↔ r.state = .active) ∧
    (∀ session, r.result = .ok session ↔ r.state = .active ∧ r.session = some session) ∧
    (inserted = [] ∨ inserted = [request.session identity]) ∧
    run.exchanges.filterMap Exchange.bound? = inserted ∧
    run.exchanges.filterMap Exchange.removed? =
      (run.exchanges.filterMap Exchange.unbound?).map (·.businessId) ∧
    (r.state = .active →
      ∃ session, r.session = some session ∧ run.state.2 = ⟨table.sessions ++ [session]⟩) ∧
    ((∃ reason, r.state = .rejected reason) →
      (∀ businessId e, ⟨.removeSession businessId, .error e⟩ ∉ run.exchanges) →
      run.state.2 = table) := by
  obtain ⟨r, t, after, xs, hrun, hsettled⟩ := register_settled around identity request s table
  dsimp only
  rw [hrun]
  refine ⟨?_, ?_, result_eq_ok_iff r, hsettled.inserted_eq, hsettled.bound_eq_inserted,
    hsettled.removed_eq, hsettled.table_of_active, ?_⟩
  · exact hsettled.state_cases.imp (·.1) (·.1)
  · rcases hsettled.state_cases with ⟨hactive, session, hsession⟩ | ⟨⟨reason, hrejected⟩, hnone⟩
    · simp [hactive, hsession]
    · simp [hrejected, hnone]
  · rintro ⟨reason, hrejected⟩ hremoved
    exact hsettled.table_of_rejected hrejected hremoved

end Registration

end RoomBridge
