import RoomBridge.Proofs.Registration.Atomic
import RoomBridge.Proofs.Registration.Sound

/-!
# Registrations that race

Between the lookups of a registration and its insertion others may register, so a lookup may miss
what the insertion then runs into. That changes nothing but the words of the rejection: lookups and
insertion compare the same keys, and whichever finds one taken, the request is already registered.

* `Surroundings.missing` : the store obeys, but for lookups that miss what is there;
* `register_free` : where no key is taken, there is nothing to miss;
* `register_taken` : where one is, the registration is rejected for it, by a lookup or the insertion;
* `register_race` : the two together.
-/

namespace RoomBridge

/-! ## The same end -/

/-- Two failures of one kind, whatever they say. -/
def Failure.SameKind (e f : Failure) : Prop := e.ctorIdx = f.ctorIdx

/-- Two registrations are over, and have ended alike: active, or rejected for one kind of reason. -/
inductive RegistrationState.SameEnd : RegistrationState → RegistrationState → Prop
  | active : SameEnd .active .active
  | rejected {e f : Failure} : e.SameKind f → SameEnd (.rejected e) (.rejected f)

/-! ## Lookups that miss -/

/-- The surroundings as they are, but that the store obeys lookups and insertions, except for the
lookups that miss what is there. Which do may depend on everything before. -/
def Surroundings.missing {σ : Type} (around : Surroundings σ) (missed : SessionKey → σ → Bool) :
    Surroundings σ where
  answer := around.answer
  verdict
    | .findSession key value, s =>
      (if missed key s then .stale else .obey, (around.verdict (.findSession key value) s).2)
    | .insertSession session, s => (.obey, (around.verdict (.insertSession session) s).2)
    | c, s => around.verdict c s
  isCancelled := around.isCancelled

variable {σ : Type} {around : Surroundings σ} {missed other : SessionKey → σ → Bool}

/-- Which lookups miss is of no account to other calls. -/
theorem Surroundings.missing_agrees (around : Surroundings σ)
    (missed other : SessionKey → σ → Bool) :
    (around.missing missed).world.AgreesOn (fun c => ∀ key value, c ≠ .findSession key value)
      (around.missing other).world where
  isCancelled := rfl
  answer c s h := by
    cases c with
    | findSession key value => exact absurd rfl (h key value)
    | _ => rfl

/-- A lookup finds what is there, or misses it. -/
theorem Surroundings.answer_find_missing {key : SessionKey} {value : String}
    (hblank : Text.blank value = false) (s : σ) (table : SessionTable) :
    (around.missing missed).world.answer (.findSession key value) (s, table) =
      (.ok (if missed key s then none else table.sessions.find? fun e => e.key key = value),
        ((around.verdict (.findSession key value) s).2, table)) := by
  change (table.findUnder (if missed key s then .stale else .obey) key value, _) = _
  cases missed key s with
  | true => rfl
  | false =>
    change (table.find? key value, _) = _
    rw [SessionTable.find?, if_neg (Bool.eq_false_iff.mp hblank)]
    rfl

/-- The insertion of a session with a key that is taken runs into it. -/
theorem Surroundings.answer_insert_missing {table : SessionTable} {session : Session}
    {key : SessionKey} (htaken : table.conflict? session = some key) (s : σ) :
    (around.missing missed).world.answer (.insertSession session) (s, table) =
      (.error (.uniqueViolation (key.label ++ " " ++ session.key key)),
        ((around.verdict (.insertSession session) s).2, table)) := by
  have hinsert : table.insertUnder .obey session =
      (.error (.uniqueViolation (key.label ++ " " ++ session.key key)), table) := by
    unfold SessionTable.insertUnder SessionTable.insert
    rw [htaken]
  change ((table.insertUnder .obey session).1, ((around.verdict (.insertSession session) s).2,
    (table.insertUnder .obey session).2)) = _
  rw [hinsert]

namespace Registration

variable {identity : String} {request : RegistrationRequest}

/-- No key of a request that passes the checks is blank. -/
theorem key_not_blank (h : request.check identity = .ok ()) (key : SessionKey) :
    Text.blank ((request.session identity).key key) = false := by
  have hsound := RegistrationRequest.session_sound h
  cases key with
  | businessId => exact hsound.businessId.blank_eq
  | phoneId => exact hsound.phoneId.blank_eq
  | bridgeIdentity => exact hsound.bridgeIdentity

/-! ## The lookups -/

/-- The keys looked for are those that the session will have. -/
theorem checkTaken_eq (identity : String) (request : RegistrationRequest) :
    ∃ bound account phone,
      let keyOf := (request.session identity).key
      checkTaken identity request = (do
        checkFree .bridgeIdentity (keyOf .bridgeIdentity) bound
        checkFree .businessId (keyOf .businessId) account
        checkFree .phoneId (keyOf .phoneId) phone) :=
  ⟨_, _, _, rfl⟩

/-- Looking for a key comes to nothing, or finds it taken. -/
theorem effect_checkFree {key : SessionKey} {value : String} {what : Session → String}
    (hblank : Text.blank value = false) (s : σ) (table : SessionTable) :
    let found := if missed key s then none else table.sessions.find? fun e => e.key key = value
    (checkFree key value what).effect (around.missing missed).world (s, table) =
      ⟨match found with | some e => .error (.alreadyRegistered (what e)) | none => .ok (),
        ((around.verdict (.findSession key value) s).2, table),
        [⟨.findSession key value, .ok found⟩]⟩ := by
  intro found
  have hanswer : (around.missing missed).world.answer (.findSession key value) (s, table) =
      (.ok found, ((around.verdict (.findSession key value) s).2, table)) :=
    Surroundings.answer_find_missing hblank s table
  unfold checkFree
  rw [Attempt.effect_bind, Attempt.effect_ask, hanswer]
  cases found with
  | none => rfl
  | some e => rfl

/-- A free key is found by no lookup, so that none can miss it. -/
theorem effect_checkFree_free {key : SessionKey} {value : String} {what : Session → String}
    {table : SessionTable} (hblank : Text.blank value = false)
    (hfree : ∀ e ∈ table.sessions, e.key key ≠ value) (s : σ) :
    (checkFree key value what).effect (around.missing missed).world (s, table) =
      ⟨.ok (), ((around.verdict (.findSession key value) s).2, table),
        [⟨.findSession key value, .ok none⟩]⟩ := by
  have hnone : table.sessions.find? (fun e => e.key key = value) = none := by
    rw [List.find?_eq_none]
    simpa using hfree
  rw [effect_checkFree hblank, hnone]
  simp only [ite_self]

/-- Where no key is taken the lookups come to the same whatever they miss. -/
theorem effect_checkTaken_free (around : Surroundings σ) {table : SessionTable}
    (hcheck : request.check identity = .ok ())
    (hfree : table.conflict? (request.session identity) = none) (s : σ) :
    ∃ t asked, ∀ missed, (checkTaken identity request).effect (around.missing missed).world
      (s, table) = ⟨.ok (), (t, table), asked⟩ := by
  have hapart := (SessionTable.conflict?_eq_none_iff table _).mp hfree
  have hkey : ∀ key what missed s, (checkFree key ((request.session identity).key key) what).effect
      (around.missing missed).world (s, table) = _ := fun key what missed s =>
    effect_checkFree_free (key_not_blank hcheck key) (fun e he => hapart e he key) s
  let after (key : SessionKey) (s : σ) : σ :=
    (around.verdict (.findSession key ((request.session identity).key key)) s).2
  let asked (key : SessionKey) : Exchange :=
    ⟨.findSession key ((request.session identity).key key), .ok none⟩
  refine ⟨after .phoneId (after .businessId (after .bridgeIdentity s)),
    [asked .bridgeIdentity, asked .businessId, asked .phoneId], fun missed => ?_⟩
  obtain ⟨bound, account, phone, hlookups⟩ := checkTaken_eq identity request
  rw [hlookups, Attempt.effect_bind, hkey .bridgeIdentity]
  dsimp only
  rw [Attempt.effect_bind, hkey .businessId]
  dsimp only
  rw [hkey .phoneId]
  rfl

/-- Lookups fail only because a key is taken. -/
theorem checkTaken_error {p q : σ × SessionTable} {failure : Failure} {xs : List Exchange}
    (hcheck : request.check identity = .ok ())
    (h : (checkTaken identity request).effect (around.missing missed).world p =
      ⟨.error failure, q, xs⟩) : ∃ what, failure = .alreadyRegistered what := by
  have hkey : ∀ {key what p q xs}, (checkFree key ((request.session identity).key key) what).effect
      (around.missing missed).world p = ⟨.error failure, q, xs⟩ →
        ∃ what, failure = .alreadyRegistered what := by
    intro key what p q xs hfailed
    rw [effect_checkFree (key_not_blank hcheck key) p.1 p.2, Effect.mk.injEq] at hfailed
    obtain ⟨hresult, -, -⟩ := hfailed
    split at hresult
    · cases hresult
      exact ⟨_, rfl⟩
    · cases hresult
  obtain ⟨bound, account, phone, hlookups⟩ := checkTaken_eq identity request
  rw [hlookups] at h
  rcases Attempt.effect_bind_error h with hidentity | ⟨_, _, _, _, -, hrest, -⟩
  · exact hkey hidentity
  rcases Attempt.effect_bind_error hrest with hbusiness | ⟨_, _, _, _, -, hphone, -⟩
  · exact hkey hbusiness
  · exact hkey hphone

/-! ## Registrations -/

/-- Where no key is taken a registration comes to the same whatever its lookups miss. -/
theorem register_free {table : SessionTable} (hcheck : request.check identity = .ok ())
    (hfree : table.conflict? (request.session identity) = none) (s : σ) :
    (register identity request).effect (around.missing missed).world (s, table) =
      (register identity request).effect (around.missing other).world (s, table) := by
  obtain ⟨t, asked, htaken⟩ := effect_checkTaken_free around hcheck hfree s
  rw [effect_register_free hcheck (htaken missed), effect_register_free hcheck (htaken other)]
  -- After the lookups both runs are in the same state, and ask for nothing that could be missed.
  have hasks : (store ⟨identity, .validated, none⟩ request).Asks
      fun c => ∀ key value, c ≠ .findSession key value :=
    store_asks (fun _ => nofun) (fun _ => nofun) (fun _ => nofun) _ request
  have hstore := Action.effect_congr (Surroundings.missing_agrees around other missed) _ (t, table)
    (hasks.mem_exchanges (around.missing other).world (t, table))
  rw [hstore]

/-- A session with a key that is taken is not stored, and its request is already registered. -/
theorem effect_store_taken (around : Surroundings σ) (missed : SessionKey → σ → Bool)
    {table : SessionTable} {key : SessionKey}
    (htaken : table.conflict? (request.session identity) = some key) (s : σ) :
    let session := request.session identity
    let what := key.label ++ " " ++ session.key key
    (store ⟨identity, .validated, none⟩ request).effect (around.missing missed).world (s, table) =
      ⟨⟨identity, .rejected (.alreadyRegistered what), none⟩,
        ((around.verdict (.insertSession session) s).2, table),
        [⟨.insertSession session, .error (.uniqueViolation what)⟩]⟩ := by
  unfold store
  rw [Action.effect_bind, Action.effect_ask, Surroundings.answer_insert_missing htaken]
  rfl

/-- Where a key is taken a registration is rejected as already registered, nothing is bound, and the
table stays as it is. -/
theorem register_taken (around : Surroundings σ) (missed : SessionKey → σ → Bool)
    {table : SessionTable} {key : SessionKey} (hcheck : request.check identity = .ok ())
    (htaken : table.conflict? (request.session identity) = some key) (s : σ) :
    ∃ what t xs, (register identity request).effect (around.missing missed).world (s, table) =
      ⟨⟨identity, .rejected (.alreadyRegistered what), none⟩, (t, table), xs⟩ ∧
      xs.filterMap Exchange.bound? = [] := by
  obtain ⟨found, t, asked, hrun, hlookups⟩ :=
    checkTaken_lookups (around.missing missed) identity request s table
  have hasked : asked.filterMap Exchange.bound? = [] := hlookups.filterMap_eq_nil fun _ _ _ => rfl
  cases found with
  | error failure =>
    obtain ⟨what, rfl⟩ := checkTaken_error hcheck hrun
    exact ⟨what, t, asked, effect_register_taken hcheck hrun, hasked⟩
  | ok _ =>
    -- The lookups have missed it, and the insertion runs into it.
    have hstore := effect_store_taken around missed htaken t
    have hregister := effect_register_free hcheck hrun
    rw [hstore, Effect.after] at hregister
    refine ⟨_, _, _, hregister, ?_⟩
    rw [List.filterMap_append, hasked]
    rfl

/-- A registration that is over has ended like itself. -/
theorem Settled.sameEnd {table after : SessionTable} {xs : List Exchange} {r : Registration}
    (h : Settled identity request table xs r after) : r.state.SameEnd r.state := by
  rcases h.state_cases with ⟨hactive, -⟩ | ⟨⟨reason, hrejected⟩, -⟩
  · rw [hactive]
    exact .active
  · rw [hrejected]
    exact .rejected rfl

/-- **A registration that races ends as one that does not.** Whatever the table holds, whichever of
the lookups miss what is there, and whatever becomes of the binding: the registration ends active,
or rejected for the same kind of reason, with the same session, the same session bound and the same
table as if no lookup had missed anything. In particular a key that is taken is reported as already
registered, also where the lookups have missed it. -/
theorem register_race (around : Surroundings σ) (missed : SessionKey → σ → Bool)
    (identity : String) (request : RegistrationRequest) (s : σ) (table : SessionTable) :
    let raced := (register identity request).effect (around.missing missed).world (s, table)
    let fresh := (register identity request).effect
      (around.missing fun _ _ => false).world (s, table)
    raced.result.state.SameEnd fresh.result.state ∧
    raced.result.session = fresh.result.session ∧
    raced.exchanges.filterMap Exchange.bound? = fresh.exchanges.filterMap Exchange.bound? ∧
    raced.state.2 = fresh.state.2 ∧
    (request.check identity = .ok () →
      (∃ e ∈ table.sessions, ∃ key, e.key key = (request.session identity).key key) →
      ∃ what, raced.result.state = .rejected (.alreadyRegistered what)) := by
  intro raced fresh
  have hsame : raced = fresh → raced.result.state.SameEnd fresh.result.state := by
    intro h
    obtain ⟨r, t, after, xs, hrun, hsettled⟩ :=
      register_settled (around.missing missed) identity request s table
    rw [← h, show raced = _ from hrun]
    exact hsettled.sameEnd
  cases hcheck : request.check identity with
  | error failure =>
    have heq : raced = fresh :=
      (effect_register_unchecked hcheck _).trans (effect_register_unchecked hcheck _).symm
    refine ⟨hsame heq, ?_, ?_, ?_, nofun⟩
    all_goals rw [heq]
  | ok _ =>
    cases hconflict : table.conflict? (request.session identity) with
    | none =>
      have heq : raced = fresh := register_free hcheck hconflict s
      refine ⟨hsame heq, by rw [heq], by rw [heq], by rw [heq], ?_⟩
      rintro - ⟨e, he, key, hkey⟩
      exact absurd hkey ((SessionTable.conflict?_eq_none_iff table _).mp hconflict e he key)
    | some key =>
      obtain ⟨what, t, xs, hraced, hbound⟩ :=
        register_taken around missed hcheck hconflict s
      obtain ⟨what', t', xs', hfresh, hbound'⟩ :=
        register_taken around (fun _ _ => false) hcheck hconflict s
      rw [show raced = _ from hraced, show fresh = _ from hfresh]
      exact ⟨.rejected rfl, rfl, hbound.trans hbound'.symm, rfl, fun _ _ => ⟨what, rfl⟩⟩

/-- A phone that is taken, under another account and identity, and written with a blank. -/
theorem register_race_missed :
    let taken : Session := ⟨"W1", "P1", "token", "App", "@agent", none⟩
    let request : RegistrationRequest := ⟨"App", "W2", " P1", "token", none⟩
    let around := (Surroundings.answering .obey).missing fun _ _ => true
    request.check "@other" = .ok () ∧
      ∃ what, ((register "@other" request).effect around.world ((), ⟨[taken]⟩)).result.state =
        .rejected (.alreadyRegistered what) := by
  intro taken request around
  have hcheck : request.check "@other" = .ok () := by decide +kernel
  have hphone : taken.key .phoneId = (request.session "@other").key .phoneId := by decide +kernel
  obtain ⟨-, -, -, -, hreported⟩ := register_race (.answering .obey) (fun _ _ => true) "@other"
    request () ⟨[taken]⟩
  exact ⟨hcheck, hreported hcheck ⟨taken, List.mem_singleton_self _, .phoneId, hphone⟩⟩

end Registration

end RoomBridge
