import RoomBridge.Proofs.Requests

/-!
# What a registration comes to

A registration in a world with a session table: what it asks for, how it ends, and what the table is
then. Whatever the lookups miss, a session is only taken in where none of its keys is taken.

* `SessionTable.insertUnder_cases`, `SessionTable.removeUnder_cases` : the table under a verdict;
* `Settled` : the five ends of a registration;
* `register_settled` : there is no other.
-/

namespace RoomBridge

/-! ## The table -/

namespace SessionTable

/-- A session is not taken in and the table stays, or no key of it is taken and it comes last. -/
theorem insertUnder_cases (table : SessionTable) (verdict : StoreVerdict) (session : Session) :
    (∃ e, table.insertUnder verdict session = (.error e, table)) ∨
      table.conflict? session = none ∧
        table.insertUnder verdict session = (.ok session, ⟨table.sessions ++ [session]⟩) := by
  unfold insertUnder
  split
  · exact Or.inl ⟨_, rfl⟩
  · split
    · rename_i next hinsert
      obtain ⟨hfree, rfl⟩ := (insert_eq_ok_iff table next session).mp hinsert
      exact Or.inr ⟨hfree, rfl⟩
    · exact Or.inl ⟨_, rfl⟩

/-- A removal fails and the table stays, or the sessions of the account are gone. -/
theorem removeUnder_cases (table : SessionTable) (verdict : StoreVerdict) (businessId : String) :
    (∃ e, table.removeUnder verdict businessId = (.error e, table)) ∨
      table.removeUnder verdict businessId =
        (.ok (), ⟨table.sessions.filter fun s => s.businessId ≠ businessId⟩) := by
  unfold removeUnder remove
  split
  · exact Or.inl ⟨_, rfl⟩
  · by_cases hblank : Text.blank businessId = true
    · exact Or.inl ⟨_, by rw [if_pos hblank]⟩
    · exact Or.inr (by rw [if_neg hblank])

/-- Removing a session that was taken in gives the table back: no other has its account. -/
theorem filter_insert {table : SessionTable} {session : Session}
    (h : table.conflict? session = none) :
    (table.sessions ++ [session]).filter (fun s => s.businessId ≠ session.businessId) =
      table.sessions := by
  have hothers : ∀ s ∈ table.sessions, s.businessId ≠ session.businessId := fun s hs =>
    (conflict?_eq_none_iff table session).mp h s hs .businessId
  rw [List.filter_append, List.filter_eq_self.mpr (by simpa using hothers)]
  simp

end SessionTable

namespace Registration

variable {σ : Type} {identity : String} {request : RegistrationRequest} {table : SessionTable}

/-! ## The end of a registration -/

/-- Nothing was asked but lookups of keys. -/
def Lookups (xs : List Exchange) : Prop := ∀ x ∈ xs, ∃ key value, x.call = .findSession key value

/-- How a registration ends with a table: what it has asked for, what it reports, and the table that
it leaves. -/
inductive Settled (identity : String) (request : RegistrationRequest) (table : SessionTable) :
    List Exchange → Registration → SessionTable → Prop
  /-- The request does not pass the checks, a key of it is taken, or a lookup failed. -/
  | refused (reason : Failure) (asked : List Exchange) : Lookups asked →
    Settled identity request table asked ⟨identity, .rejected reason, none⟩ table
  /-- The session was not taken in. -/
  | unstored (reason : Failure) (asked : List Exchange) : Lookups asked →
    Settled identity request table
      (asked ++ [⟨.insertSession (request.session identity), .error reason⟩])
      ⟨identity, .rejected (duringInsert reason), none⟩ table
  /-- It was taken in, could not be bound, and was dropped. -/
  | dropped (reason : Failure) (asked : List Exchange) : Lookups asked →
    Settled identity request table
      (asked ++ [⟨.insertSession (request.session identity), .ok (request.session identity)⟩,
        ⟨.bind (request.session identity), .error reason⟩,
        ⟨.removeSession (request.session identity).businessId, .ok ()⟩])
      ⟨identity, .rejected reason, none⟩ table
  /-- It could not be bound, and not be dropped either. -/
  | stranded (reason removal : Failure) (asked : List Exchange) : Lookups asked →
    request.check identity = .ok () → table.conflict? (request.session identity) = none →
    Settled identity request table
      (asked ++ [⟨.insertSession (request.session identity), .ok (request.session identity)⟩,
        ⟨.bind (request.session identity), .error reason⟩,
        ⟨.removeSession (request.session identity).businessId, .error removal⟩])
      ⟨identity, .rejected reason, none⟩ ⟨table.sessions ++ [request.session identity]⟩
  /-- It was taken in and bound. -/
  | active (asked : List Exchange) : Lookups asked →
    request.check identity = .ok () → table.conflict? (request.session identity) = none →
    Settled identity request table
      (asked ++ [⟨.insertSession (request.session identity), .ok (request.session identity)⟩,
        ⟨.bind (request.session identity), .ok ()⟩])
      ⟨identity, .active, some (request.session identity)⟩
      ⟨table.sessions ++ [request.session identity]⟩

/-- A step is no effect. -/
@[simp] theorem effect_advance {world : World σ} (r : Registration) (next : RegistrationState)
    (s : σ) : (r.advance next).effect world s = ⟨{ r with state := next }, s, []⟩ := rfl

variable (around : Surroundings σ)

theorem effect_dropUnbound (session : Session) (s : σ) (table : SessionTable) :
    ∃ t, (∃ e, (dropUnbound session).effect around.world (s, table) =
        ⟨(), (t, table), [⟨.removeSession session.businessId, .error e⟩]⟩) ∨
      (dropUnbound session).effect around.world (s, table) =
        ⟨(), (t, ⟨table.sessions.filter fun s => s.businessId ≠ session.businessId⟩),
          [⟨.removeSession session.businessId, .ok ()⟩]⟩ := by
  rcases hverdict : around.verdict (.removeSession session.businessId) s with ⟨verdict, t⟩
  have hanswer : around.world.answer (.removeSession session.businessId) (s, table) =
      ((table.removeUnder verdict session.businessId).1,
        (t, (table.removeUnder verdict session.businessId).2)) := by
    simp only [Surroundings.world, Surroundings.answerWith, hverdict]
  refine ⟨t, ?_⟩
  unfold dropUnbound
  rw [Action.effect_bind, Action.effect_ask, hanswer]
  rcases table.removeUnder_cases verdict session.businessId with ⟨e, hremove⟩ | hremove
  · rw [hremove]
    exact Or.inl ⟨e, rfl⟩
  · rw [hremove]
    exact Or.inr rfl

/-- Binding a session that was just taken in. -/
theorem bindStored_settled (hcheck : request.check identity = .ok ())
    (hfree : table.conflict? (request.session identity) = none) (s : σ) {asked : List Exchange}
    (hasked : Lookups asked) :
    ∃ r t after xs, (bindStored ⟨identity, .registered, none⟩ (request.session identity)).effect
        around.world (s, ⟨table.sessions ++ [request.session identity]⟩) = ⟨r, (t, after), xs⟩ ∧
      Settled identity request table
        (asked ++ ⟨.insertSession (request.session identity), .ok (request.session identity)⟩ :: xs)
        r after := by
  rcases hreply : around.answer (.bind (request.session identity)) s with ⟨reply, t⟩
  have hanswer : around.world.answer (.bind (request.session identity))
      (s, ⟨table.sessions ++ [request.session identity]⟩) =
        (reply, (t, ⟨table.sessions ++ [request.session identity]⟩)) := by
    simp only [Surroundings.world, Surroundings.answerWith, hreply]
  unfold bindStored
  rw [Action.effect_bind, Action.effect_ask, hanswer]
  cases reply with
  | ok _ => exact ⟨_, _, _, _, rfl, .active asked hasked hcheck hfree⟩
  | error e =>
    obtain ⟨u, hdrop⟩ := effect_dropUnbound around (request.session identity) t
      ⟨table.sessions ++ [request.session identity]⟩
    dsimp only
    rw [Action.effect_bind]
    rcases hdrop with ⟨removal, hdrop⟩ | hdrop
    · rw [hdrop]
      exact ⟨_, _, _, _, rfl, .stranded e removal asked hasked hcheck hfree⟩
    · -- Nothing else goes with the session: no other is of its account.
      rw [hdrop, SessionTable.filter_insert hfree]
      exact ⟨_, _, _, _, rfl, .dropped e asked hasked⟩

/-- Storing and binding what a valid request asks for. -/
theorem store_settled (hcheck : request.check identity = .ok ()) (s : σ) (table : SessionTable)
    {asked : List Exchange} (hasked : Lookups asked) :
    ∃ r t after xs, (store ⟨identity, .validated, none⟩ request).effect around.world (s, table) =
        ⟨r, (t, after), xs⟩ ∧
      Settled identity request table (asked ++ xs) r after := by
  rcases hverdict : around.verdict (.insertSession (request.session identity)) s with ⟨verdict, t⟩
  have hanswer : around.world.answer (.insertSession (request.session identity)) (s, table) =
      ((table.insertUnder verdict (request.session identity)).1,
        (t, (table.insertUnder verdict (request.session identity)).2)) := by
    simp only [Surroundings.world, Surroundings.answerWith, hverdict]
  unfold store
  rw [Action.effect_bind, Action.effect_ask, hanswer]
  rcases table.insertUnder_cases verdict (request.session identity) with
    ⟨e, hinsert⟩ | ⟨hfree, hinsert⟩
  · rw [hinsert]
    exact ⟨_, _, _, _, rfl, .unstored e asked hasked⟩
  · rw [hinsert]
    obtain ⟨r, u, after, xs, hbind, hsettled⟩ :=
      bindStored_settled around hcheck hfree t hasked
    dsimp only
    rw [Action.effect_bind, effect_advance]
    dsimp only
    rw [hbind]
    exact ⟨_, _, _, _, rfl, hsettled⟩

/-- Looking for taken keys leaves the table alone. -/
theorem checkTaken_lookups (identity : String) (request : RegistrationRequest) (s : σ)
    (table : SessionTable) :
    ∃ taken t asked, (checkTaken identity request).effect around.world (s, table) =
      ⟨taken, (t, table), asked⟩ ∧ Lookups asked := by
  have hasks : Action.Asks (fun c => ∃ key value, c = .findSession key value)
      (checkTaken identity request).run :=
    checkTaken_asks (fun key value => ⟨key, value, rfl⟩) identity request
  have hkeeps : Action.Asks Call.KeepsTable (checkTaken identity request).run :=
    checkTaken_asks (fun key value => ⟨fun _ => Call.noConfusion, fun _ => Call.noConfusion⟩)
      identity request
  have hlookups := hasks.mem_exchanges around.world (s, table)
  have htable := hkeeps.table_eq around (s, table)
  rcases hrun : (checkTaken identity request).run.effect around.world (s, table) with
    ⟨taken, ⟨t, after⟩, asked⟩
  rw [hrun] at hlookups htable
  obtain rfl : after = table := htable
  exact ⟨taken, t, asked, hrun, hlookups⟩

/-- A request that does not pass the checks is rejected without any call. -/
theorem effect_register_unchecked {world : World σ} {e : Failure}
    (hcheck : request.check identity = .error e) (s : σ) :
    (register identity request).effect world s = ⟨⟨identity, .rejected e, none⟩, s, []⟩ := by
  unfold register
  rw [hcheck]
  rfl

section

variable {world : World σ} {s t : σ} {asked : List Exchange}

/-- A request whose keys are not found free is rejected, and no more is asked. -/
theorem effect_register_taken {e : Failure} (hcheck : request.check identity = .ok ())
    (htaken : (checkTaken identity request).effect world s = ⟨.error e, t, asked⟩) :
    (register identity request).effect world s = ⟨⟨identity, .rejected e, none⟩, t, asked⟩ := by
  unfold Attempt.effect at htaken
  unfold register
  rw [hcheck]
  dsimp only
  rw [Action.effect_bind, effect_advance, Effect.after_nil, Action.effect_bind, htaken]
  simp only [reject, effect_advance, Effect.after, List.append_nil, start]

/-- A request whose keys are found free is stored. -/
theorem effect_register_free (hcheck : request.check identity = .ok ())
    (hfree : (checkTaken identity request).effect world s = ⟨.ok (), t, asked⟩) :
    (register identity request).effect world s =
      ((store ⟨identity, .validated, none⟩ request).effect world t).after asked := by
  unfold Attempt.effect at hfree
  unfold register
  rw [hcheck]
  dsimp only
  rw [Action.effect_bind, effect_advance, Effect.after_nil, Action.effect_bind, hfree]
  rfl

end

/-- A registration ends in one of the five ways. -/
theorem register_settled (identity : String) (request : RegistrationRequest) (s : σ)
    (table : SessionTable) :
    ∃ r t after xs, (register identity request).effect around.world (s, table) =
      ⟨r, (t, after), xs⟩ ∧ Settled identity request table xs r after := by
  cases hcheck : request.check identity with
  | error e =>
    have hnone : Lookups [] := fun x hx => absurd hx List.not_mem_nil
    exact ⟨_, _, _, _, effect_register_unchecked hcheck _, .refused e [] hnone⟩
  | ok _ =>
    -- The session is inserted into the very table that the registration began with; what the lookups
    -- answer decides only whether it comes to that.
    obtain ⟨taken, t, asked, hrun, hlookups⟩ :=
      checkTaken_lookups around identity request s table
    cases taken with
    | error e =>
      exact ⟨_, t, table, asked, effect_register_taken hcheck hrun, .refused e asked hlookups⟩
    | ok _ =>
      obtain ⟨r, u, final, xs, hstore, hsettled⟩ := store_settled around hcheck t table hlookups
      refine ⟨r, u, final, asked ++ xs, ?_, hsettled⟩
      rw [effect_register_free hcheck hrun, hstore, Effect.after]

end Registration

/-- Surroundings to try registrations in: everything is answered, and every call to the store has
the same verdict. -/
def Surroundings.answering (verdict : StoreVerdict) : Surroundings Unit where
  answer := (World.answering fun _ => none).answer
  verdict _ s := (verdict, s)
  isCancelled _ := false

end RoomBridge
