import RoomBridge.Proofs.Registration.Race

/-!
# White space around what is registered

Ids and names are typed by people, who may leave white space around them. The checks, the lookups,
the session that is stored and the reasons that are reported all see the trimmed texts, so a
registration does not depend on such white space: neither in what it asks for nor in how it ends.

* `RegistrationRequest.Repadded` : requests that differ only in white space;
* `check_repadded`, `session_repadded` : they pass the same checks and ask for the same session;
* `register_of_repadded` : their registrations are one and the same action;
* `register_repadded` : what follows for runs, and for ids that are taken.
-/

namespace RoomBridge

/-! ## Requests -/

/-- Two requests that differ at most in the white space around the app's name and the two ids. -/
structure RegistrationRequest.Repadded (r q : RegistrationRequest) : Prop where
  appName : Text.Repadded r.appName q.appName
  businessId : Text.Repadded r.businessId q.businessId
  phoneId : Text.Repadded r.phoneId q.phoneId
  accessToken : q.accessToken = r.accessToken
  noticeRoom : q.noticeRoom = r.noticeRoom

namespace RegistrationRequest

variable {r q : RegistrationRequest}

/-- The first field that must not be blank and is. -/
def blankField? (r : RegistrationRequest) (identity : String) : Option String :=
  ((r.requiredFields identity).find? fun field => Text.blank field.2).map Prod.fst

theorem check_eq (r : RegistrationRequest) (identity : String) :
    r.check identity =
      (r.blankField? identity).elim
        (if Text.trim r.businessId = Text.trim r.phoneId then .error .identityCollision else .ok ())
        fun field => .error (.missingField field) := by
  unfold check blankField?
  cases (r.requiredFields identity).find? fun field => Text.blank field.2 <;> rfl

theorem blankField?_eq_none_iff (r : RegistrationRequest) (identity : String) :
    r.blankField? identity = none ↔
      ∀ field ∈ r.requiredFields identity, Text.blank field.2 = false := by
  rw [blankField?, Option.map_eq_none_iff, List.find?_eq_none]
  simp only [Bool.not_eq_true]

/-- White space makes no field blank and none that is blank any other. -/
theorem blankField?_repadded (h : r.Repadded q) (identity : String) :
    q.blankField? identity = r.blankField? identity := by
  have hfirst : ∀ {xs ys : List (String × String)},
      List.Forall₂ (fun x y => y.1 = x.1 ∧ Text.blank y.2 = Text.blank x.2) xs ys →
        (ys.find? fun field => Text.blank field.2).map Prod.fst =
          (xs.find? fun field => Text.blank field.2).map Prod.fst := by
    intro xs ys hfields
    induction hfields with
    | nil => rfl
    | @cons x y _ _ hxy _ ih =>
      rw [List.find?_cons, List.find?_cons, hxy.2]
      cases Text.blank x.2 with
      | true => exact congrArg some hxy.1
      | false => exact ih
  refine hfirst ?_
  unfold requiredFields
  rw [h.accessToken]
  exact .cons ⟨rfl, rfl⟩ (.cons ⟨rfl, h.appName.blank_eq⟩ (.cons ⟨rfl, h.businessId.blank_eq⟩
    (.cons ⟨rfl, h.phoneId.blank_eq⟩ (.cons ⟨rfl, rfl⟩ .nil))))

theorem check_repadded (h : r.Repadded q) (identity : String) :
    q.check identity = r.check identity := by
  rw [check_eq, check_eq, blankField?_repadded h, h.businessId.trim_eq, h.phoneId.trim_eq]

theorem session_repadded (h : r.Repadded q) (identity : String) :
    q.session identity = r.session identity := by
  rw [session, session, h.businessId.trim_eq, h.phoneId.trim_eq, h.appName.trim_eq, h.accessToken,
    h.noticeRoom]

/-- A request for one id under two names does not pass the checks. -/
theorem check_collision (h : Text.Repadded r.businessId r.phoneId) (identity : String) :
    ∃ reason, r.check identity = .error reason ∧
      ((∀ field ∈ r.requiredFields identity, Text.blank field.2 = false) →
        reason = .identityCollision) := by
  rw [← blankField?_eq_none_iff, check_eq]
  cases r.blankField? identity with
  | some field => exact ⟨.missingField field, rfl, nofun⟩
  | none => exact ⟨.identityCollision, if_pos h.trim_eq.symm, fun _ => rfl⟩

end RegistrationRequest

namespace Registration

variable {identity : String} {request padded : RegistrationRequest}

/-! ## Registrations -/

theorem checkTaken_repadded (h : request.Repadded padded) (identity : String) :
    checkTaken identity padded = checkTaken identity request := by
  unfold checkTaken
  rw [h.businessId.trim_eq, h.phoneId.trim_eq]

theorem store_repadded (h : request.Repadded padded) (r : Registration) :
    r.store padded = r.store request := by
  unfold store
  rw [RegistrationRequest.session_repadded h]
  refine bind_congr fun reply => ?_
  cases reply <;> rfl

/-- A registration sees no white space around what is registered. -/
theorem register_of_repadded (h : request.Repadded padded) (identity : String) :
    register identity padded = register identity request := by
  unfold register
  rw [RegistrationRequest.check_repadded h, checkTaken_repadded h]
  simp only [store_repadded h]

/-! ## Ids that are taken -/

/-- An id of a stored session, with white space around it. -/
def AsksFor (request : RegistrationRequest) (e : Session) : Prop :=
  Text.Repadded e.businessId request.businessId ∨ Text.Repadded e.phoneId request.phoneId

/-- Whoever asks for an id of a sound session asks for one of its keys. -/
theorem AsksFor.key_eq {e : Session} (h : AsksFor request e) (he : e.Sound) (identity : String) :
    ∃ key, e.key key = (request.session identity).key key := by
  rcases h with h | h
  · exact ⟨.businessId, he.businessId.trim_eq.symm.trans h.trim_eq.symm⟩
  · exact ⟨.phoneId, he.phoneId.trim_eq.symm.trans h.trim_eq.symm⟩

/-- Where a key is taken, a registration is rejected and the table stays, whatever the store's
verdicts. -/
theorem Settled.rejected_of_taken {table after : SessionTable} {xs : List Exchange}
    {r : Registration} (h : Settled identity request table xs r after)
    (htaken : table.conflict? (request.session identity) ≠ none) :
    (∃ reason, r.state = .rejected reason) ∧ after = table := by
  cases h with
  | refused reason asked hasked | unstored reason asked hasked | dropped reason asked hasked =>
    exact ⟨⟨_, rfl⟩, rfl⟩
  | stranded reason removal asked hasked hcheck hfree | active asked hasked hcheck hfree =>
    exact absurd hfree htaken

/-- **White space around registered ids never matters.** With white space added to the ends of app
name, account id and phone id, or removed from them, a registration has the same run in every world:
the same result, the same calls with the same replies, the same log and the same state of the world.
In particular a request whose two ids differ only in white space is rejected without a call, as a
collision if no field is blank; and a request for an id of a stored session, written with other
white space, is rejected and leaves the table as it is, whatever the store does — as registered
already, unless a call fails. -/
theorem register_repadded (identity : String) {request padded : RegistrationRequest}
    (h : request.Repadded padded) :
    (∀ {σ : Type} (world : World σ) (s : σ),
      (register identity padded).run world s = (register identity request).run world s) ∧
    (Text.Repadded padded.businessId padded.phoneId → ∀ {σ : Type} (world : World σ) (s : σ),
      ∃ reason,
        (register identity padded).effect world s = ⟨⟨identity, .rejected reason, none⟩, s, []⟩ ∧
        ((∀ field ∈ padded.requiredFields identity, Text.blank field.2 = false) →
          reason = .identityCollision)) ∧
    (∀ {σ : Type} (around : Surroundings σ) (s : σ) (table : SessionTable),
      (∃ e ∈ table.sessions, e.Sound ∧ AsksFor padded e) →
      let run := (register identity padded).effect around.world (s, table)
      (∃ reason, run.result.state = .rejected reason) ∧ run.state.2 = table ∧
      (padded.check identity = .ok () → ∀ missed,
        ∃ what, ((register identity padded).effect (around.missing missed).world
          (s, table)).result.state = .rejected (.alreadyRegistered what))) := by
  refine ⟨fun world s => by rw [register_of_repadded h], ?_, ?_⟩
  · intro hsame σ world s
    obtain ⟨reason, hcheck, hreason⟩ := RegistrationRequest.check_collision hsame identity
    exact ⟨reason, effect_register_unchecked hcheck s, hreason⟩
  · rintro σ around s table ⟨e, he, hsound, hasks⟩
    have htaken : table.conflict? (padded.session identity) ≠ none := by
      obtain ⟨key, hkey⟩ := hasks.key_eq hsound identity
      rw [ne_eq, SessionTable.conflict?_eq_none_iff]
      exact fun hfree => hfree e he key hkey
    obtain ⟨r, t, after, xs, hrun, hsettled⟩ := register_settled around identity padded s table
    obtain ⟨hrejected, rfl⟩ := hsettled.rejected_of_taken htaken
    dsimp only
    rw [hrun]
    refine ⟨hrejected, rfl, fun hcheck missed => ?_⟩
    obtain ⟨key, hconflict⟩ := Option.ne_none_iff_exists'.mp htaken
    obtain ⟨what, u, ys, hmissed, -⟩ := register_taken around missed hcheck hconflict s
    exact ⟨what, by rw [hmissed]⟩

/-- A request, the same with white space around its texts, and an earlier one for the same account. -/
def typedRequest : RegistrationRequest := ⟨"App", "W1", "P1", "token", none⟩

def spacedRequest : RegistrationRequest := ⟨"\tApp", " W1\n", "P1 ", "token", none⟩

def earlierRequest : RegistrationRequest := ⟨"Shop", "W1", "P9", "token", none⟩

theorem register_repadded_taken :
    let table : SessionTable := ⟨[earlierRequest.session "@first"]⟩
    let run := (register "@second" spacedRequest).effect (Surroundings.answering .stale).world
      ((), table)
    typedRequest.Repadded spacedRequest ∧
      (∃ e ∈ table.sessions, e.Sound ∧ AsksFor spacedRequest e) ∧
      run.result.state = .rejected (.alreadyRegistered "business_id W1") ∧
      run.state.2 = table := by
  intro table run
  have htyped : typedRequest.Repadded spacedRequest := {
    appName := Text.repadded_of_trim_eq (by decide +kernel)
    businessId := Text.repadded_of_trim_eq (by decide +kernel)
    phoneId := Text.repadded_of_trim_eq (by decide +kernel)
    accessToken := rfl
    noticeRoom := rfl }
  have hasked : ∃ e ∈ table.sessions, e.Sound ∧ AsksFor spacedRequest e :=
    ⟨earlierRequest.session "@first", List.mem_singleton_self _,
      RegistrationRequest.session_sound (by decide +kernel),
      .inl (Text.repadded_of_trim_eq (by decide +kernel))⟩
  obtain ⟨hsame, -, htaken⟩ := register_repadded "@second" htyped
  have hrun : (register "@second" spacedRequest).effect (Surroundings.answering .stale).world
      ((), table) = (register "@second" typedRequest).effect
        (Surroundings.answering .stale).world ((), table) := by
    rw [Action.effect, Action.effect, hsame]
  refine ⟨htyped, hasked, ?_, (htaken (.answering .stale) () table hasked).2.1⟩
  change ((register "@second" spacedRequest).effect _ _).result.state = _
  rw [hrun]
  decide +kernel

end Registration

end RoomBridge
