import RoomBridge.Proofs.Delivery.Admission
import RoomBridge.Proofs.Delivery.Rooms
import RoomBridge.Proofs.Registration.Sound

/-!
# Who an account belongs to

Registrations and deliveries meet in the session table. As long as no removal fails, the table holds
the sessions of the registrations that became active, in order, and nothing of those that were
rejected. A delivery that is told what the table holds then goes by the one registration of its
account, and asks for everything in the name of that.

* `owners` : the registrations that became active in some runs;
* `Command.perform_sessions`, `Command.sessions_stateAfter` : the table after one command, and many;
* `find?_owner`, `owner_unique` : the one owner of an account;
* `dispatch_unowned`, `dispatch_owned` : a delivery for an account without owner, and with one;
* `dispatch_serves_owner` : a delivery after any commands.
-/

namespace RoomBridge

variable {σ : Type}

/-! ## Registrations of a run -/

/-- An identity with the request that it registered an account by. -/
structure Owner where
  identity : String
  request : RegistrationRequest

namespace Owner

def session (o : Owner) : Session := o.request.session o.identity

/-- The account. -/
def businessId (o : Owner) : String := Text.trim o.request.businessId

@[simp] theorem key_session (o : Owner) : o.session.key .businessId = o.businessId := rfl

end Owner

/-- Tells of a registration that became active. -/
def Report.isActive : Report → Bool
  | .registration r => r.isActive
  | _ => false

/-- A removal of a session that failed. -/
def Exchange.isFailedRemoval : Exchange → Bool
  | ⟨.removeSession _, .error _⟩ => true
  | _ => false

/-- No removal of a session has failed. -/
def Run.RemovesAll (run : Run σ Report) : Prop :=
  ∀ x ∈ Event.exchanges run.events, x.isFailedRemoval = false

instance (run : Run σ Report) : Decidable run.RemovesAll :=
  inferInstanceAs (Decidable (∀ x ∈ Event.exchanges run.events, x.isFailedRemoval = false))

namespace Command

/-- Who registers at a command, for what. -/
def applicant? : Command → Option Owner
  | register identity request => some ⟨identity, request⟩
  | registerJson identity body => (RegistrationRequest.ofJson? body).map fun r => ⟨identity, r⟩
  | _ => none

/-- Who has registered at a command, by its report. -/
def owner? (c : Command) (report : Report) : Option Owner :=
  if report.isActive then c.applicant? else none

/-- The state after some commands. -/
def stateAfter (settings : Settings) (world : World σ) : List Command → σ → σ
  | [], s => s
  | c :: cs, s => stateAfter settings world cs ((c.perform settings).run world s).state

/-- More commands run where the first end. -/
theorem runAll_append (settings : Settings) (world : World σ) (first second : List Command)
    (s : σ) : runAll settings world (first ++ second) s =
      runAll settings world first s ++
        runAll settings world second (stateAfter settings world first s) := by
  induction first generalizing s with
  | nil => rfl
  | cons c first ih =>
    rw [List.cons_append, runAll, runAll, ih]
    rfl

end Command

/-- Who has registered in the runs of some commands, in order. -/
def owners (commands : List Command) (runs : List (Run σ Report)) : List Owner :=
  (commands.zip runs).filterMap fun p => p.1.owner? p.2.result

theorem owners_cons (c : Command) (cs : List Command) (run : Run σ Report)
    (runs : List (Run σ Report)) :
    owners (c :: cs) (run :: runs) = (c.owner? run.result).toList ++ owners cs runs := by
  rw [owners, List.zip_cons_cons, List.filterMap_cons]
  cases c.owner? run.result with
  | none => rfl
  | some o => rfl

/-! ## The table of their sessions -/

/-- A registration adds its session to the table if it becomes active, and leaves no trace if it is
rejected, unless the session could not be removed. -/
theorem Registration.Settled.sessions_eq {identity : String} {request : RegistrationRequest}
    {table after : SessionTable} {xs : List Exchange} {r : Registration}
    (h : Settled identity request table xs r after)
    (hremoved : ∀ x ∈ xs, x.isFailedRemoval = false) :
    after.sessions =
      table.sessions ++ if r.isActive then [request.session identity] else [] := by
  cases h with
  | active asked hasked => rfl
  | refused e asked hasked | unstored e asked hasked | dropped e asked hasked =>
    exact (List.append_nil _).symm
  | stranded e removal asked hasked =>
    have hfailed : (⟨.removeSession (request.session identity).businessId, .error removal⟩ :
        Exchange).isFailedRemoval = false := hremoved _ (by simp)
    cases hfailed

namespace Command

variable (settings : Settings) (around : Surroundings σ)

/-- A command that has an account registered adds the session to the table if that becomes active. -/
theorem register_sessions {c : Command} {identity : String} {request : RegistrationRequest}
    (hperform : c.perform settings = .registration <$> Registration.register identity request)
    (happlicant : c.applicant? = some ⟨identity, request⟩) {p : σ × SessionTable}
    (hremoved : ((c.perform settings).run around.world p).RemovesAll) :
    let run := (c.perform settings).run around.world p
    run.state.2.sessions = p.2.sessions ++ ((c.owner? run.result).map Owner.session).toList := by
  obtain ⟨r, t, after, xs, hrun, hsettled⟩ :=
    Registration.register_settled around identity request p.1 p.2
  have heffect : (c.perform settings).effect around.world p =
      ⟨.registration r, (t, after), xs⟩ := by
    rw [hperform, Action.effect_map, hrun]
  rw [Action.effect, Effect.mk.injEq] at heffect
  obtain ⟨hresult, hstate, rfl⟩ := heffect
  dsimp only
  rw [hstate, hresult, hsettled.sessions_eq hremoved, owner?, happlicant, Report.isActive]
  cases r.isActive with
  | false => rfl
  | true => rfl

/-- A command at which nobody registers leaves the sessions as they are. -/
theorem idle_sessions {c : Command} (happlicant : c.applicant? = none) {p : σ × SessionTable}
    (htable : ((c.perform settings).run around.world p).state.2 = p.2) :
    let run := (c.perform settings).run around.world p
    run.state.2.sessions = p.2.sessions ++ ((c.owner? run.result).map Owner.session).toList := by
  dsimp only
  rw [htable, owner?, happlicant, ite_self]
  exact (List.append_nil _).symm

/-- After a command, the table has the session of whoever has registered at it, and is otherwise as it
was. -/
theorem perform_sessions (c : Command) {p : σ × SessionTable}
    (hremoved : ((c.perform settings).run around.world p).RemovesAll) :
    let run := (c.perform settings).run around.world p
    run.state.2.sessions = p.2.sessions ++ ((c.owner? run.result).map Owner.session).toList := by
  cases c with
  | register identity request => exact register_sessions settings around rfl rfl hremoved
  | registerJson identity body =>
    cases hread : RegistrationRequest.ofJson? body with
    | none =>
      have happlicant : (registerJson identity body).applicant? = none := by
        rw [applicant?, hread]
        rfl
      apply idle_sessions settings around happlicant
      simp only [perform, Registration.registerJson, hread]
      rfl
    | some request =>
      have hperform : (registerJson identity body).perform settings =
          .registration <$> Registration.register identity request := by
        rw [perform, Registration.registerJson, hread]
      have happlicant : (registerJson identity body).applicant? = some ⟨identity, request⟩ := by
        rw [applicant?, hread]
        rfl
      exact register_sessions settings around hperform happlicant hremoved
  | _ => exact idle_sessions settings around rfl (table_eq settings around rfl p)

/-- After many commands, the table has the sessions of all who have registered, after those that
were there. -/
theorem sessions_stateAfter (commands : List Command) {p : σ × SessionTable}
    (hremoved : ∀ run ∈ runAll settings around.world commands p, run.RemovesAll) :
    (stateAfter settings around.world commands p).2.sessions = p.2.sessions ++
      (owners commands (runAll settings around.world commands p)).map Owner.session := by
  induction commands generalizing p with
  | nil => exact (List.append_nil _).symm
  | cons c commands ih =>
    rw [runAll, List.forall_mem_cons] at hremoved
    obtain ⟨hfirst, hrest⟩ := hremoved
    rw [stateAfter, ih hrest, perform_sessions settings around c hfirst, runAll, owners_cons,
      List.map_append, List.append_assoc]
    congr 2
    cases c.owner? ((c.perform settings).run around.world p).result with
    | none => rfl
    | some o => rfl

/-- After many commands, the table is sound. -/
theorem sound_stateAfter (commands : List Command) {p : σ × SessionTable} (hp : p.2.Sound) :
    (stateAfter settings around.world commands p).2.Sound := by
  induction commands generalizing p with
  | nil => exact hp
  | cons c commands ih =>
    have hstep : ((c.perform settings).run around.world p).state.2.Sound :=
      perform_sound settings around c hp
    exact ih hstep

end Command

/-! ## The owner of an account -/

namespace SessionTable

variable {table : SessionTable} {os : List Owner}

/-- What the table finds for an account is the session of its first owner. -/
theorem find?_owner (h : table.sessions = os.map Owner.session) {businessId : String}
    (hblank : Text.blank businessId = false) :
    table.find? .businessId businessId =
      .ok ((os.filter fun o => o.businessId = businessId).head?.map Owner.session) := by
  have hkey : (fun s : Session => decide (s.key .businessId = businessId)) ∘ Owner.session =
      fun o => decide (o.businessId = businessId) := by
    funext o
    rw [Function.comp_apply, o.key_session]
  rw [find?, if_neg (Bool.eq_false_iff.mp hblank), h, List.find?_map, hkey, List.head?_filter]

/-- In a sound table an account has one owner. -/
theorem Sound.owner_unique (hsound : table.Sound) (h : table.sessions = os.map Owner.session)
    {o : Owner} (ho : o ∈ os) : (os.filter fun q => q.businessId = o.businessId) = [o] := by
  have hapart := hsound.apart
  rw [h, List.pairwise_map] at hapart
  have hnodup : (os.map Owner.businessId).Nodup := by
    rw [List.Nodup, List.pairwise_map]
    exact hapart.imp fun hkeys => hkeys .businessId
  exact filter_eq_singleton hnodup ho

/-- In a sound table nobody owns a blank account. -/
theorem Sound.owner_not_blank (hsound : table.Sound) (h : table.sessions = os.map Owner.session)
    {o : Owner} (ho : o ∈ os) : Text.blank o.businessId = false := by
  have hmem : o.session ∈ table.sessions := h ▸ List.mem_map_of_mem ho
  exact (hsound.sessions _ hmem).businessId.blank_eq

end SessionTable

/-! ## Deliveries -/

/-- Done for a session: rooms are asked for in the name of its identity, and the cloud is asked with
the session itself. -/
def Call.ActsFor (session : Session) : Call → Prop
  | .ensurePortal request => request.login = session.bridgeIdentity
  | .mediaLink asked _ | .downloadMedia asked _ | .uploadMedia asked _ | .sendMessage asked _ =>
    asked = session
  | _ => True

/-- A session was found for the account, before anything else was asked. -/
def Run.Resolves (run : Run σ Report) (businessId : String) (session : Session) : Prop :=
  ∃ rest, Event.exchanges run.events =
    ⟨.findSession .businessId businessId, .ok (some session)⟩ :: rest

theorem Delivery.Errand.actsFor {limit : Nat} {session : Session} {c : Call}
    (h : Errand limit session c) : c.ActsFor session := by
  cases h with
  | portal request hlogin => exact hlogin
  | link mediaId | content url => exact rfl
  | upload room content hfits | notice room body | queue room message => trivial

section

variable (settings : Settings) {world : World σ} {body : Bytes} {businessId : String}
  {value : ChangeValue} {s t : σ}

theorem Command.effect_dispatch (world : World σ) (body : Bytes) (s : σ) :
    ((dispatch body).perform settings).effect world s =
      let e := (Delivery.dispatch settings body).effect world s
      ⟨.delivery e.result, e.state, e.exchanges⟩ := by
  rw [perform, Action.effect_map]

/-- A delivery for an account that is not found is refused. -/
theorem dispatch_unresolved (hbrings : Delivery.Brings body businessId value) {xs : List Exchange}
    (hfind : (Delivery.findSession businessId).effect world s =
      ⟨.error (.unregisteredAccount businessId), t, xs⟩) :
    let run := ((Command.dispatch body).perform settings).run world s
    Event.exchanges run.events = xs ∧
      run.result = .delivery ⟨some businessId, [], some (.unregisteredAccount businessId)⟩ := by
  have heffect := Command.effect_dispatch settings world body s
  rw [Delivery.effect_dispatch_unregistered hbrings.accept_eq hfind, Action.effect,
    Effect.mk.injEq] at heffect
  obtain ⟨hresult, -, hexchanges⟩ := heffect
  exact ⟨hexchanges, hresult⟩

/-- A delivery for an account that is found acts for its session. -/
theorem dispatch_resolved (hbrings : Delivery.Brings body businessId value) {session : Session}
    (hfind : (Delivery.findSession businessId).effect world s =
      ⟨.ok session, t, [⟨.findSession .businessId businessId, .ok (some session)⟩]⟩) :
    let run := ((Command.dispatch body).perform settings).run world s
    run.Resolves businessId session ∧ ∀ c ∈ Event.calls run.events, c.ActsFor session := by
  have heffect := Command.effect_dispatch settings world body s
  rw [Delivery.effect_dispatch_registered hbrings.accept_eq hfind, Action.effect,
    Effect.mk.injEq] at heffect
  obtain ⟨-, -, hexchanges⟩ := heffect
  have hasks : (Delivery.deliverAll settings session businessId value [] value.messages).Asks
      (Delivery.Errand settings.maxFileSize session) :=
    Delivery.deliverAll_asks businessId value value.messages []
  have herrands := hasks.mem_exchanges world t
  refine ⟨⟨_, hexchanges⟩, ?_⟩
  rw [Event.calls_eq, hexchanges, List.forall_mem_map, List.forall_mem_append]
  exact ⟨List.forall_mem_singleton.mpr trivial, fun x hx => (herrands x hx).actsFor⟩

end

section

variable {around : Surroundings σ} {p : σ × SessionTable} {os : List Owner} {businessId : String}

/-- A lookup that is answered by the table finds the session of the first owner. -/
theorem effect_findSession_owner (hsessions : p.2.sessions = os.map Owner.session)
    (hblank : Text.blank businessId = false)
    (hobeyed : (around.verdict (.findSession .businessId businessId) p.1).1 = .obey) :
    let found := (os.filter fun o => o.businessId = businessId).head?.map Owner.session
    ∃ t, (Delivery.findSession businessId).effect around.world p =
      ⟨Delivery.registered businessId found, t,
        [⟨.findSession .businessId businessId, .ok found⟩]⟩ := by
  intro found
  have hfind : p.2.find? .businessId businessId = .ok found :=
    SessionTable.find?_owner hsessions hblank
  rcases hverdict : around.verdict (.findSession .businessId businessId) p.1 with ⟨verdict, next⟩
  obtain rfl : verdict = .obey := by rwa [hverdict] at hobeyed
  have hanswer : around.world.answer (.findSession .businessId businessId) p =
      (.ok found, (next, p.2)) := by
    simp only [Surroundings.world, Surroundings.answerWith, hverdict, SessionTable.findUnder, hfind]
  exact ⟨(next, p.2), Delivery.effect_findSession hblank hanswer⟩

variable (settings : Settings) {body : Bytes} {value : ChangeValue}

/-- A delivery for an account that nobody owns is refused: either the account is blank and not looked
up, or nothing is found. -/
theorem dispatch_unowned (hsessions : p.2.sessions = os.map Owner.session)
    (hbrings : Delivery.Brings body businessId value)
    (hobeyed : Text.blank businessId = false →
      (around.verdict (.findSession .businessId businessId) p.1).1 = .obey)
    (hnobody : os.filter (fun o => o.businessId = businessId) = []) :
    let run := ((Command.dispatch body).perform settings).run around.world p
    (∀ session, ¬run.Resolves businessId session) ∧
      run.result = .delivery ⟨some businessId, [], some (.unregisteredAccount businessId)⟩ := by
  intro run
  obtain ⟨t, xs, hfind, hnone⟩ : ∃ t xs, (Delivery.findSession businessId).effect around.world p =
      ⟨.error (.unregisteredAccount businessId), t, xs⟩ ∧
        ∀ session rest, xs ≠ ⟨.findSession .businessId businessId, .ok (some session)⟩ :: rest := by
    by_cases hblank : Text.blank businessId = true
    · exact ⟨p, [], Delivery.effect_findSession_blank hblank p, nofun⟩
    · rw [Bool.not_eq_true] at hblank
      obtain ⟨t, hfind⟩ := effect_findSession_owner hsessions hblank (hobeyed hblank)
      rw [hnobody] at hfind
      exact ⟨t, _, hfind, nofun⟩
  obtain ⟨hexchanges, hresult⟩ := dispatch_unresolved settings hbrings hfind
  refine ⟨?_, hresult⟩
  rintro session ⟨rest, hresolved⟩
  exact hnone session rest (hexchanges.symm.trans hresolved)

/-- A delivery for the account of an owner acts for the owner's session. -/
theorem dispatch_owned (hsound : p.2.Sound) (hsessions : p.2.sessions = os.map Owner.session)
    {o : Owner} (ho : o ∈ os) (hbrings : Delivery.Brings body o.businessId value)
    (hobeyed : Text.blank o.businessId = false →
      (around.verdict (.findSession .businessId o.businessId) p.1).1 = .obey) :
    let run := ((Command.dispatch body).perform settings).run around.world p
    run.Resolves o.businessId o.session ∧ ∀ c ∈ Event.calls run.events, c.ActsFor o.session := by
  have hblank : Text.blank o.businessId = false := hsound.owner_not_blank hsessions ho
  obtain ⟨t, hfind⟩ := effect_findSession_owner hsessions hblank (hobeyed hblank)
  rw [hsound.owner_unique hsessions ho] at hfind
  exact dispatch_resolved settings hbrings hfind

end

/-- Three identities ask for one account: the first cannot be bound, and the last comes late. -/
def contestedCommands : List Command :=
  [.register "@early" ⟨"App", "W1", "P0", "old", none⟩,
    .registerJson "@agent" (Bytes.ascii "[\"App\",\" W1\",\"P1\",\"token\",null]"),
    .register "@late" ⟨"App", "W1 ", "P2", "new", none⟩]

/-- The first of them is not reached. -/
def contestedSurroundings : Surroundings Unit where
  answer := (World.answering fun
    | .bind session => if session.bridgeIdentity = "@early" then some (.external "down") else none
    | _ => none).answer
  verdict _ s := (.obey, s)
  isCancelled _ := false

end RoomBridge
