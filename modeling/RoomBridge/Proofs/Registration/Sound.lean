import RoomBridge.Proofs.Delivery.Batch
import RoomBridge.Proofs.Registration.Outcome
import RoomBridge.Proofs.Text.Trimmed

/-!
# What the session table always holds

The lookups before an insertion may miss what is there, so they do not keep the keys apart: the
insertion itself does. It compares keys as they are written, which is enough because a request is
checked and trimmed before it becomes a session.

* `Session.Sound`, `SessionTable.Sound` : what holds of every session, and of all together;
* `Registration.Settled.sound`, `Command.perform_sound` : one registration, one command;
* `runAll_tables_sound` : every run from the empty table.
-/

namespace RoomBridge

/-! ## Sound sessions -/

/-- A session as it may stand in the table. -/
structure Session.Sound (s : Session) : Prop where
  businessId : Text.Tidy s.businessId
  phoneId : Text.Tidy s.phoneId
  appName : Text.Tidy s.appName
  businessId_ne_phoneId : s.businessId ≠ s.phoneId
  accessToken : Text.blank s.accessToken = false
  bridgeIdentity : Text.blank s.bridgeIdentity = false
  noticeRoom : ∀ room, s.noticeRoom = some room → Text.blank room = false

namespace RegistrationRequest

variable {identity : String} {request : RegistrationRequest}

/-- A request that passes the checks has all its fields, and two ids that differ. -/
theorem of_check (h : request.check identity = .ok ()) :
    (∀ field ∈ request.requiredFields identity, Text.blank field.2 = false) ∧
      Text.trim request.businessId ≠ Text.trim request.phoneId := by
  unfold check at h
  split at h
  · cases h
  · next hnone =>
    split at h
    · cases h
    · next hne =>
      rw [List.find?_eq_none] at hnone
      exact ⟨fun field hfield => Bool.eq_false_iff.mpr (hnone field hfield), hne⟩

/-- The session of a request that passes the checks is sound. -/
theorem session_sound (h : request.check identity = .ok ()) : (request.session identity).Sound := by
  obtain ⟨hfields, hne⟩ := of_check h
  simp only [requiredFields, List.forall_mem_cons] at hfields
  obtain ⟨hidentity, happ, hbusiness, hphone, htoken, -⟩ := hfields
  exact {
    businessId := Text.tidy_trim hbusiness
    phoneId := Text.tidy_trim hphone
    appName := Text.tidy_trim happ
    businessId_ne_phoneId := hne
    accessToken := htoken
    bridgeIdentity := hidentity
    noticeRoom := by
      intro room hroom
      obtain ⟨written, -, hwritten⟩ := Option.bind_eq_some_iff.mp hroom
      unfold Text.nonblank? at hwritten
      split at hwritten
      · cases hwritten
      · next hblank =>
        cases hwritten
        exact Bool.eq_false_iff.mpr hblank }

end RegistrationRequest

/-! ## Sound tables -/

/-- Every session is sound, and no two of them share a key. -/
structure SessionTable.Sound (table : SessionTable) : Prop where
  apart : table.sessions.Pairwise fun s t => ∀ key, s.key key ≠ t.key key
  sessions : ∀ s ∈ table.sessions, s.Sound

theorem SessionTable.empty_sound : empty.Sound := ⟨.nil, fun _ h => absurd h List.not_mem_nil⟩

/-- A sound session that conflicts with none can come last. -/
theorem SessionTable.Sound.append {table : SessionTable} {session : Session} (h : table.Sound)
    (hfree : table.conflict? session = none) (hsession : session.Sound) :
    Sound ⟨table.sessions ++ [session]⟩ where
  apart := by
    rw [List.pairwise_append]
    refine ⟨h.apart, List.pairwise_singleton _ _, fun s hs t ht => ?_⟩
    rw [List.mem_singleton.mp ht]
    exact (conflict?_eq_none_iff table session).mp hfree s hs
  sessions s hs := by
    rcases List.mem_append.mp hs with hs | hs
    · exact h.sessions s hs
    · exact List.mem_singleton.mp hs ▸ hsession

/-! ## Steps -/

variable {σ : Type}

/-- However a registration ends, the table stays sound. -/
theorem Registration.Settled.sound {identity : String} {request : RegistrationRequest}
    {table after : SessionTable} {xs : List Exchange} {r : Registration}
    (h : Settled identity request table xs r after) (htable : table.Sound) : after.Sound := by
  cases h with
  | refused reason asked hasked | unstored reason asked hasked | dropped reason asked hasked =>
    exact htable
  | stranded reason removal asked hasked hcheck hfree | active asked hasked hcheck hfree =>
    exact htable.append hfree (RegistrationRequest.session_sound hcheck)

theorem Registration.register_sound (around : Surroundings σ) (identity : String)
    (request : RegistrationRequest) {s : σ × SessionTable} (hs : s.2.Sound) :
    ((register identity request).effect around.world s).state.2.Sound := by
  obtain ⟨r, t, after, xs, hrun, hsettled⟩ := register_settled around identity request s.1 s.2
  rw [hrun]
  exact hsettled.sound hs

theorem Registration.registerJson_sound (around : Surroundings σ) (identity : String) (body : Bytes)
    {s : σ × SessionTable} (hs : s.2.Sound) :
    ((registerJson identity body).effect around.world s).state.2.Sound := by
  unfold registerJson
  split
  · exact hs
  · exact register_sound around identity _ hs

namespace Command

/-- A command leaves the table sound. -/
theorem perform_sound (settings : Settings) (around : Surroundings σ) (c : Command)
    {s : σ × SessionTable} (hs : s.2.Sound) :
    ((c.perform settings).effect around.world s).state.2.Sound := by
  -- Only registrations change the table at all.
  have keeps (h : c.isRegistration = false) :
      ((c.perform settings).effect around.world s).state.2.Sound :=
    table_eq settings around h s ▸ hs
  cases c with
  | register identity request =>
    rw [perform, Action.effect_map]
    exact Registration.register_sound around identity request hs
  | registerJson identity body =>
    rw [perform, Action.effect_map]
    exact Registration.registerJson_sound around identity body hs
  | _ => exact keeps rfl

/-- Commands leave the table sound, each of them. -/
theorem runAll_sound (settings : Settings) (around : Surroundings σ) (commands : List Command)
    {s : σ × SessionTable} (hs : s.2.Sound) :
    ∀ run ∈ runAll settings around.world commands s, run.state.2.Sound := by
  induction commands generalizing s with
  | nil => simp [runAll]
  | cons c commands ih =>
    have hstep : ((c.perform settings).run around.world s).state.2.Sound :=
      perform_sound settings around c hs
    rw [runAll]
    exact List.forall_mem_cons.mpr ⟨hstep, ih hstep⟩

end Command

/-- **The table stays sound.** After every command of every run from the empty table, whatever the
lookups miss and whatever fails, the sessions of the table are sound, and no two of them have the
same business id, the same phone id or the same bridge identity. -/
theorem runAll_tables_sound (settings : Settings) (around : Surroundings σ)
    (commands : List Command) (s : σ) :
    ∀ run ∈ Command.runAll settings around.world commands (s, .empty), run.state.2.Sound :=
  Command.runAll_sound settings around commands SessionTable.empty_sound

/-- Two identities ask for one account, under ids that are written differently. -/
def rivalCommands : List Command :=
  [.register "@first" ⟨"App", " W1", "P1 ", "token", some " "⟩,
    .register "@second" ⟨"App", "W1 ", "P2", "token", none⟩]

theorem runAll_tables_sound_rivals :
    ∃ run ∈ Command.runAll Delivery.trialSettings (Surroundings.answering .stale).world
        rivalCommands ((), .empty),
      (∃ r, run.result = .registration r ∧
        r.state = .rejected (.alreadyRegistered "business_id W1")) ∧
      run.state.2.sessions.length = 1 ∧ run.state.2.Sound := by
  have hany : ((Command.runAll Delivery.trialSettings (Surroundings.answering .stale).world
      rivalCommands ((), .empty)).any fun run =>
        run.state.2.sessions.length == 1 &&
          match run.result with
          | .registration r => r.state = .rejected (.alreadyRegistered "business_id W1")
          | _ => false) = true := by
    decide +kernel
  obtain ⟨run, hrun, hend⟩ := List.any_eq_true.mp hany
  have hsound := runAll_tables_sound Delivery.trialSettings (.answering .stale) rivalCommands ()
    run hrun
  rw [Bool.and_eq_true, beq_iff_eq] at hend
  obtain ⟨hlength, hreport⟩ := hend
  refine ⟨run, hrun, ?_, hlength, hsound⟩
  split at hreport
  · next r hr => exact ⟨r, hr, of_decide_eq_true hreport⟩
  · cases hreport

end RoomBridge
