import RoomBridge.Service.Action

/-!
# Effects of runs

What a run does to the services: its result, the state it ends in, and every call with its reply, in
order. Log lines are no effect.

* `Action.effect`, `Attempt.effect` : the effect of a run;
* `Action.effect_congr` : worlds that agree on the calls of a run give the same run;
* `Attempt.effect_bind_ok`, `Attempt.effect_bind_error` : an attempt in two parts is taken apart
  into the two, by how it ends.
-/

namespace RoomBridge

/-- A call with its reply. -/
structure Exchange where
  call : Call
  reply : call.Reply

def Event.exchange? : Event → Option Exchange
  | .call c reply => some ⟨c, reply⟩
  | .log _ => none

/-- The calls among some events, with their replies. -/
def Event.exchanges (events : List Event) : List Exchange := events.filterMap Event.exchange?

@[simp] theorem Event.exchanges_append (first second : List Event) :
    Event.exchanges (first ++ second) = Event.exchanges first ++ Event.exchanges second :=
  List.filterMap_append

/-- A run without its log lines. -/
structure Effect (σ α : Type) where
  result : α
  state : σ
  exchanges : List Exchange

/-- The effect of what comes after some exchanges, together with them. -/
def Effect.after {σ α : Type} (first : List Exchange) (e : Effect σ α) : Effect σ α :=
  ⟨e.result, e.state, first ++ e.exchanges⟩

@[simp] theorem Effect.after_nil {σ α : Type} (e : Effect σ α) : e.after [] = e := rfl

/-- Another world that replies alike to some calls, and is cancelled alike. -/
structure World.AgreesOn {σ : Type} (world : World σ) (heard : Call → Prop) (other : World σ) :
    Prop where
  isCancelled : other.isCancelled = world.isCancelled
  answer : ∀ c s, heard c → other.answer c s = world.answer c s

variable {σ α β : Type} {world : World σ}

/-! ## Actions -/

namespace Action

def effect (world : World σ) (a : Action α) (s : σ) : Effect σ α :=
  let run := a.run world s
  ⟨run.result, run.state, Event.exchanges run.events⟩

@[simp] theorem effect_pure (a : α) (s : σ) : (pure a : Action α).effect world s = ⟨a, s, []⟩ := rfl

@[simp] theorem effect_ask (c : Call) (s : σ) :
    (ask c).effect world s =
      ⟨(world.answer c s).1, (world.answer c s).2, [⟨c, (world.answer c s).1⟩]⟩ := rfl

@[simp] theorem effect_note (line : LogLine) (s : σ) :
    (note line).effect world s = ⟨(), s, []⟩ := rfl

@[simp] theorem effect_cancelled (s : σ) :
    cancelled.effect world s = ⟨world.isCancelled s, s, []⟩ := rfl

theorem effect_bind (a : Action α) (f : α → Action β) (s : σ) :
    (a >>= f).effect world s =
      ((f (a.effect world s).result).effect world (a.effect world s).state).after
        (a.effect world s).exchanges := by
  simp only [effect, Effect.after, run_bind, Event.exchanges_append]

theorem effect_map (f : α → β) (a : Action α) (s : σ) :
    (f <$> a).effect world s =
      ⟨f (a.effect world s).result, (a.effect world s).state, (a.effect world s).exchanges⟩ := by
  change (a >>= fun x => pure (f x)).effect world s = _
  rw [effect_bind, effect_pure, Effect.after, List.append_nil]

/-- What goes on after an action that only writes to the log. -/
@[simp] theorem effect_note_bind (line : LogLine) (f : Unit → Action β) (s : σ) :
    (note line >>= f).effect world s = (f ()).effect world s := rfl

/-- A run depends on its world only through the calls that it makes. -/
theorem effect_congr {heard : Call → Prop} {other : World σ} (h : world.AgreesOn heard other)
    (a : Action α) (s : σ) (hheard : ∀ x ∈ (a.effect world s).exchanges, heard x.call) :
    a.effect other s = a.effect world s := by
  induction a generalizing s with
  | done a => rfl
  | call c next ih =>
    -- What comes after the call depends on the reply, which is the same in both worlds.
    change ∀ x ∈ ⟨c, (world.answer c s).1⟩ ::
      ((next (world.answer c s).1).effect world (world.answer c s).2).exchanges,
        heard x.call at hheard
    rw [List.forall_mem_cons] at hheard
    have hnext := ih (world.answer c s).1 (world.answer c s).2 hheard.2
    change ((next (other.answer c s).1).effect other (other.answer c s).2).after
      [⟨c, (other.answer c s).1⟩] = _
    rw [h.answer c s hheard.1, hnext]
    rfl
  | log line next ih => exact ih s hheard
  | isCancelled next ih =>
    change (next (other.isCancelled s)).effect other s = _
    rw [h.isCancelled]
    exact ih (world.isCancelled s) s hheard

end Action

/-! ## Attempts -/

namespace Attempt

def effect (world : World σ) (x : Attempt α) (s : σ) : Effect σ (Except Failure α) :=
  Action.effect world x.run s

@[simp] theorem effect_pure (a : α) (s : σ) :
    (pure a : Attempt α).effect world s = ⟨.ok a, s, []⟩ := rfl

@[simp] theorem effect_throw (failure : Failure) (s : σ) :
    (throw failure : Attempt α).effect world s = ⟨.error failure, s, []⟩ := rfl

@[simp] theorem effect_ask (c : Call) (s : σ) :
    (ask c).effect world s =
      ⟨(world.answer c s).1, (world.answer c s).2, [⟨c, (world.answer c s).1⟩]⟩ := rfl

/-- A call is one exchange, whatever is replied. -/
theorem effect_ask_eq {c : Call} {s t : σ} {reply : c.Reply} {xs : List Exchange}
    (h : (ask c).effect world s = ⟨reply, t, xs⟩) : xs = [⟨c, reply⟩] := by
  rw [effect_ask, Effect.mk.injEq] at h
  obtain ⟨rfl, -, rfl⟩ := h
  rfl

/-- A check has no effect but its verdict. -/
@[simp] theorem effect_check (check : Except Failure α) (s : σ) :
    (liftM check : Attempt α).effect world s = ⟨check, s, []⟩ := rfl

theorem effect_bind (x : Attempt α) (f : α → Attempt β) (s : σ) :
    (x >>= f).effect world s =
      match x.effect world s with
      | ⟨.ok a, t, xs⟩ => ((f a).effect world t).after xs
      | ⟨.error failure, t, xs⟩ => ⟨.error failure, t, xs⟩ := by
  unfold effect
  rw [ExceptT.run_bind, Action.effect_bind]
  rcases x.run.effect world s with ⟨_ | _, t, xs⟩
  · simp [Effect.after]
  · rfl

@[simp] theorem effect_action_bind (a : Action α) (f : α → Attempt β) (s : σ) :
    ((liftM a : Attempt α) >>= f).effect world s =
      ((f (a.effect world s).result).effect world (a.effect world s).state).after
        (a.effect world s).exchanges := by
  have lift : (liftM a : Attempt α).effect world s =
      ⟨.ok (a.effect world s).result, (a.effect world s).state, (a.effect world s).exchanges⟩ := by
    change (a >>= fun x => pure (Except.ok x)).effect world s = _
    rw [Action.effect_bind, Action.effect_pure, Effect.after, List.append_nil]
  rw [effect_bind, lift]

/-- An attempt in two parts that succeeds has succeeded in both. -/
theorem effect_bind_ok {x : Attempt α} {f : α → Attempt β} {s t : σ} {b : β} {xs : List Exchange}
    (h : (x >>= f).effect world s = ⟨.ok b, t, xs⟩) :
    ∃ a u ys zs, x.effect world s = ⟨.ok a, u, ys⟩ ∧ (f a).effect world u = ⟨.ok b, t, zs⟩ ∧
      xs = ys ++ zs := by
  rw [effect_bind] at h
  rcases hx : x.effect world s with ⟨_ | a, u, ys⟩
  · simp [hx] at h
  · simp only [hx, Effect.after, Effect.mk.injEq] at h
    obtain ⟨hb, rfl, rfl⟩ := h
    exact ⟨a, u, ys, _, rfl, by rw [← hb], rfl⟩

/-- An attempt in two parts that fails has failed in the first or, after it, in the second. -/
theorem effect_bind_error {x : Attempt α} {f : α → Attempt β} {s t : σ} {failure : Failure}
    {xs : List Exchange} (h : (x >>= f).effect world s = ⟨.error failure, t, xs⟩) :
    x.effect world s = ⟨.error failure, t, xs⟩ ∨
      ∃ a u ys zs, x.effect world s = ⟨.ok a, u, ys⟩ ∧
        (f a).effect world u = ⟨.error failure, t, zs⟩ ∧ xs = ys ++ zs := by
  rw [effect_bind] at h
  rcases hx : x.effect world s with ⟨e | a, u, ys⟩
  · simp only [hx, Effect.mk.injEq, Except.error.injEq] at h
    obtain ⟨rfl, rfl, rfl⟩ := h
    exact Or.inl rfl
  · simp only [hx, Effect.after, Effect.mk.injEq] at h
    obtain ⟨hb, rfl, rfl⟩ := h
    exact Or.inr ⟨a, u, ys, _, rfl, by rw [← hb], rfl⟩

/-- What goes on after a check goes on only if the check passes. -/
theorem effect_check_bind_ok {check : Except Failure α} {f : α → Attempt β} {s t : σ} {b : β}
    {xs : List Exchange}
    (h : ((liftM check : Attempt α) >>= f).effect world s = ⟨.ok b, t, xs⟩) :
    ∃ a, check = .ok a ∧ (f a).effect world s = ⟨.ok b, t, xs⟩ := by
  cases check with
  | error e => simp [effect_bind] at h
  | ok a => exact ⟨a, rfl, h⟩

theorem effect_check_bind_error {check : Except Failure α} {f : α → Attempt β} {s t : σ}
    {failure : Failure} {xs : List Exchange}
    (h : ((liftM check : Attempt α) >>= f).effect world s = ⟨.error failure, t, xs⟩) :
    (check = .error failure ∧ t = s ∧ xs = []) ∨
      ∃ a, check = .ok a ∧ (f a).effect world s = ⟨.error failure, t, xs⟩ := by
  cases check with
  | error e =>
    simp only [effect_bind, effect_check, Effect.mk.injEq, Except.error.injEq] at h
    obtain ⟨rfl, rfl, rfl⟩ := h
    exact Or.inl ⟨rfl, rfl, rfl⟩
  | ok a => exact Or.inr ⟨a, rfl, h⟩

/-- A log line before an attempt is no effect. -/
@[simp] theorem effect_note_bind (line : LogLine) (f : Unit → Attempt β) (s : σ) :
    ((liftM (Action.note line) : Attempt Unit) >>= f).effect world s = (f ()).effect world s := by
  rw [effect_action_bind, Action.effect_note, Effect.after_nil]

theorem mapError_ok (report : Failure → Failure) (a : α) :
    (Except.ok a).mapError report = .ok a := rfl

theorem mapError_error (report : Failure → Failure) (failure : Failure) :
    (Except.error failure : Except Failure α).mapError report = .error (report failure) := rfl

/-- Reporting a failure in another way changes nothing else. -/
theorem effect_orElseFail (x : Attempt α) (report : Failure → Failure) (s : σ) :
    (x.orElseFail report).effect world s =
      ⟨(x.effect world s).result.mapError report, (x.effect world s).state,
        (x.effect world s).exchanges⟩ := by
  unfold orElseFail effect
  change (x.run >>= fun result => pure (result.mapError report)).effect world s = _
  rw [Action.effect_bind, Action.effect_pure, Effect.after, List.append_nil]

theorem effect_orElseFail_ok {x : Attempt α} {report : Failure → Failure} {s t : σ} {a : α}
    {xs : List Exchange} (h : (x.orElseFail report).effect world s = ⟨.ok a, t, xs⟩) :
    x.effect world s = ⟨.ok a, t, xs⟩ := by
  rw [effect_orElseFail] at h
  rcases hx : x.effect world s with ⟨_ | b, u, ys⟩
  · simp [hx, mapError_error] at h
  · simpa [hx, mapError_ok] using h

theorem effect_orElseFail_error {x : Attempt α} {report : Failure → Failure} {s t : σ}
    {failure : Failure} {xs : List Exchange}
    (h : (x.orElseFail report).effect world s = ⟨.error failure, t, xs⟩) :
    ∃ e, x.effect world s = ⟨.error e, t, xs⟩ ∧ failure = report e := by
  rw [effect_orElseFail] at h
  rcases hx : x.effect world s with ⟨e | _, u, ys⟩
  · simp only [hx, mapError_error, Effect.mk.injEq, Except.error.injEq] at h
    obtain ⟨rfl, rfl, rfl⟩ := h
    exact ⟨e, rfl, rfl⟩
  · simp [hx, mapError_ok] at h

/-- Looking at the outcome of an attempt is no effect. -/
theorem effect_settle_bind (x : Attempt α) (f : Except Failure α → Attempt β) (s : σ) :
    (x.settle >>= f).effect world s =
      ((f (x.effect world s).result).effect world (x.effect world s).state).after
        (x.effect world s).exchanges :=
  effect_action_bind x.run f s

end Attempt

/-! ## A world to try actions in -/

/-- A world without memory, where every call is answered but those that `fails` lets fail. Media are
what their address says, rooms are named for the account they are with, handles for the file. -/
def World.answering (fails : Call → Option Failure) : World Unit where
  answer c s :=
    let reply : c.Reply :=
      match fails c with
      | some reason => .error reason
      | none => .ok (match c with
        | .findSession _ value => some ⟨value, "P1", "token", "App", "@agent", none⟩
        | .insertSession session => session
        | .removeSession _ => ()
        | .bind _ => ()
        | .mediaLink _ mediaId => some ⟨"cdn/" ++ mediaId, none, none, none⟩
        | .downloadMedia _ url => some (Bytes.ascii url)
        | .uploadMedia _ _ => "M1"
        | .sendMessage _ _ => "S1"
        | .ensurePortal request => ⟨"!" ++ request.chat.receiver⟩
        | .uploadContent _ upload => ⟨upload.fileName⟩
        | .downloadContent _ => []
        | .sendNotice _ _ => ()
        | .queueMessage _ _ => ())
    (reply, s)
  isCancelled _ := false

end RoomBridge
