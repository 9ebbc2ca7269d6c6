import RoomBridge.Proofs.Effect
import RoomBridge.Service.Store

/-!
# What an action may ask for

`Action.Asks P a` says of the action alone, before any world is chosen, that it makes no other calls
than those of `P`, whatever is replied. It is closed under everything that actions are built of, so
the calls of a function are read off its text.

* `Action.Asks.mem_exchanges`, `Action.Asks.mem_calls` : the calls of every run are in `P`;
* `Action.Asks.table_eq` : without an insertion or a removal the session table stays as it is.
-/

namespace RoomBridge

/-- Every call but those that change the session table. -/
def Call.KeepsTable (c : Call) : Prop :=
  (∀ session, c ≠ .insertSession session) ∧ ∀ businessId, c ≠ .removeSession businessId

theorem Event.calls_eq (events : List Event) :
    Event.calls events = (Event.exchanges events).map (·.call) := by
  induction events with
  | nil => rfl
  | cons event events ih =>
    cases event with
    | call c reply => exact congrArg (c :: ·) ih
    | log line => exact ih

variable {σ α β : Type} {P Q : Call → Prop}

/-! ## Actions -/

/-- Every call that the action can make is one of `P`. -/
def Action.Asks (P : Call → Prop) : Action α → Prop
  | .done _ => True
  | .call c next => P c ∧ ∀ reply, (next reply).Asks P
  | .log _ next => next.Asks P
  | .isCancelled next => ∀ b, (next b).Asks P

namespace Action.Asks

@[simp] theorem pure (a : α) : (Pure.pure a : Action α).Asks P := trivial

@[simp] theorem note (line : LogLine) : (Action.note line).Asks P := trivial

@[simp] theorem cancelled : Action.cancelled.Asks P := fun _ => trivial

@[simp] theorem ask_iff (c : Call) : (Action.ask c).Asks P ↔ P c :=
  ⟨fun h => h.1, fun h => ⟨h, fun _ => trivial⟩⟩

theorem bind {a : Action α} {f : α → Action β} (ha : a.Asks P) (hf : ∀ x, (f x).Asks P) :
    (a >>= f).Asks P := by
  induction a with
  | done x => exact hf x
  | call c next ih => exact ⟨ha.1, fun reply => ih reply (ha.2 reply)⟩
  | log line next ih => exact ih ha
  | isCancelled next ih => exact fun b => ih b (ha b)

theorem map {a : Action α} (f : α → β) (ha : a.Asks P) : (f <$> a).Asks P :=
  bind ha fun x => pure (f x)

theorem mono {a : Action α} (h : ∀ c, P c → Q c) (ha : a.Asks P) : a.Asks Q := by
  induction a with
  | done x => trivial
  | call c next ih => exact ⟨h c ha.1, fun reply => ih reply (ha.2 reply)⟩
  | log line next ih => exact ih ha
  | isCancelled next ih => exact fun b => ih b (ha b)

/-! ## Their runs -/

theorem mem_exchanges {a : Action α} (ha : a.Asks P) (world : World σ) (s : σ) :
    ∀ x ∈ (a.effect world s).exchanges, P x.call := by
  induction a generalizing s with
  | done x => exact fun _ h => absurd h List.not_mem_nil
  | call c next ih => exact List.forall_mem_cons.mpr ⟨ha.1, ih _ (ha.2 _) _⟩
  | log line next ih => exact ih ha s
  | isCancelled next ih => exact ih _ (ha _) s

theorem mem_calls {a : Action α} (ha : a.Asks P) (world : World σ) (s : σ) :
    ∀ c ∈ Event.calls (a.run world s).events, P c := by
  intro c hc
  rw [Event.calls_eq] at hc
  obtain ⟨x, hx, rfl⟩ := List.mem_map.mp hc
  exact ha.mem_exchanges world s x hx

/-- Only an insertion or a removal changes the session table. -/
theorem table_eq {a : Action α} (ha : a.Asks Call.KeepsTable) (around : Surroundings σ)
    (s : σ × SessionTable) : (a.effect around.world s).state.2 = s.2 := by
  induction a generalizing s with
  | done x => rfl
  | call c next ih =>
    refine (ih _ (ha.2 _) (around.answerWith c s).2).trans ?_
    cases c with
    | insertSession session => exact absurd rfl (ha.1.1 session)
    | removeSession businessId => exact absurd rfl (ha.1.2 businessId)
    | _ => rfl
  | log line next ih => exact ih ha s
  | isCancelled next ih => exact ih _ (ha _) s

end Action.Asks

/-! ## Attempts -/

/-- Every call that the attempt can make is one of `P`. -/
def Attempt.Asks (P : Call → Prop) (x : Attempt α) : Prop := Action.Asks P x.run

namespace Attempt.Asks

@[simp] theorem pure (a : α) : Attempt.Asks P (Pure.pure a : Attempt α) := trivial

@[simp] theorem throw (failure : Failure) : Attempt.Asks P (throw failure : Attempt α) := trivial

@[simp] theorem ask_iff (c : Call) : Attempt.Asks P (Attempt.ask c) ↔ P c := Action.Asks.ask_iff c

theorem action {a : Action α} (ha : a.Asks P) : Attempt.Asks P (liftM a : Attempt α) :=
  Action.Asks.bind ha fun _ => trivial

theorem note (line : LogLine) : Attempt.Asks P (liftM (Action.note line) : Attempt Unit) := trivial

theorem bind {x : Attempt α} {f : α → Attempt β} (hx : Attempt.Asks P x)
    (hf : ∀ a, Attempt.Asks P (f a)) : Attempt.Asks P (x >>= f) :=
  Action.Asks.bind hx fun
    | .ok a => hf a
    | .error _ => trivial

/-- What comes after a check only has to be looked at where the check passes. -/
theorem check_bind {check : Except Failure α} {f : α → Attempt β}
    (hf : ∀ a, check = .ok a → Attempt.Asks P (f a)) :
    Attempt.Asks P ((liftM check : Attempt α) >>= f) := by
  cases check with
  | error failure => trivial
  | ok a => exact hf a rfl

theorem orElseFail {x : Attempt α} (hx : Attempt.Asks P x) (report : Failure → Failure) :
    Attempt.Asks P (x.orElseFail report) :=
  Action.Asks.bind hx fun _ => trivial

theorem settle {x : Attempt α} (hx : Attempt.Asks P x) : Attempt.Asks P x.settle :=
  action hx

end Attempt.Asks

end RoomBridge
