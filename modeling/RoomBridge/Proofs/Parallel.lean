import RoomBridge.Proofs.Footprint

/-!
# Two runs side by side

A `View` says what an observer sees of calls and replies. Two actions are alike to him if each call
of the one looks like the call that the other makes instead, and both go on alike whenever they get
replies that look the same. This says nothing of a world yet; in worlds that reply alike, alike
actions have runs that the observer cannot tell apart.

* `Action.Alike`, `Attempt.Alike` : closed under everything that actions are built of;
* `Action.Asks.alike` : an action that hides nothing is like itself;
* `Action.Alike.run` : the two runs.
-/

namespace RoomBridge

/-- What an observer sees of a call, and of the reply to it. -/
structure View where
  call : Call → Call
  reply : (c : Call) → c.Reply → (call c).Reply

namespace View

def exchange (view : View) (x : Exchange) : Exchange :=
  ⟨view.call x.call, view.reply x.call x.reply⟩

/-- An event as it is seen; log lines are seen as they are. -/
def event (view : View) : Event → Event
  | .call c reply => .call (view.call c) (view.reply c reply)
  | .log line => .log line

/-- Replies to a call that look the same are the same. -/
def Shows (view : View) (c : Call) : Prop :=
  ∀ reply answer, view.exchange ⟨c, answer⟩ = view.exchange ⟨c, reply⟩ → answer = reply

variable {view : View} {events others : List Event}

/-- Of events that look the same, the calls look the same. -/
theorem calls_eq (h : others.map view.event = events.map view.event) :
    (Event.calls others).map view.call = (Event.calls events).map view.call := by
  have hcalls : ∀ events, (Event.calls events).map view.call =
      Event.calls (events.map view.event) := by
    intro events
    induction events with
    | nil => rfl
    | cons event events ih =>
      cases event with
      | call c reply => exact congrArg (view.call c :: ·) ih
      | log line => exact ih
  rw [hcalls, hcalls, h]

/-- Of events that look the same, the log lines are the same. -/
theorem logLines_eq (h : others.map view.event = events.map view.event) :
    Event.logLines others = Event.logLines events := by
  have hlines : ∀ events, Event.logLines events = Event.logLines (events.map view.event) := by
    intro events
    induction events with
    | nil => rfl
    | cons event events ih =>
      cases event with
      | call c reply => exact ih
      | log line => exact congrArg (line :: ·) ih
  rw [hlines, h, ← hlines]

end View

variable {σ τ α β : Type} {view : View} {R : α → α → Prop} {S : β → β → Prop}

/-! ## Actions -/

namespace Action

/-- Two actions that are alike to an observer, up to their results, of which `R` holds. -/
inductive Alike (view : View) (R : α → α → Prop) : Action α → Action α → Prop
  | done {a b : α} : R a b → Alike view R (.done a) (.done b)
  | call {c d : Call} {next : c.Reply → Action α} {after : d.Reply → Action α} :
    view.call d = view.call c →
    (∀ reply answer, view.exchange ⟨d, answer⟩ = view.exchange ⟨c, reply⟩ →
      Alike view R (next reply) (after answer)) →
    Alike view R (.call c next) (.call d after)
  | log (line : LogLine) {a b : Action α} : Alike view R a b →
    Alike view R (.log line a) (.log line b)
  | isCancelled {next after : Bool → Action α} : (∀ b, Alike view R (next b) (after b)) →
    Alike view R (.isCancelled next) (.isCancelled after)

namespace Alike

theorem pure {a b : α} (h : R a b) : Alike view R (Pure.pure a) (Pure.pure b) := .done h

theorem bind {a b : Action α} {f g : α → Action β} (h : Alike view R a b)
    (hnext : ∀ x y, R x y → Alike view S (f x) (g y)) : Alike view S (a >>= f) (b >>= g) := by
  induction h with
  | done h => exact hnext _ _ h
  | call hcall _ ih => exact .call hcall ih
  | log line _ ih => exact .log line ih
  | isCancelled _ ih => exact .isCancelled ih

theorem map {a b : Action α} {f g : α → β} (h : Alike view R a b)
    (hmap : ∀ x y, R x y → S (f x) (g y)) : Alike view S (f <$> a) (g <$> b) :=
  bind h fun x y hxy => .done (hmap x y hxy)

theorem mono {R' : α → α → Prop} {a b : Action α} (h : Alike view R a b)
    (himp : ∀ x y, R x y → R' x y) : Alike view R' a b := by
  induction h with
  | done h => exact .done (himp _ _ h)
  | call hcall _ ih => exact .call hcall ih
  | log line _ ih => exact .log line ih
  | isCancelled _ ih => exact .isCancelled ih

end Alike

/-- An action that asks for nothing of which something is hidden is like itself. -/
theorem Asks.alike {a : Action α} (h : a.Asks view.Shows) : Alike view Eq a a := by
  induction a with
  | done a => exact .done rfl
  | call c next ih =>
    refine .call rfl fun reply answer hsame => ?_
    rw [h.1 reply answer hsame]
    exact ih reply (h.2 reply)
  | log line next ih => exact .log line (ih h)
  | isCancelled next ih => exact .isCancelled fun b => ih b (h b)

end Action

/-! ## Options -/

theorem optionRel_refl : ∀ a : Option α, Option.Rel Eq a a
  | none => .none
  | some _ => .some rfl

/-- Options that are the same once something is erased. -/
theorem optionRel_of_map {γ : Type} {f : α → γ} : ∀ {x y : Option α}, y.map f = x.map f →
    Option.Rel (fun a b => f b = f a) x y
  | none, none, _ => .none
  | some _, some _, h => .some (Option.some.inj h)

theorem optionRel_mono {R S : α → α → Prop} {x y : Option α} (h : Option.Rel R x y)
    (himp : ∀ a b, R a b → S a b) : Option.Rel S x y := by
  cases h with
  | none => exact .none
  | some hab => exact .some (himp _ _ hab)

/-! ## Attempts -/

/-- Two outcomes: the same failure, or results of which `R` holds. -/
inductive Matched (R : α → α → Prop) : Except Failure α → Except Failure α → Prop
  | failed (failure : Failure) : Matched R (.error failure) (.error failure)
  | passed {a b : α} : R a b → Matched R (.ok a) (.ok b)

/-- Outcomes that are the same once something is erased. -/
theorem Matched.of_map {γ : Type} {f : α → γ} {r q : Except Failure α}
    (h : q.map f = r.map f) : Matched (fun a b => f b = f a) r q := by
  cases r with
  | error failure =>
    cases q with
    | error again =>
      cases h
      exact .failed _
    | ok b => cases h
  | ok a =>
    cases q with
    | error again => cases h
    | ok b => exact .passed (Except.ok.inj h)

theorem Matched.of_eq {r q : Except Failure α} (h : q = r) : Matched Eq r q := by
  subst h
  cases q with
  | error failure => exact .failed failure
  | ok a => exact .passed rfl

theorem Matched.mono {R S : α → α → Prop} {r q : Except Failure α} (h : Matched R r q)
    (himp : ∀ a b, R a b → S a b) : Matched S r q := by
  cases h with
  | failed failure => exact .failed failure
  | passed hab => exact .passed (himp _ _ hab)

theorem Matched.eq {r q : Except Failure α} (h : Matched Eq r q) : q = r := by
  cases h with
  | failed failure => rfl
  | passed hab => rw [hab]

/-- Two attempts that are alike to an observer. -/
def Attempt.Alike (view : View) (R : α → α → Prop) (x y : Attempt α) : Prop :=
  Action.Alike view (Matched R) x.run y.run

namespace Attempt.Alike

theorem pure {a b : α} (h : R a b) :
    Attempt.Alike view R (Pure.pure a : Attempt α) (Pure.pure b) :=
  .done (.passed h)

theorem throw (failure : Failure) :
    Attempt.Alike view R (throw failure : Attempt α) (throw failure) :=
  .done (.failed failure)

/-- A call with an answer of which nothing is hidden. -/
theorem ask {c : Call} (h : view.Shows c) : Attempt.Alike view Eq (Attempt.ask c) (Attempt.ask c) :=
  .call rfl fun reply answer hsame => .done (.of_eq (h reply answer hsame))

theorem action {a b : Action α} (h : Action.Alike view R a b) :
    Attempt.Alike view R (liftM a : Attempt α) (liftM b) :=
  Action.Alike.bind h fun _ _ hab => .done (.passed hab)

theorem note (line : LogLine) :
    Attempt.Alike view Eq (liftM (Action.note line) : Attempt Unit) (liftM (Action.note line)) :=
  .log line (.done (.passed rfl))

theorem bind {x y : Attempt α} {f g : α → Attempt β} (h : Attempt.Alike view R x y)
    (hnext : ∀ a b, R a b → Attempt.Alike view S (f a) (g b)) :
    Attempt.Alike view S (x >>= f) (y >>= g) := by
  refine Action.Alike.bind h fun r q hrq => ?_
  cases hrq with
  | failed failure => exact .done (.failed failure)
  | passed hab => exact hnext _ _ hab

/-- What comes after the same thing only has to be looked at for the same result. -/
theorem bind_eq {x y : Attempt α} {f g : α → Attempt β} (h : Attempt.Alike view Eq x y)
    (hnext : ∀ a, Attempt.Alike view S (f a) (g a)) :
    Attempt.Alike view S (x >>= f) (y >>= g) :=
  bind h fun a _ hab => hab ▸ hnext a

/-- What comes after the same check only has to be looked at where it passes. -/
theorem check_bind {check : Except Failure α} {f g : α → Attempt β}
    (hnext : ∀ a, check = .ok a → Attempt.Alike view S (f a) (g a)) :
    Attempt.Alike view S ((liftM check : Attempt α) >>= f) ((liftM check : Attempt α) >>= g) := by
  cases check with
  | error failure => exact .done (.failed failure)
  | ok a => exact hnext a rfl

theorem mono {R' : α → α → Prop} {x y : Attempt α} (h : Attempt.Alike view R x y)
    (himp : ∀ a b, R a b → R' a b) : Attempt.Alike view R' x y :=
  Action.Alike.mono h fun _ _ hrq => hrq.mono himp

theorem orElseFail {x y : Attempt α} (h : Attempt.Alike view R x y) (report : Failure → Failure) :
    Attempt.Alike view R (x.orElseFail report) (y.orElseFail report) := by
  refine Action.Alike.bind h fun r q hrq => .done ?_
  cases hrq with
  | failed failure => exact .failed (report failure)
  | passed hab => exact .passed hab

theorem settle {x y : Attempt α} (h : Attempt.Alike view R x y) :
    Attempt.Alike view (Matched R) x.settle y.settle :=
  action h

end Attempt.Alike

/-- An attempt that asks for nothing of which something is hidden is like itself. -/
theorem Attempt.Asks.alike {x : Attempt α} (h : Attempt.Asks view.Shows x) :
    Attempt.Alike view Eq x x :=
  (Action.Asks.alike h).mono fun _ _ hr => .of_eq hr.symm

/-! ## Their runs -/

/-- Another world that replies alike to calls that look the same, as long as `R` holds of the two
states, which it does for good. -/
structure World.Alike (view : View) (R : σ → τ → Prop) (world : World σ) (other : World τ) :
    Prop where
  isCancelled : ∀ s t, R s t → other.isCancelled t = world.isCancelled s
  reply : ∀ s t c d, R s t → view.call d = view.call c →
    view.exchange ⟨d, (other.answer d t).1⟩ = view.exchange ⟨c, (world.answer c s).1⟩
  state : ∀ s t c d, R s t → view.call d = view.call c →
    R (world.answer c s).2 (other.answer d t).2

/-- Alike actions have runs that cannot be told apart. -/
theorem Action.Alike.run {world : World σ} {other : World τ} {T : σ → τ → Prop}
    {a b : Action α} (h : Action.Alike view R a b) (hworld : world.Alike view T other) (s : σ)
    (t : τ) (hst : T s t) :
    let first := a.run world s
    let again := b.run other t
    R first.result again.result ∧ T first.state again.state ∧
      again.events.map view.event = first.events.map view.event := by
  -- Every call leaves states of which `T` holds again, so what follows starts in any such two.
  induction h generalizing s t with
  | done h => exact ⟨h, hst, rfl⟩
  | @call c d next after hcall _ ih =>
    have hreply := hworld.reply s t c d hst hcall
    obtain ⟨hresult, hstate, hevents⟩ :=
      ih _ _ hreply _ _ (hworld.state s t c d hst hcall)
    have hevent : view.event (.call d (other.answer d t).1) =
        view.event (.call c (world.answer c s).1) :=
      congrArg (fun x : Exchange => Event.call x.call x.reply) hreply
    exact ⟨hresult, hstate, List.cons_eq_cons.mpr ⟨hevent, hevents⟩⟩
  | log line _ ih =>
    obtain ⟨hresult, hstate, hevents⟩ := ih s t hst
    exact ⟨hresult, hstate, congrArg (Event.log line :: ·) hevents⟩
  | isCancelled _ ih =>
    have hcancelled := hworld.isCancelled s t hst
    simp only [Action.run, hcancelled]
    exact ih _ s t hst

end RoomBridge
