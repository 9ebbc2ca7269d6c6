import RoomBridge.Log
import RoomBridge.Service.Call

/-!
# Actions

An `Action` is what the bridge does, step by step: it calls a service and goes on with the reply,
writes a log line, or asks whether its delivery has been cancelled. How the services behave is left
open. A `World` settles it, from a state that may remember everything; `Action.run` is the run of an
action in a world, with all calls, replies and log lines in order.

* `Action` is a lawful monad;
* `Action.run_bind` : the run of two actions in a row is the one run after the other;
* `Attempt` : actions that may fail.
-/

namespace RoomBridge

/-- What the bridge does until it has a result. -/
inductive Action (α : Type) : Type
  | done (result : α)
  | call (c : Call) (next : c.Reply → Action α)
  | log (line : LogLine) (next : Action α)
  | isCancelled (next : Bool → Action α)

namespace Action

/-- Goes on with the result of an action. -/
def andThen {α β : Type} : Action α → (α → Action β) → Action β
  | done a, f => f a
  | call c next, f => call c fun reply => (next reply).andThen f
  | log line next, f => log line (next.andThen f)
  | isCancelled next, f => isCancelled fun b => (next b).andThen f

instance : Monad Action where
  pure := done
  bind := andThen

theorem andThen_done {α : Type} (a : Action α) : a.andThen done = a := by
  induction a with
  | done a => rfl
  | call c next ih => simp only [andThen, ih]
  | log line next ih => simp only [andThen, ih]
  | isCancelled next ih => simp only [andThen, ih]

theorem andThen_assoc {α β γ : Type} (a : Action α) (f : α → Action β) (g : β → Action γ) :
    (a.andThen f).andThen g = a.andThen fun x => (f x).andThen g := by
  induction a with
  | done a => rfl
  | call c next ih => simp only [andThen, ih]
  | log line next ih => simp only [andThen, ih]
  | isCancelled next ih => simp only [andThen, ih]

instance : LawfulMonad Action :=
  LawfulMonad.mk' Action andThen_done (fun _ _ => rfl) andThen_assoc

/-- A call and its reply. -/
def ask (c : Call) : Action c.Reply := call c done

/-- A log line. -/
def note (line : LogLine) : Action Unit := log line (done ())

/-- Whether the delivery has been cancelled. -/
def cancelled : Action Bool := isCancelled done

end Action

/-- An action that may fail. -/
abbrev Attempt (α : Type) : Type := ExceptT Failure Action α

/-- A call that has to be answered. -/
def Attempt.ask (c : Call) : Attempt c.Answer := ExceptT.mk (Action.ask c)

/-- An attempt whose outcome is looked at, whether it failed or not. -/
def Attempt.settle {α : Type} (attempt : Attempt α) : Attempt (Except Failure α) :=
  ExceptT.lift attempt.run

/-- An attempt whose failure is reported in another way. -/
def Attempt.orElseFail {α : Type} (attempt : Attempt α) (report : Failure → Failure) : Attempt α :=
  ExceptT.mk (attempt.run.andThen fun result => .done (result.mapError report))

/-! ## Runs -/

/-- How the services behave: replies depend on a state, which any call may change. -/
structure World (σ : Type) where
  answer : (c : Call) → σ → c.Reply × σ
  isCancelled : σ → Bool

/-- What can be seen of an action while it runs. -/
inductive Event
  | call (c : Call) (reply : c.Reply)
  | log (line : LogLine)

/-- The end of a run, and all that happened. -/
structure Run (σ α : Type) where
  result : α
  state : σ
  events : List Event

namespace Action

/-- Runs an action in a world. -/
def run {σ α : Type} (world : World σ) : Action α → σ → Run σ α
  | done a, s => ⟨a, s, []⟩
  | call c next, s =>
    let reply := world.answer c s
    let rest := (next reply.1).run world reply.2
    ⟨rest.result, rest.state, .call c reply.1 :: rest.events⟩
  | log line next, s =>
    let rest := next.run world s
    ⟨rest.result, rest.state, .log line :: rest.events⟩
  | isCancelled next, s => (next (world.isCancelled s)).run world s

@[simp] theorem run_pure {σ α : Type} (world : World σ) (a : α) (s : σ) :
    (pure a : Action α).run world s = ⟨a, s, []⟩ := rfl

@[simp] theorem run_ask {σ : Type} (world : World σ) (c : Call) (s : σ) :
    (ask c).run world s =
      ⟨(world.answer c s).1, (world.answer c s).2, [.call c (world.answer c s).1]⟩ := rfl

@[simp] theorem run_note {σ : Type} (world : World σ) (line : LogLine) (s : σ) :
    (note line).run world s = ⟨(), s, [.log line]⟩ := rfl

@[simp] theorem run_cancelled {σ : Type} (world : World σ) (s : σ) :
    cancelled.run world s = ⟨world.isCancelled s, s, []⟩ := rfl

/-- The second action runs where the first one ends. -/
theorem run_bind {σ α β : Type} (world : World σ) (a : Action α) (f : α → Action β) (s : σ) :
    (a >>= f).run world s =
      let first := a.run world s
      let second := (f first.result).run world first.state
      ⟨second.result, second.state, first.events ++ second.events⟩ := by
  change (a.andThen f).run world s = _
  induction a generalizing s with
  | done a => rfl
  | call c next ih => simp only [andThen, run, ih, List.cons_append]
  | log line next ih => simp only [andThen, run, ih, List.cons_append]
  | isCancelled next ih => simp only [andThen, run, ih]

end Action

/-- The calls among some events. -/
def Event.calls (events : List Event) : List Call :=
  events.filterMap fun | .call c _ => some c | .log _ => none

/-- The log lines among some events. -/
def Event.logLines (events : List Event) : List LogLine :=
  events.filterMap fun | .log line => some line | .call _ _ => none

end RoomBridge
