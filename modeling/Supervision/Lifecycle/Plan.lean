import Supervision.Server.Stop

/-!
# Plans

A run calls the parts of a service in an order of its own, and does some things between the calls. A
`Plan` is an activity whose calls are still to be made: what is called, and in which order, can be
told from the plan, whatever the parts do. `Plan.perform` makes the calls as a `Behaviour` says.
-/

namespace Supervision

variable {κ υ α β : Type}

/-! ## Calls -/

/-- A call of a part of a service. Indices count from zero among parts of one kind. -/
inductive Call (κ : Type) where
  /-- Starts a component. -/
  | start (index : Nat) (callback : Callback κ)
  /-- Stops a component because a later one did not start. -/
  | rollback (index : Nat) (callback : Callback κ)
  /-- Starts a runner. -/
  | startRunner (index : Nat) (runner : Runner κ)
  /-- Stops a runner. -/
  | stopRunner (index : Nat) (runner : Runner κ)
  /-- Stops a component. -/
  | stop (index : Nat) (callback : Callback κ)
  /-- Calls a shutdown hook. -/
  | hook (index : Nat) (callback : Callback κ)

namespace Call

/-- The place of the called part among those of its kind. -/
def index : Call κ → Nat
  | start index _ => index
  | rollback index _ => index
  | startRunner index _ => index
  | stopRunner index _ => index
  | stop index _ => index
  | hook index _ => index

/-- The error of a failed call. -/
def error : Call κ → Cause → LifecycleError
  | start index _, cause => .start index cause
  | rollback index _, cause => .rollback index cause
  | startRunner _ runner, cause => .runnerStart runner.name cause
  | stopRunner _ runner, cause => .runnerStop runner.name cause
  | stop index _, cause => .stop index cause
  | hook index _, cause => .shutdownHook index cause

/-- The record of a failed call. -/
def record : Call κ → Cause → Record
  | start index _, cause => .componentStartFailed index cause
  | rollback index _, cause => .rollbackFailed index cause
  | startRunner _ runner, cause => .runnerStartFailed runner.name cause
  | stopRunner _ runner, cause => .runnerStopFailed runner.name cause
  | stop index _, cause => .componentStopFailed index cause
  | hook index _, cause => .hookFailed index cause

/-- The samples of a call that ended in some way. -/
def samples : Call κ → Ending → List Metric
  | start _ _, .ok => []
  | start _ _, .error => [.startFailure .lifecycle]
  | rollback _ _, ending => [.rollback ending]
  | startRunner _ _, .ok => []
  | startRunner _ _, .error => [.startFailure .runner]
  | stopRunner _ runner, .ok => [.runnerStop runner.name .ok]
  | stopRunner _ runner, .error =>
    [.runnerStop runner.name .error, .teardownError .runnerStop]
  | stop _ _, .ok => []
  | stop _ _, .error => [.teardownError .lifecycleStop]
  | hook _ _, .ok => []
  | hook _ _, .error => [.teardownError .shutdownHook]

/-- The error that the outcome of a call amounts to, if it is one. -/
def failure? (c : Call κ) : Outcome → Option LifecycleError
  | .ok () => none
  | .error cause => some (c.error cause)

/-- Leaves behind what the outcome of a call calls for. -/
def note (c : Call κ) (outcome : Outcome) (w : World κ υ) : World κ υ :=
  match outcome with
  | .ok () => w.countAll (c.samples .ok)
  | .error cause => (w.log (c.record cause)).countAll (c.samples .error)

/-- What is done when the part is called with a context. -/
def flow (behaviour : Behaviour κ υ) (ctx : Token) : Call κ → Flow κ υ Outcome
  | start _ callback => callback.call behaviour ctx
  | rollback _ callback => callback.call behaviour ctx
  | startRunner _ (.custom _ starting _) => starting.call behaviour ctx
  | startRunner _ (.server _ id) => Server.start id
  | stopRunner _ (.custom _ _ stopping) => stopping.call behaviour ctx
  | stopRunner _ (.server _ id) => Server.stop id ctx
  | stop _ callback => callback.call behaviour ctx
  | hook _ callback => callback.call behaviour ctx

end Call

/-! ## Plans -/

/-- An activity over worlds that calls parts and goes on with their outcomes. -/
inductive Plan (κ υ α : Type) where
  | done (result : α)
  /-- Changes the world at once, and goes on knowing the world before. -/
  | act (change : World κ υ → World κ υ) (next : World κ υ → Plan κ υ α)
  /-- Goes on once the trigger is ready, knowing the world at that time. -/
  | wait (trigger : Trigger (World κ υ)) (next : World κ υ → Plan κ υ α)
  /-- Makes a call with a context, and goes on with its outcome. -/
  | call (c : Call κ) (ctx : Token) (next : Outcome → Plan κ υ α)
  /-- Makes a call that is given up after `ms` milliseconds. -/
  | callWithin (ms : Nat) (c : Call κ) (ctx : Token) (next : Option Outcome → Plan κ υ α)

namespace Plan

/-- One plan after another. -/
def bind : Plan κ υ α → (α → Plan κ υ β) → Plan κ υ β
  | done a, f => f a
  | act change next, f => act change fun w => (next w).bind f
  | wait trigger next, f => wait trigger fun w => (next w).bind f
  | call c ctx next, f => call c ctx fun outcome => (next outcome).bind f
  | callWithin ms c ctx next, f => callWithin ms c ctx fun outcome => (next outcome).bind f

instance : Monad (Plan κ υ) where
  pure := done
  bind := bind

/-- A plan without calls. -/
def ofFlow : Flow κ υ α → Plan κ υ α
  | .done a => done a
  | .act change next => act change fun w => ofFlow (next w)
  | .wait trigger next => wait trigger fun w => ofFlow (next w)

/-- The flow of a plan whose calls are made as the behaviour says. -/
def perform (behaviour : Behaviour κ υ) : Plan κ υ α → Flow κ υ α
  | done a => .done a
  | act change next => .act change fun w => (next w).perform behaviour
  | wait trigger next => .wait trigger fun w => (next w).perform behaviour
  | call c ctx next => (c.flow behaviour ctx).bind fun outcome => (next outcome).perform behaviour
  | callWithin ms c ctx next =>
    (Flow.within ms (c.flow behaviour ctx)).bind fun outcome => (next outcome).perform behaviour

/-! ## Calls in order -/

/-- What a plan leaves behind after a call. -/
abbrev Note (κ υ : Type) := Call κ → Outcome → World κ υ → World κ υ

/-- Makes a call, and notes its outcome. -/
def attempt (note : Note κ υ) (ctx : Token) (c : Call κ) : Plan κ υ Outcome :=
  call c ctx fun outcome => act (note c outcome) fun _ => done outcome

/-- Makes calls in order until one fails: that call, and why it failed. -/
def tryEach (ctx : Token) : List (Call κ) → Plan κ υ (Option (Call κ × Cause))
  | [] => return none
  | c :: rest => do
    match ← attempt Call.note ctx c with
    | .ok () => tryEach ctx rest
    | .error cause => return some (c, cause)

/-- Makes calls in order, whatever fails: all failures in order. -/
def callEach (note : Note κ υ) (ctx : Token) : List (Call κ) → Plan κ υ (List LifecycleError)
  | [] => return []
  | c :: rest => do
    let outcome ← attempt note ctx c
    let failures ← callEach note ctx rest
    return (c.failure? outcome).toList ++ failures

end Plan

end Supervision
