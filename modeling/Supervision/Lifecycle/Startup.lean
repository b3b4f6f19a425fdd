import Supervision.Lifecycle.Plan

/-!
# Startup

Components start one after the other. The first failure ends the startup: the components started
before it are stopped again, the last one first, under a context of their own. `startWithRollback`
reports the failure and every stop that failed after it.
-/

namespace Supervision.Lifecycle

variable {κ υ : Type}

/-- Undoes the start of components, the last one first, and reports what failed. -/
def rollback (stops : List (Callback κ)) : Plan κ υ (List LifecycleError) := do
  let ctx ← .ofFlow Flow.freshToken
  Plan.callEach Call.note ctx (stops.mapIdx .rollback).reverse

/-- Starts components in order. If one fails, the stops of those before it run in reverse. -/
def startWithRollback (ctx : Token) (starts stops : List (Callback κ)) :
    Plan κ υ RunOutcome := do
  match ← Plan.tryEach ctx (starts.mapIdx .start) with
  | none =>
    .ofFlow (Flow.count (.phaseDuration .lifecycleStart))
    return .ok ()
  | some (c, cause) =>
    let undone ← rollback (stops.take c.index)
    return .error ⟨c.error cause, undone⟩

/-- Starts components in order, and reports the failure that ended the startup alone. -/
def start (ctx : Token) (starts stops : List (Callback κ)) :
    Plan κ υ (Except LifecycleError Unit) := do
  return (← startWithRollback ctx starts stops).mapError Errors.first

end Supervision.Lifecycle
