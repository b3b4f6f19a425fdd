import Supervision.Lifecycle.Startup

/-!
# The run of an orchestrator

`run` claims the orchestrator, starts its components and then its runners, waits for the token to be
cancelled, and tears everything down: runners and components in reverse, then the hooks in order. A
teardown runs to its end whatever fails, under a context of its own, and reports all failures.
-/

namespace Supervision.Lifecycle

variable {κ υ : Type}

/-- The calls of a teardown: runners and components, the last one first, and then the hooks. -/
def teardownCalls (parts : Orchestrator κ) : List (Call κ) :=
  (parts.runners.mapIdx .stopRunner).reverse ++ (parts.stops.mapIdx .stop).reverse ++
    parts.hooks.mapIdx .hook

/-- Stops everything that an orchestrator holds. -/
def teardown (parts : Orchestrator κ) : Plan κ υ RunOutcome := do
  let ctx ← .ofFlow Flow.freshToken
  let failures ← Plan.callEach Call.note ctx (teardownCalls parts)
  .ofFlow (Flow.count (.phaseDuration .teardown))
  return Errors.outcome failures

/-- Starts runners in order, until one fails. -/
def startRunners (ctx : Token) (runners : List (Runner κ)) : Plan κ υ RunOutcome := do
  match ← Plan.tryEach ctx (runners.mapIdx .startRunner) with
  | none => return .ok ()
  | some (c, cause) => return .error (.single (c.error cause))

/-- Starts all parts: components first, then runners. -/
def startParts (ctx : Token) (parts : Orchestrator κ) : Plan κ υ RunOutcome := do
  match ← startWithRollback ctx parts.starts parts.stops with
  | .error es => return .error es
  | .ok () => startRunners ctx parts.runners

/-- Runs the parts of an orchestrator until `ctx` is cancelled and everything is stopped again. -/
def runParts (ctx : Token) (parts : Orchestrator κ) : Plan κ υ RunOutcome := do
  .ofFlow (Flow.publish .starting)
  match ← startParts ctx parts with
  | .error es =>
    .ofFlow (Flow.publish .failed)
    return .error es
  | .ok () =>
    .ofFlow (Flow.count (.phaseDuration .startup))
    .ofFlow (Flow.publish .running)
    .ofFlow (Flow.cancelled ctx)
    .ofFlow (Flow.publish .stopping)
    let result ← teardown parts
    .ofFlow (Flow.publish .stopped)
    return result

/-- The parts of the orchestrator, for the first run that asks. -/
def claim (w : World κ υ) : Option (Orchestrator κ) × World κ υ :=
  match w.orchestrator.claim? with
  | none => (none, w)
  | some o => (some o, { w with orchestrator := o })

/-- Runs the orchestrator, unless another run has claimed it. -/
def run (ctx : Token) : Plan κ υ RunOutcome := do
  match ← .ofFlow (Activity.step claim) with
  | none => return .error (.single .alreadyRun)
  | some parts => runParts ctx parts

/-- The effect of a registration on a world. -/
def registerIn (r : Registration κ) (w : World κ υ) : Except LifecycleError Unit × World κ υ :=
  match w.orchestrator.register r with
  | .error e => (.error e, w)
  | .ok o => (.ok (), { w with orchestrator := o }.logAll r.records)

/-- Registers a part with the orchestrator. -/
def register (r : Registration κ) : Flow κ υ (Except LifecycleError Unit) :=
  Activity.step (registerIn r)

end Supervision.Lifecycle
