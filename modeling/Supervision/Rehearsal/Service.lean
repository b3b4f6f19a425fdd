import Supervision.Http.Router
import Supervision.Rehearsal.Report
import Supervision.Server.Configured

/-!
# Rehearsals of an orchestrator

Steps on one orchestrator, its health checks and its router: registrations, runs in the foreground
and in the background, cancellations and requests. `rehearse` performs them in order and reports on
each. Health checks and a router can be rehearsed without an orchestrator, too: then no actor calls
one.
-/

namespace Supervision.Rehearsal

/-- A part to register, with scripts in place of callbacks. -/
inductive Part where
  | functions (name : String) (start stop : Script)
  | component (name : String) (start stop : Option Script)
  /-- A component that neither starts nor stops anything. -/
  | inertComponent
  | runner (name : String) (start stop : Script)
  | hook (name : String) (script : Script)
  | healthCheck (name : String) (liveness readiness : Option Script)
  | healthReporter (liveness readiness : List (String × Script))
  | server (made : Server)

/-- A change of the registered health checks. -/
inductive HealthChange where
  | register (side : HealthSide) (name : String) (check : Script)
  /-- A check on both sides that always succeeds. -/
  | registerHealthy (name : String)
  | registerAll (liveness readiness : List (String × Script))

/-- One step. -/
inductive Step where
  | add (part : Part)
  | changeHealth (change : HealthChange)
  | checkHealth (side : HealthSide)
  | request (method target : String)
  | publish (phase : Phase)
  | run (cancelling : Cancelling)
  /-- Starts a run in the background. -/
  | spawn
  /-- Awaits the oldest run in the background. -/
  | join
  | cancel
  | sleep (ms : Nat)
  /-- Only looks at the world. -/
  | look

/-- The result of a step. Where there is none, the operation took too long. -/
inductive StepResult where
  | nothing
  | looked
  | added (outcome : Except LifecycleError Unit)
  | ran (outcome : Option RunOutcome)
  | nothingSpawned
  | checked (response : Option HealthResponse)
  | answered (response : Option Http.Response)
  /-- The phase before. -/
  | published (before : Phase)

/-! ## Health checks -/

/-- The label of a check. -/
def checkLabel (side : HealthSide) (name : String) : String :=
  match side with
  | .liveness => "live:" ++ name
  | .readiness => "ready:" ++ name

/-- Puts named checks on a side of some checks. -/
def enlistChecks (side : HealthSide) :
    List (String × Script) → HealthChecks Actor → Play (HealthChecks Actor)
  | [], checks => return checks
  | (name, script) :: rest, checks => do
    let actor ← enlist (checkLabel side name) script
    enlistChecks side rest (checks.add side name (some actor))

/-- The checks of both sides as somebody reports them. -/
def enlistReporter (liveness readiness : List (String × Script)) : Play (HealthChecks Actor) := do
  enlistChecks .readiness readiness (← enlistChecks .liveness liveness {})

/-- Performs a change of the health checks. -/
def HealthChange.perform : HealthChange → Play Unit
  | .register side name check => do
    let actor ← enlist (checkLabel side name) check
    Activity.change (Health.registerIn side name (some actor))
  | .registerHealthy name => do
    Activity.change (Health.registerIn .liveness name none)
    Activity.change (Health.registerIn .readiness name none)
  | .registerAll liveness readiness => do
    let checks ← enlistReporter liveness readiness
    Activity.change (Health.registerAllIn checks)

/-! ## Parts -/

/-- The callbacks of a part, as a request to register it. -/
def Part.enlist : Part → Play (Registration Actor)
  | .functions name start stop => do
    let start ← Rehearsal.enlist ("start:" ++ name) start
    let stop ← Rehearsal.enlist ("stop:" ++ name) stop
    return .component ⟨some start, some stop⟩
  | .component name start stop => do
    let start ← enlistIfAny ("start:" ++ name) start
    let stop ← enlistIfAny ("stop:" ++ name) stop
    return .component ⟨start, stop⟩
  | .inertComponent => return .component ⟨none, none⟩
  | .runner name start stop => do
    let start ← Rehearsal.enlist ("start:" ++ name) start
    let stop ← Rehearsal.enlist ("stop:" ++ name) stop
    return .runner (.custom name (some start) (some stop))
  | .hook name script => do
    let actor ← Rehearsal.enlist ("hook:" ++ name) script
    return .hook (some actor)
  | .healthCheck name liveness readiness => do
    let liveness ← enlistIfAny ("live:" ++ name) liveness
    let readiness ← enlistIfAny ("ready:" ++ name) readiness
    return .healthCheck name liveness readiness
  | .healthReporter liveness readiness => do
    let checks ← enlistReporter liveness readiness
    return .healthReporter checks
  | .server made => do
    let id ← Activity.step fun w => w.addServer made
    let runner := Runner.server made.name id
    match made.kind with
    | .http => return .httpServer runner
    | .grpc => return .grpcServer runner

/-! ## Runs in the background -/

/-- Notes the outcome of a run in the background. -/
def noteOutcome (number : Nat) (outcome : RunOutcome) (w : Stage) :
    Stage :=
  w.changeUser fun n =>
    { n with
      unjoined := n.unjoined.map fun r =>
        if r.number = number then { r with outcome := some outcome } else r }

/-- A new number for a run in the background. -/
def numberRun : Play Nat :=
  Activity.step fun w =>
    let number := w.user.spawned
    (number, w.changeUser fun n =>
      { n with spawned := number + 1, unjoined := n.unjoined ++ [⟨number, none⟩] })

/-- Nobody can join a run any more. -/
def isForgotten (number : Nat) (w : Stage) : Bool :=
  w.user.unjoined.all (·.number ≠ number)

/-- A run whose outcome is noted. It is given up once it is forgotten. -/
def backgroundRun (number : Nat) : Play Unit :=
  Activity.haltWhen (isForgotten number) do
    let outcome ← (Lifecycle.run runToken).perform Actor.behaviour
    Activity.change (noteOutcome number outcome)

/-- The oldest run that nobody has joined, which then is joined. -/
def takeOldest : Play (Option Nat) :=
  Activity.step fun w =>
    match w.user.unjoined with
    | [] => (none, w)
    | r :: _ => (some r.number, w)

/-- The outcome of a run in the background. -/
def outcomeOf? (number : Nat) (w : Stage) : Option RunOutcome :=
  (w.user.unjoined.find? (·.number = number)).bind (·.outcome)

/-- From now on, nobody can join a run. -/
def forget (number : Nat) (w : Stage) : Stage :=
  w.changeUser fun n => { n with unjoined := n.unjoined.filter (·.number ≠ number) }

/-- Awaits the oldest run in the background. Where that takes too long, the run is given up. -/
def joinOldest : Play StepResult := do
  match ← takeOldest with
  | none => return .nothingSpawned
  | some number =>
    let outcome ← patiently
      (Activity.awaitLook (.whenever fun w => (outcomeOf? number w).isSome) (outcomeOf? number))
    Activity.change (forget number)
    return .ran outcome.join

/-! ## Steps -/

/-- Performs a step, with actors of the given behaviour outside of runs; a run in the background is
only numbered here. -/
def Step.perform (behaviour : Behaviour Actor Notes) (router : Http.Router) :
    Step → Play StepResult
  | .add part => do
    let registration ← part.enlist
    return .added (← Lifecycle.register registration)
  | .changeHealth change => do
    change.perform
    return .nothing
  | .checkHealth side => return .checked (← patiently (Health.check behaviour side))
  | .request method target =>
    return .answered (← patiently (router.handle behaviour method target))
  | .publish phase => do
    let before ← Activity.look fun w => w.orchestrator.phase
    Flow.publish phase
    return .published before
  | .run cancelling => do
    cancelling.apply runToken
    return .ran (← patiently ((Lifecycle.run runToken).perform Actor.behaviour))
  | .spawn => return .nothing
  | .join => joinOldest
  | .cancel => do
    Activity.change (World.cancel runToken)
    Activity.giveWay
    return .nothing
  | .sleep ms => do
    Flow.sleep ms
    Activity.giveWay
    return .nothing
  | .look => return .looked

/-- The longest time that a step can take, in milliseconds. -/
def Step.spanMs : Step → Nat
  | .sleep ms => ms + 1
  | _ => patienceMs + 1

/-- Performs steps in order. A run in the background goes on beside all steps after it. -/
def playSteps (behaviour : Behaviour Actor Notes) (router : Http.Router) :
    List Step → Play (List (Report StepResult))
  | [] => return []
  | .spawn :: rest => do
    let number ← numberRun
    Activity.beside (backgroundRun number) do
      Activity.giveWay
      let done ← report .nothing
      return done :: (← playSteps behaviour router rest)
  | step :: rest => do
    let result ← step.perform behaviour router
    let done ← report result
    return done :: (← playSteps behaviour router rest)

/-- The latest instant to which steps can lead. -/
def horizonOf (steps : List Step) : Nat :=
  steps.foldl (fun total step => total + step.spanMs) 1

/-- Performs steps in order, from the beginning of a rehearsal or from a given phase. -/
def rehearse (behaviour : Behaviour Actor Notes) (router : Http.Router) (phase : Phase)
    (steps : List Step) : List (Report StepResult) × Stage :=
  let w := { emptyStage with orchestrator := { phase := phase } }
  let (reports, w) := perform (horizonOf steps) (playSteps behaviour router steps) w
  (reports.getD [], w)

end Supervision.Rehearsal
