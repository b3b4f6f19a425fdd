import Supervision.Failure
import Supervision.Health.Registry
import Supervision.Phase

/-!
# Orchestrators

An orchestrator takes registrations until its one run claims it. `register` accepts a registration
or refuses it without any change; `claim?` hands the registered parts to the first run and to no
other. The phases that it has published stay on record, the last one being the present.
-/

namespace Supervision

/-- A component: what starts it and what undoes that. -/
structure Component (κ : Type) where
  start : Callback κ
  stop : Callback κ

/-- The text of a component: which of its two callbacks it has. -/
def Component.text {κ : Type} (c : Component κ) : String :=
  "LifecycleHooks \x7b on_start: " ++ toString c.start.isSome ++ ", on_stop: " ++
    toString c.stop.isSome ++ " \x7d"

/-- Something with a serve loop of its own. -/
inductive Runner (κ : Type) where
  /-- A runner given by its two callbacks. -/
  | custom (name : String) (start stop : Callback κ)
  /-- A server, by its number. -/
  | server (name : String) (id : Nat)

/-- The name of a runner. -/
def Runner.name {κ : Type} : Runner κ → String
  | .custom name _ _ => name
  | .server name _ => name

/-- A request to take part in the run. -/
inductive Registration (κ : Type) where
  | runner (runner : Runner κ)
  | httpServer (runner : Runner κ)
  | grpcServer (runner : Runner κ)
  | component (component : Component κ)
  | hook (hook : Callback κ)
  | healthCheck (name : String) (liveness readiness : Callback κ)
  | healthReporter (checks : HealthChecks κ)

/-- The state of an orchestrator. -/
structure Orchestrator (κ : Type) where
  components : List (Component κ) := []
  runners : List (Runner κ) := []
  hooks : List (Callback κ) := []
  httpConfigured : Bool := false
  /-- A run has claimed the orchestrator. -/
  claimed : Bool := false
  /-- The phases before the present one, the earliest first. -/
  pastPhases : List Phase := []
  phase : Phase := .configuring
  health : HealthChecks κ := {}

namespace Orchestrator

variable {κ : Type}

/-- The callbacks that start the components. -/
def starts (o : Orchestrator κ) : List (Callback κ) :=
  o.components.map (·.start)

/-- The callbacks that stop the components. -/
def stops (o : Orchestrator κ) : List (Callback κ) :=
  o.components.map (·.stop)

/-- All phases published so far. -/
def published (o : Orchestrator κ) : List Phase :=
  o.pastPhases ++ [o.phase]

/-- Publishes a phase. -/
def publish (o : Orchestrator κ) (phase : Phase) : Orchestrator κ :=
  { o with pastPhases := o.published, phase := phase }

/-- The effect of a registration on an orchestrator that no run has claimed. -/
def accept (o : Orchestrator κ) : Registration κ → Except LifecycleError (Orchestrator κ)
  | .runner r => .ok { o with runners := o.runners ++ [r] }
  | .httpServer r =>
    if o.httpConfigured then .error .httpAlreadyConfigured
    else .ok { o with httpConfigured := true, runners := o.runners ++ [r] }
  | .grpcServer r => .ok { o with runners := o.runners ++ [r] }
  | .component c => .ok { o with components := o.components ++ [c] }
  | .hook h => .ok { o with hooks := o.hooks ++ [h] }
  | .healthCheck name liveness readiness =>
    if name.isEmpty then .error .healthCheckNameRequired
    else
      let health := (o.health.register .liveness name liveness).register .readiness name readiness
      .ok { o with health := health }
  | .healthReporter checks => .ok { o with health := o.health.registerAll checks }

/-- The effect of a registration. -/
def register (o : Orchestrator κ) (r : Registration κ) : Except LifecycleError (Orchestrator κ) :=
  if o.claimed then .error .alreadyRun else o.accept r

/-- The orchestrator in the hands of a run, unless another run has it. -/
def claim? (o : Orchestrator κ) : Option (Orchestrator κ) :=
  if o.claimed then none else some { o with claimed := true }

end Orchestrator

/-- The records that a registration leaves behind when it is accepted. -/
def Registration.records {κ : Type} : Registration κ → List Record
  | .healthReporter checks => checks.passedOver
  | _ => []

end Supervision
