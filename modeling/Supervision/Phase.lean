/-!
# Phases

Where an orchestrator is in its one run.
-/

namespace Supervision

/-- A phase of an orchestrator. -/
inductive Phase where
  /-- Parts are registered. -/
  | configuring
  /-- Components and runners are being started. -/
  | starting
  /-- Everything is started. -/
  | running
  /-- Everything is being stopped. -/
  | stopping
  /-- Everything is stopped. -/
  | stopped
  /-- Something did not start. -/
  | failed
deriving DecidableEq, Repr, Inhabited

/-- The name of a phase. -/
def Phase.name : Phase → String
  | .configuring => "configuring"
  | .starting => "starting"
  | .running => "running"
  | .stopping => "stopping"
  | .stopped => "stopped"
  | .failed => "failed"

end Supervision
