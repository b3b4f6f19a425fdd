import Supervision.Failure

/-!
# Records and metrics

What a service leaves behind for those who watch it: warnings and errors in the journal, and samples
of metrics. Both are kept as values of the domain; their texts are functions of them.
-/

namespace Supervision

/-- The two sides of health: a service that is alive, and one that is ready for work. -/
inductive HealthSide where
  | liveness
  | readiness
deriving DecidableEq, Repr, Inhabited

/-- The name of a side. -/
def HealthSide.name : HealthSide → String
  | .liveness => "liveness"
  | .readiness => "readiness"

/-- A warning or an error. -/
inductive Record where
  /-- A component did not start. -/
  | componentStartFailed (index : Nat) (cause : Cause)
  /-- A component could not be stopped again after a failed start. -/
  | rollbackFailed (index : Nat) (cause : Cause)
  /-- A runner did not start. -/
  | runnerStartFailed (runner : String) (cause : Cause)
  /-- A runner did not stop cleanly. -/
  | runnerStopFailed (runner : String) (cause : Cause)
  /-- A component did not stop cleanly. -/
  | componentStopFailed (index : Nat) (cause : Cause)
  /-- A shutdown hook failed. -/
  | hookFailed (index : Nat) (cause : Cause)
  /-- A server did not shut down cleanly under a signal. -/
  | serverShutdownFailed (runner : String) (cause : Cause)
  /-- A server did not shut down in time under a signal. -/
  | serverShutdownTimedOut (runner : String) (limit : Duration)
  /-- A component did not stop cleanly under a signal. -/
  | signalStopFailed (index : Nat) (cause : Cause)
  /-- A health check without a name was passed over. -/
  | namelessCheck
  /-- A health check failed. -/
  | checkFailed (side : HealthSide) (check : String) (cause : Cause)
  /-- The HTTP server has no address. -/
  | bindFailed (runner : String) (error : ServerError)
  /-- The serve loop of a server failed. -/
  | serveFailed (protocol runner : String) (cause : Cause)
  /-- A gRPC server was forced down. -/
  | serverForced (runner : String)
  /-- The address for the metrics is none. -/
  | metricsAddressUnread (address : String)

namespace Record

/-- The record warns of something that is not an error of the service. -/
def isWarning : Record → Bool
  | namelessCheck => true
  | checkFailed _ _ _ => true
  | serverForced _ => true
  | _ => false

/-- What happened. -/
def message : Record → String
  | componentStartFailed _ _ => "Lifecycle component failed to start"
  | rollbackFailed _ _ => "Lifecycle rollback failed"
  | runnerStartFailed _ _ => "Runner failed to start"
  | runnerStopFailed _ _ => "Runner failed to stop"
  | componentStopFailed _ _ => "Lifecycle component failed to stop"
  | hookFailed _ _ => "Shutdown hook failed"
  | serverShutdownFailed _ _ => "Server shutdown failed"
  | serverShutdownTimedOut _ _ => "Server shutdown timed out"
  | signalStopFailed _ _ => "Error stopping component"
  | namelessCheck => "Ignoring health check without a name"
  | checkFailed _ _ _ => "Health check failed"
  | bindFailed _ _ => "HTTP server failed to bind"
  | serveFailed protocol _ _ => protocol ++ " server failed"
  | serverForced _ => "gRPC server forced to stop"
  | metricsAddressUnread _ => "Failed to parse metrics address"

/-- The fields of a record by name. -/
def fields : Record → List (String × String)
  | componentStartFailed index cause => [("index", toString index), ("error", cause.message)]
  | rollbackFailed index cause => [("index", toString index), ("error", cause.message)]
  | runnerStartFailed runner cause => [("runner", runner), ("error", cause.message)]
  | runnerStopFailed runner cause => [("runner", runner), ("error", cause.message)]
  | componentStopFailed index cause => [("index", toString index), ("error", cause.message)]
  | hookFailed index cause => [("index", toString index), ("error", cause.message)]
  | serverShutdownFailed runner cause => [("runner", runner), ("error", cause.message)]
  | serverShutdownTimedOut runner limit => [("runner", runner), ("timeout", limit.text)]
  | signalStopFailed index cause => [("index", toString index), ("error", cause.message)]
  | namelessCheck => []
  | checkFailed side check cause =>
    [("kind", side.name), ("check", check), ("error", cause.message)]
  | bindFailed runner error => [("runner", runner), ("error", error.message)]
  | serveFailed _ runner cause => [("runner", runner), ("error", cause.message)]
  | serverForced runner => [("runner", runner)]
  | metricsAddressUnread address => [("metrics_address", address)]

/-- The line of a record: its level, what happened, and its fields. -/
def text (r : Record) : String :=
  let level := if r.isWarning then "WARN" else "ERROR"
  " ".intercalate (level :: r.message :: r.fields.map fun (name, value) => name ++ "=" ++ value)

end Record

/-- How something ended. -/
inductive Ending where
  | ok
  | error
deriving DecidableEq, Repr, Inhabited

/-- The name of an ending. -/
def Ending.name : Ending → String
  | .ok => "ok"
  | .error => "error"

/-- What did not start. -/
inductive StartKind where
  | lifecycle
  | runner
deriving DecidableEq, Repr, Inhabited

/-- The name of what did not start. -/
def StartKind.name : StartKind → String
  | .lifecycle => "lifecycle"
  | .runner => "runner"

/-- A step of the teardown. -/
inductive TeardownStep where
  | runnerStop
  | lifecycleStop
  | shutdownHook
deriving DecidableEq, Repr, Inhabited

/-- The name of a step of the teardown. -/
def TeardownStep.name : TeardownStep → String
  | .runnerStop => "runner_stop"
  | .lifecycleStop => "lifecycle_stop"
  | .shutdownHook => "shutdown_hook"

/-- A part of a run whose duration is measured. -/
inductive MeasuredPhase where
  | lifecycleStart
  | startup
  | teardown
deriving DecidableEq, Repr, Inhabited

/-- The name of a measured part. -/
def MeasuredPhase.name : MeasuredPhase → String
  | .lifecycleStart => "lifecycle_start"
  | .startup => "startup"
  | .teardown => "teardown"

/-- A metric with its labels. Each sample adds one to its total. -/
inductive Metric where
  | startFailure (kind : StartKind)
  | rollback (outcome : Ending)
  | teardownError (step : TeardownStep)
  | phaseDuration (phase : MeasuredPhase)
  | runnerStop (runner : String) (outcome : Ending)
  | healthCheckFailure (side : HealthSide) (check : String)
deriving DecidableEq, Repr

namespace Metric

/-- The name of a metric. -/
def name : Metric → String
  | startFailure _ => "lifecycle_start_failures_total"
  | rollback _ => "lifecycle_rollbacks_total"
  | teardownError _ => "lifecycle_teardown_errors_total"
  | phaseDuration _ => "lifecycle_phase_duration_seconds"
  | runnerStop _ _ => "runner_stops_total"
  | healthCheckFailure _ _ => "health_check_failures_total"

/-- The labels of a metric. -/
def labels : Metric → List (String × String)
  | startFailure kind => [("kind", kind.name)]
  | rollback outcome => [("outcome", outcome.name)]
  | teardownError step => [("step", step.name)]
  | phaseDuration phase => [("phase", phase.name)]
  | runnerStop runner outcome => [("runner", runner), ("outcome", outcome.name)]
  | healthCheckFailure side check => [("kind", side.name), ("check", check)]

/-- The metric as a key: its name, and its labels in braces. -/
def text (m : Metric) : String :=
  let labels := m.labels.map fun (name, value) => name ++ "=" ++ value
  m.name ++ "\x7b" ++ ",".intercalate labels ++ "\x7d"

end Metric

/-- Each metric of some samples with its total, in the order of the first samples. -/
def totals (samples : List Metric) : List (Metric × Nat) :=
  samples.eraseDups.map fun m => (m, samples.count m)

end Supervision
