import Supervision.Flow
import Supervision.Health.Response

/-!
# Running health checks

Checks are registered under names; one without a name is passed over. All checks of a side run side
by side under one context. Each gives a result under its name, in the order of the names; a failing
one also leaves a record and a sample.
-/

namespace Supervision.Health

variable {κ υ : Type}

/-- Registers a check. One without a name leaves only a record. -/
def registerIn (side : HealthSide) (name : String) (check : Callback κ) (w : World κ υ) :
    World κ υ :=
  if name.isEmpty then w.log .namelessCheck
  else w.changeOrchestrator fun o => { o with health := o.health.register side name check }

/-- Registers all checks that somebody reports. -/
def registerAllIn (checks : HealthChecks κ) (w : World κ υ) : World κ υ :=
  (w.logAll checks.passedOver).changeOrchestrator fun o =>
    { o with health := o.health.registerAll checks }

/-- Runs one check. -/
def runCheck (behaviour : Behaviour κ υ) (side : HealthSide) (ctx : Token) (name : String)
    (check : Callback κ) : Flow κ υ CheckResult := do
  match ← check.call behaviour ctx with
  | .ok () => return ⟨name, none⟩
  | .error cause =>
    Flow.log (.checkFailed side name cause)
    Flow.count (.healthCheckFailure side name)
    return ⟨name, some cause.message⟩

/-- Runs the checks of a side. -/
def runChecks (behaviour : Behaviour κ υ) (side : HealthSide) (checks : NameMap (Callback κ)) :
    Flow κ υ HealthResponse := do
  let ctx ← Flow.freshToken
  let results ← Activity.all
    (checks.map fun (name, check) => runCheck behaviour side ctx name check)
  return .ofResults results

/-- Runs the checks that are registered on a side when the request arrives. -/
def check (behaviour : Behaviour κ υ) (side : HealthSide) : Flow κ υ HealthResponse := do
  let checks ← Activity.look fun w => w.orchestrator.health.side side
  runChecks behaviour side checks

end Supervision.Health
