import Supervision.Health.Check
import Supervision.Http.Target

/-!
# The base routes

Every HTTP server answers `/ping`, `/healthz`, `/livez` and `/readyz`. Readiness takes the phase at
the arrival of the request, then runs its checks.
-/

namespace Supervision.Http

variable {κ υ : Type}

/-- What a router knows of the service. -/
structure Router where
  /-- Readiness depends on the phase of the orchestrator. -/
  followsPhase : Bool
  /-- The registered checks are run. -/
  hasChecks : Bool
deriving DecidableEq, Repr

/-- A base route. -/
inductive Route where
  | ping
  | live
  | ready
deriving DecidableEq, Repr

/-- The route of a path. -/
def Route.ofPath? (path : String) : Option Route :=
  if path = "/ping" then some .ping
  else if path = "/healthz" || path = "/livez" then some .live
  else if path = "/readyz" then some .ready
  else none

/-- The answer of a health endpoint. -/
def respond (r : HealthResponse) : Response :=
  .json (if r.isHealthy then 200 else 503) r.body

namespace Router

/-- The checks that a request meets. -/
def checks (router : Router) (side : HealthSide) (w : World κ υ) : NameMap (Callback κ) :=
  if router.hasChecks then w.orchestrator.health.side side else []

/-- The phase that a request meets. -/
def phase? (router : Router) (w : World κ υ) : Option Phase :=
  if router.followsPhase then some w.orchestrator.phase else none

/-- The answer of a liveness endpoint. -/
def live (router : Router) (behaviour : Behaviour κ υ) : Flow κ υ Response := do
  let checks ← Activity.look (router.checks .liveness)
  return respond (← Health.runChecks behaviour .liveness checks)

/-- The answer of the readiness endpoint. -/
def ready (router : Router) (behaviour : Behaviour κ υ) : Flow κ υ Response := do
  let (phase?, checks) ← Activity.look fun w => (router.phase? w, router.checks .readiness w)
  let response ← Health.runChecks behaviour .readiness checks
  return respond (response.inPhase phase?)

/-- The answer to a read of a route. -/
def answer (router : Router) (behaviour : Behaviour κ υ) : Route → Flow κ υ Response
  | .ping => return .plain "pong"
  | .live => router.live behaviour
  | .ready => router.ready behaviour

/-- The answer to a request. -/
def handle (router : Router) (behaviour : Behaviour κ υ) (method target : String) :
    Flow κ υ Response :=
  match Route.ofPath? (pathOf target) with
  | none => return .notFound
  | some route =>
    if method = "GET" then router.answer behaviour route
    else if method = "HEAD" then do return (← router.answer behaviour route).withoutBody
    else return .methodNotAllowed

end Router

end Supervision.Http
