import Supervision.Command.Arguments
import Supervision.Config.Load
import Supervision.Lifecycle.Signal
import Supervision.Server.Configured

/-!
# The service of the command line

`run` puts a component, a health check, the configured servers and a hook under an orchestrator
whose token a signal cancels; `serve` runs the HTTP server alone. Nothing in it has a callback that
could fail, so only servers decide how it ends.
-/

namespace Supervision.Command

/-- The service has no callbacks. -/
abbrev Program (α : Type) := Flow Empty Unit α

/-- There is nothing to call. -/
def behaviour : Behaviour Empty Unit := nofun

/-- A part of the service. A server has yet to be given its number. -/
inductive Part where
  | plain (registration : Registration Empty)
  | server (made : Server) (registration : Runner Empty → Registration Empty)

/-- The request to register a part. -/
def Part.enlist : Part → Program (Registration Empty)
  | .plain registration => return registration
  | .server made registration => do
    let id ← Activity.step fun w => w.addServer made
    return registration (.server made.name id)

/-- The servers that a configuration enables, as parts of the service. -/
def serverParts (c : Config) : List Part :=
  let http := { c.http.server with timeoutMs := c.shutdown.timeoutMs }
  let grpc := { c.grpc.server with timeoutMs := c.shutdown.timeoutMs }
  (if c.http.enabled then [.server http .httpServer] else []) ++
  (if c.grpc.enabled then [.server grpc .grpcServer] else [])

/-- The parts of the service. -/
def parts (c : Config) : List Part :=
  [.plain (.component ⟨none, none⟩), .plain (.healthCheck "process" none none)] ++
    serverParts c ++ [.plain (.hook none)]

/-- Registers parts in order, up to the first one that is refused. -/
def registerParts : List Part → Program (Except LifecycleError Unit)
  | [] => return .ok ()
  | part :: rest => do
    let registration ← part.enlist
    match ← Lifecycle.register registration with
    | .error e => return .error e
    | .ok () => registerParts rest

/-- The address of the metrics is bound, where there is one. A failure is of no consequence. -/
def metricsBound (c : Config) (w : World Empty Unit) : World Empty Unit :=
  if c.observability.metricsEnabled then
    match Net.SocketAddress.ofString? c.observability.metricsAddress with
    | none => w.log (.metricsAddressUnread c.observability.metricsAddress)
    | some address =>
      match w.host.bind address with
      | .ok (_, host) => { w with host := host }
      | .error _ => w
  else w

/-- Binds the address of the metrics. -/
def bindMetrics (c : Config) : Program Unit :=
  Activity.change (metricsBound c)

/-- Runs the orchestrator until a signal arrives, or until it ends by itself. -/
def runAll (c : Config) : Program Bool := do
  match ← registerParts (parts c) with
  | .error _ => return false
  | .ok () =>
    let ctx ← Flow.freshToken
    let orchestrated : Program Bool := do
      let outcome ← (Lifecycle.run ctx).perform behaviour
      Activity.change (World.cancel ctx)
      return outcome.isOk
    return (← Activity.pair (Lifecycle.cancelOnSignal ctx) orchestrated).2

/-- Serves HTTP alone until a signal arrives. -/
def serveHttp (c : Config) : Program Bool := do
  let server := { c.http.server with timeoutMs := c.shutdown.timeoutMs }
  let id ← Activity.step fun w => w.addServer server
  let served ← (Lifecycle.serve (.server server.name id) [] []).perform behaviour
  return served.isOk

/-- A service under a configuration, and whether it ends well. -/
def service (task : Task) (c : Config) : Program Bool := do
  bindMetrics c
  match task with
  | .run => runAll c
  | .serve => serveHttp c

/-- How the program ends: a status, and the line that it writes about itself. -/
structure Exit where
  status : Nat
  complaint : Option String := none
deriving DecidableEq, Repr

/-- The line about an error of its own. -/
def complain (message : String) : String :=
  "service-lifecycle: " ++ message

/-- The exit where no service is run, or the service to run. -/
def prepare (words : List String) (file : String → Config.FileContent)
    (readVariable : String → Option String) : Except Exit (Task × Config) :=
  match Arguments.parse words with
  | .error .help => .error { status := 0 }
  | .error .usage => .error { status := 2 }
  | .ok arguments =>
    match Config.loadWith (arguments.config.map file) readVariable arguments.envPrefix with
    | .error e => .error { status := 1, complaint := some (complain e.message) }
    | .ok c => .ok (arguments.task, c)

/-- An instant by which a service has ended, if any of the incidents ends it: each of two servers
may take its time to stop. -/
def horizonOf (incidents : List (Nat × Incident)) (c : Config) : Nat :=
  (incidents.map (·.1)).foldl max 0 + 2 * c.shutdown.timeoutMs + 1

/-- A service on a host that meets some incidents, and how it ends if it does. -/
def rehearse (host : Net.Host) (incidents : List (Nat × Incident)) (task : Task) (c : Config) :
    Option Exit :=
  let w : World Empty Unit := { host := host, incidents := incidents, user := () }
  ((World.clockwork.run (horizonOf incidents c) (service task c) w).1).map fun well =>
    { status := if well then 0 else 1 }

/-- How the program ends, if it does. -/
def exit? (words : List String) (file : String → Config.FileContent)
    (readVariable : String → Option String) (host : Net.Host) (incidents : List (Nat × Incident)) :
    Option Exit :=
  match prepare words file readVariable with
  | .error exit => some exit
  | .ok (task, c) => rehearse host incidents task c

end Supervision.Command
