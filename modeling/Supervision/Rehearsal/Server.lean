import Supervision.Rehearsal.Client
import Supervision.Server.Stop

/-!
# Rehearsals of a server

Steps on one server: it is launched and stopped, directly and as a runner, and met by clients. After
each step everything in the background goes as far as it can.
-/

namespace Supervision.Rehearsal
open Server

/-- One step. -/
inductive ServerStep where
  | info
  | launch
  | start
  | shutdown (cancelling : Cancelling)
  | stop (cancelling : Cancelling)
  /-- Opens a connection with a request in flight. -/
  | connect (target : String)
  /-- Reads the oldest open connection to its end. -/
  | finish
  | request (method target : String)
  | sleep (ms : Nat)

/-- The result of a step. Where an outcome is missing, the operation took too long. -/
inductive ServerResult where
  | nothing
  | info (name address : String)
  | launched (outcome : Option (Except ServerError Unit))
  | shutDown (outcome : Option (Except (Errors ServerError) Unit))
  | ran (outcome : Option Outcome)
  | connected (opened : Bool)
  | closed (closing : Option Closing)
  | noConnection
  | unreached (reason : Unreached)

/-- The number of the only server. -/
def serverId : Nat := 0

/-- A token for a stop, cancelled as asked. -/
def stopToken (cancelling : Cancelling) : Play Token := do
  let ctx ← Flow.freshToken
  cancelling.apply ctx
  return ctx

/-- Performs a step. -/
def ServerStep.perform : ServerStep → Play ServerResult
  | .info => Activity.look fun w =>
      (w.servers[serverId]?).elim .nothing fun s => .info s.name s.address
  | .launch => return .launched (← patiently (Server.launch serverId))
  | .start => return .ran (← patiently (Server.start serverId))
  | .shutdown cancelling => do
    let ctx ← stopToken cancelling
    return .shutDown (← patiently (Server.shutdown serverId ctx))
  | .stop cancelling => do
    let ctx ← stopToken cancelling
    return .ran (← patiently (Server.stop serverId ctx))
  | .connect target => do
    match ← openExchange serverId "GET" target with
    | .error _ => return .connected false
    | .ok connection =>
      Activity.change fun w =>
        w.changeUser fun n => { n with connections := n.connections ++ [connection] }
      return .connected true
  | .finish => do
    match ← takeConnection with
    | none => return .noConnection
    | some connection => return .closed (← awaitClosing connection)
  | .request method target => do
    match ← openExchange serverId method target with
    | .error reason => return .unreached reason
    | .ok connection => return .closed (← awaitClosing connection)
  | .sleep ms => do
    Flow.sleep ms
    return .nothing

/-- The longest time that a step can take, in milliseconds. -/
def ServerStep.spanMs : ServerStep → Nat
  | .sleep ms => ms + 1
  | _ => patienceMs + 1

/-- Performs steps in order. -/
def playServerSteps : List ServerStep → Play (List (Report ServerResult))
  | [] => return []
  | step :: rest => do
    let result ← step.perform
    Activity.giveWay
    let done ← report result
    return done :: (← playServerSteps rest)

/-- Performs steps on a server in order. -/
def rehearseServer (server : Server) (steps : List ServerStep) : List (Report ServerResult) :=
  let w := { emptyStage with servers := [server] }
  let horizon := steps.foldl (fun total step => total + step.spanMs) 1
  ((perform horizon (playServerSteps steps) w).1).getD []

end Supervision.Rehearsal
