import Supervision.Lifecycle.Run

/-!
# Signal-driven runs

Three ways to let a signal end a service: wait for one, have it cancel a token, or serve until it
arrives. Serving needs no orchestrator: start the components and one server, wait for the signal,
shut down. The shutdown never fails; what goes wrong is left in the journal. The server has a
limited time to stop, the components have as much as they need.
-/

namespace Supervision.Lifecycle

variable {κ υ : Type}

/-- Begins to watch for signals: the trigger for the next one that asks for an end, or for anything
else that `orElse` says. -/
def watchSignals (orElse : World κ υ → Bool) : Flow κ υ (Trigger (World κ υ)) :=
  Activity.step fun w =>
    let earlier := w.signals.length
    (.whenever fun w => (w.signals.drop earlier).any Signal.isShutdown || orElse w,
      { w with signalWatchers := w.signalWatchers + 1 })

/-- Waits for a signal. -/
def awaitSignal : Flow κ υ Unit := do
  Activity.await (← watchSignals fun _ => false)

/-- Cancels a token on a signal, unless the token is cancelled before. -/
def cancelOnSignal (t : Token) : Flow κ υ Unit := do
  Activity.await (← watchSignals fun w => w.isCancelled t)
  Activity.change (World.cancel t)

/-- The time that a server has to stop, in milliseconds. -/
def stopLimitMs : Nat := 5000

/-- The context for a stop: the one given, unless there is none or it is cancelled. -/
def stopContext (ctx : Option Token) : Flow κ υ Token := do
  let live ← Activity.look fun w => ctx.filter fun t => !w.isCancelled t
  match live with
  | some t => return t
  | none => Flow.freshToken

/-- Stops a server within its limit, and records what goes wrong. -/
def stopServer (ctx : Token) (server : Runner κ) : Plan κ υ Unit :=
  .callWithin stopLimitMs (.stopRunner 0 server) ctx fun
    | some (.ok ()) => return ()
    | some (.error cause) => .ofFlow (Flow.log (.serverShutdownFailed server.name cause))
    | none => .ofFlow (Flow.log (.serverShutdownTimedOut server.name (.ofMillis stopLimitMs)))

/-- What a shutdown leaves behind after the stop of a component. -/
def noteStop (c : Call κ) (outcome : Outcome) (w : World κ υ) : World κ υ :=
  match outcome with
  | .ok () => w
  | .error cause => w.log (.signalStopFailed c.index cause)

/-- Stops a server and then components, the last one first. -/
def shutdown (ctx : Option Token) (server : Option (Runner κ)) (stops : List (Callback κ)) :
    Plan κ υ Unit := do
  let ctx ← .ofFlow (stopContext ctx)
  match server with
  | some server => stopServer ctx server
  | none => pure ()
  let stopCtx ← .ofFlow Flow.freshToken
  let _ ← Plan.callEach noteStop stopCtx (stops.mapIdx .stop).reverse

/-- Starts components and a server, waits for `signal`, and shuts down. A server that does not start
leaves the components as they are. -/
def serveUntil (server : Runner κ) (starts stops : List (Callback κ)) (signal : Flow κ υ Unit) :
    Plan κ υ (Except LifecycleError Unit) := do
  let ctx ← .ofFlow Flow.freshToken
  match ← start ctx starts stops with
  | .error e => return .error e
  | .ok () =>
    let c := Call.startRunner 0 server
    match ← Plan.call c ctx .done with
    | .error cause => return .error (c.error cause)
    | .ok () =>
      .ofFlow signal
      shutdown (some ctx) (some server) stops
      return .ok ()

/-- Starts components and a server, and serves until a signal arrives. -/
def serve (server : Runner κ) (starts stops : List (Callback κ)) :
    Plan κ υ (Except LifecycleError Unit) :=
  serveUntil server starts stops awaitSignal

end Supervision.Lifecycle
