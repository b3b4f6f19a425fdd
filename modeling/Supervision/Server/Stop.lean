import Supervision.Flow

/-!
# Launching and stopping servers

`launch` spawns the serve task of a server, `shutdown` stops it. The stop is a race of three events:
the task ends, the time is up, or the context is cancelled. `raceWinner?` says which of them decides
where several have come about.
-/

namespace Supervision.Server
open Net

variable {κ υ : Type}

/-- What decides a stop. -/
inductive RaceWinner where
  /-- The task has ended, by a panic or not. -/
  | taskEnded (panicked : Bool)
  | timeUp
  | cancelled
deriving DecidableEq, Repr

/-- The event that decides: the end of the task before the time, the time before the context. -/
def raceWinner? (ended? : Option Bool) (timeUp cancelled : Bool) : Option RaceWinner :=
  match ended? with
  | some panicked => some (.taskEnded panicked)
  | none =>
    if timeUp then some .timeUp
    else if cancelled then some .cancelled
    else none

/-- What a stop reports of its own, by the event that decided it. -/
def raceFailure (timeoutMs : Nat) : RaceWinner → List ServerError
  | .taskEnded panicked => if panicked then [.serve (.text "serve task panicked")] else []
  | .timeUp => [.shutdownTimedOut (.ofMillis timeoutMs)]
  | .cancelled => [.shutdownCancelled]

/-- The race for a task, with its state in a world. -/
def raceIn (task : Nat) (deadline : Nat) (ctx : Token) (w : World κ υ) : Option RaceWinner :=
  raceWinner? ((w.tasks[task]?).bind ServeTask.ended?) (deadline ≤ w.now) (w.isCancelled ctx)

/-- The state of a task that has lost the race: its exchanges are forced, and it is aborted. -/
def forceDown (t : ServeTask) : ServeTask :=
  { t with forced := true, aborted := true }

/-- The error that a task has reported is taken from its slot. -/
def drainSlot (task : Nat) (w : World κ υ) : Option ServerError × World κ υ :=
  match w.tasks[task]? with
  | none => (none, w)
  | some t => (t.slot.drain.1, w.changeTask task fun t => { t with slot := t.slot.drain.2 })

/-- Stops a serve task within `timeoutMs`: it is asked to shut down, and forced down if it loses the
race. What it has reported comes after what the race reports. -/
def stopTask (task : Nat) (timeoutMs : Nat) (ctx : Token) :
    Flow κ υ (Except (Errors ServerError) Unit) := do
  Activity.change (World.changeTask task fun t => { t with graceful := true })
  let now ← Activity.look World.now
  let deadline := now + timeoutMs
  let winner ← Activity.awaitLook
    { ready := fun w => (raceIn task deadline ctx w).isSome, alarm := fun _ => some deadline }
    (raceIn task deadline ctx)
  match winner with
  | some (.taskEnded _) => pure ()
  | _ => Activity.change (World.changeTask task forceDown)
  let reported ← Activity.step (drainSlot task)
  pure (Errors.outcome (winner.toList.flatMap (raceFailure timeoutMs) ++ reported.toList))

/-- The state after a task was spawned for a server, which holds it. -/
def spawn (id : Nat) (listening : Option SocketAddress) (w : World κ υ) : World κ υ :=
  let task : ServeTask := { server := id, progress := .spawned, listening := listening }
  let number := w.tasks.length
  let w := { w with tasks := w.tasks ++ [task] }
  w.changeServer id fun s => { s with serving := some number, localAddress := listening }

/-- The server holds no task. -/
def isIdle (id : Nat) (w : World κ υ) : Bool :=
  match w.servers[id]? with
  | none => false
  | some s => s.serving.isNone

/-- Launches an HTTP server, which binds its address in its task. -/
def launchHttp (id : Nat) : Flow κ υ (Except ServerError Unit) :=
  Activity.step fun w =>
    if isIdle id w then (.ok (), spawn id none w) else (.error .alreadyStarted, w)

/-- Binds the address of a gRPC server that holds no task. -/
def bindIdle (id : Nat) (w : World κ υ) : Except ServerError SocketAddress × World κ υ :=
  match w.servers[id]? with
  | none => (.error .alreadyStarted, w)
  | some s =>
    if s.serving.isSome then (.error .alreadyStarted, w)
    else
      match World.bindAddress s.address w.host with
      | .error e => (.error e, w)
      | .ok (address, host) => (.ok address, { w with host := host })

/-- Launches a gRPC server: its address is bound first, and the task spawned if no other launch has
come in between. -/
def launchGrpc (id : Nat) : Flow κ υ (Except ServerError Unit) := do
  match ← Activity.step (bindIdle id) with
  | .error e => pure (.error e)
  | .ok address =>
    Activity.checkpoint
    Activity.step fun w =>
      if isIdle id w then (.ok (), spawn id (some address) w)
      else (.error .alreadyStarted, { w with host := w.host.release address })

/-- Launches a server. -/
def launch (id : Nat) : Flow κ υ (Except ServerError Unit) := do
  match ← Activity.look fun w : World κ υ => (w.servers[id]?).map Server.kind with
  | some Kind.grpc => launchGrpc id
  | _ => launchHttp id

/-- The server gives its task away. -/
def takeTask (id : Nat) (w : World κ υ) : Option (Server × Nat) × World κ υ :=
  match w.servers[id]? with
  | none => (none, w)
  | some s =>
    match s.serving with
    | none => (none, w)
    | some task => (some (s, task), w.changeServer id fun s => { s with serving := none })

/-- A failed stop was forced. -/
def wasForced : Except (Errors ServerError) Unit → Bool
  | .ok _ => false
  | .error es => es.toList.any ServerError.isForced

/-- Stops a server. One that was not launched is left as it is. -/
def shutdown (id : Nat) (ctx : Token) : Flow κ υ (Except (Errors ServerError) Unit) := do
  match ← Activity.step (takeTask id) with
  | none => pure (.ok ())
  | some (server, task) =>
    let result ← stopTask task server.timeoutMs ctx
    Activity.change (World.changeServer id fun s => { s with localAddress := none })
    if server.kind = .grpc && wasForced result then Flow.log (.serverForced server.name)
    pure result

/-- Launches a server as a runner. -/
def start (id : Nat) : Flow κ υ Outcome := do
  return (← launch id).mapError fun e => .server (.single e)

/-- Stops a server as a runner. -/
def stop (id : Nat) (ctx : Token) : Flow κ υ Outcome := do
  return (← shutdown id ctx).mapError .server

end Supervision.Server
