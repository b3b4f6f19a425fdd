import Supervision.Activity
import Supervision.World

/-!
# The background of a world

What goes on while every activity waits: incidents come about, and serve tasks take their turns.
`World.settle` lets the background go as far as it can at one instant, and `World.clockwork` says
how time passes.
-/

namespace Supervision.World
open Net Server

variable {κ υ : Type}

/-! ## Serve tasks -/

/-- Binds the address of a server, as its text says. -/
def bindAddress (address : String) (host : Host) :
    Except ServerError (SocketAddress × Host) :=
  match resolveBindAddress host.lookup address with
  | .error e => .error (.bind address e.message)
  | .ok resolved => (host.bind resolved).mapError fun e => .bind address e.message

/-- A task stops listening. -/
def closeListener (id : Nat) (w : World κ υ) : World κ υ :=
  match (w.tasks[id]?).bind (·.listening) with
  | none => w
  | some address =>
    { w with host := w.host.release address }.changeTask id fun t => { t with listening := none }

/-- A task ends. It does not listen any more, and reports nothing any more. -/
def endTask (id : Nat) (panicked : Bool) (w : World κ υ) : World κ υ :=
  (w.closeListener id).changeTask id fun t =>
    { t with progress := .ended panicked, slot := t.slot.drop.2 }

/-- The first turn of a task. One of an HTTP server binds the address now; it reports a failure and
ends. -/
def firstTurn (id : Nat) (t : ServeTask) (w : World κ υ) : World κ υ :=
  match w.servers[t.server]? with
  | none => w
  | some server =>
    match server.kind with
    | .grpc => w.changeTask id fun t => { t with progress := .serving }
    | .http =>
      match bindAddress server.address w.host with
      | .error e =>
        let w := w.log (.bindFailed server.name e)
        endTask id false (w.changeTask id fun t => { t with slot := (t.slot.report e).2 })
      | .ok (address, host) =>
        let w := { w with host := host }
        let w := w.changeServer t.server fun s => { s with localAddress := some address }
        w.changeTask id fun t => { t with progress := .serving, listening := some address }

/-- A turn of a task that serves: one that shuts down stops listening, and ends with its last
exchange. -/
def servingTurn (id : Nat) (w : World κ υ) : World κ υ :=
  match w.tasks[id]? with
  | none => w
  | some t =>
    if !t.graceful then w
    else if t.isDrained then w.endTask id false
    else w.closeListener id

/-- A turn of a task that has not ended. -/
def liveTurn (id : Nat) (t : ServeTask) (w : World κ υ) : World κ υ :=
  if t.aborted then w.endTask id false
  else
    match t.progress with
    | .spawned => servingTurn id (w.firstTurn id t)
    | _ => servingTurn id w

/-- A turn of a task, and of its exchanges. -/
def taskTurn (w : World κ υ) (id : Nat) : World κ υ :=
  let w := w.changeTask id (ServeTask.settleExchanges w.now)
  match w.tasks[id]? with
  | none => w
  | some t => if t.hasEnded then w else w.liveTurn id t

/-! ## Incidents -/

/-- A serve task reports an error; one of its serve loop also leaves a record. -/
def takeReport (id : Nat) (e : ServerError) (w : World κ υ) : World κ υ :=
  let w := w.changeTask id fun t => { t with slot := (t.slot.report e).2 }
  match e, (w.tasks[id]?).bind fun t => w.servers[t.server]? with
  | .serve cause, some server => w.log (.serveFailed server.kind.protocol server.name cause)
  | _, _ => w

/-- A serve task that has not ended does something. -/
def ifLive (id : Nat) (f : World κ υ → World κ υ) (w : World κ υ) : World κ υ :=
  if (w.tasks[id]?).any fun t => !t.hasEnded then f w else w

/-- The effect of an incident. -/
def meet (w : World κ υ) : Incident → World κ υ
  | .cancellation t => w.cancel t
  | .signal s => w.receive s
  | .exchange id x => w.ifLive id (changeTask id (ServeTask.addExchange x))
  | .report id e => w.ifLive id (takeReport id e)
  | .ending id panicked => w.ifLive id (endTask id panicked)

/-- The incidents that are due come about. -/
def meetDue (w : World κ υ) : World κ υ :=
  let due := w.incidents.filter fun i => i.1 ≤ w.now
  let rest := w.incidents.filter fun i => !(i.1 ≤ w.now)
  due.foldl (fun w i => w.meet i.2) { w with incidents := rest }

/-! ## Time -/

/-- The background goes as far as it can at this instant. -/
def settle (w : World κ υ) : World κ υ :=
  (List.range w.tasks.length).foldl taskTurn w.meetDue

/-- The next instant at which the background can go on. -/
def nextAlarm (w : World κ υ) : Option Nat :=
  let answers := w.tasks.filterMap (ServeTask.nextAnswer w.now)
  let incidents := (w.incidents.map (·.1)).filter (w.now < ·)
  (answers ++ incidents).min?

/-- How time passes in a world. -/
def clockwork : Clockwork (World κ υ) where
  now := World.now
  advanceTo instant w := { w with now := instant }
  settle := settle
  alarm := nextAlarm

end Supervision.World
