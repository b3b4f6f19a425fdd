import Supervision.Http.Response
import Supervision.Net.Host
import Supervision.Server.Slot

/-!
# Servers and serve tasks

A server is a runner with a listener. Launching it spawns a serve task, which goes on in the
background until it has drained its open exchanges after a request to shut down, or is aborted.
Aborting a task ends it, but not its exchanges: those end when they are forced.
-/

namespace Supervision.Server

/-- The two kinds of server. An HTTP server binds its address in its task, a gRPC server before it
spawns one. -/
inductive Kind where
  | http
  | grpc
deriving DecidableEq, Repr, Inhabited

/-- The name of the protocol of a server. -/
def Kind.protocol : Kind → String
  | .http => "HTTP"
  | .grpc => "gRPC"

/-- How an exchange with a client came to its end. -/
inductive Closing where
  | answered (response : Option Http.Response)
  /-- The connection was closed without an answer. -/
  | dropped
deriving DecidableEq, Repr

/-- An exchange with a client. -/
structure Exchange where
  /-- The instant at which the server answers by itself, if ever. -/
  answersAt : Option Nat
  response : Option Http.Response
  closing : Option Closing := none
deriving DecidableEq, Repr

/-- How far a serve task has come. -/
inductive Progress where
  /-- It has not had its first turn. -/
  | spawned
  | serving
  | ended (panicked : Bool)
deriving DecidableEq, Repr

/-- A serve task. -/
structure ServeTask where
  /-- The number of the server. -/
  server : Nat
  progress : Progress
  /-- The address on which the task listens. -/
  listening : Option Net.SocketAddress
  /-- A graceful shutdown was requested. -/
  graceful : Bool := false
  /-- The exchanges are to end at once. -/
  forced : Bool := false
  /-- The task is to end at its next turn. -/
  aborted : Bool := false
  slot : Slot := {}
  exchanges : List Exchange := []

namespace Exchange

/-- The exchange has not ended. -/
def isOpen (x : Exchange) : Bool :=
  x.closing.isNone

/-- The exchange at an instant: answered once its time has come, dropped if it is forced before. -/
def settle (now : Nat) (forced : Bool) (x : Exchange) : Exchange :=
  if !x.isOpen then x
  else if x.answersAt.any (· ≤ now) then { x with closing := some (.answered x.response) }
  else if forced then { x with closing := some .dropped }
  else x

end Exchange

namespace ServeTask

/-- The task has ended. -/
def hasEnded (t : ServeTask) : Bool :=
  match t.progress with
  | .ended _ => true
  | _ => false

/-- Whether the task panicked, once it has ended. -/
def ended? (t : ServeTask) : Option Bool :=
  match t.progress with
  | .ended panicked => some panicked
  | _ => none

/-- The task with its exchanges at an instant. -/
def settleExchanges (now : Nat) (t : ServeTask) : ServeTask :=
  { t with exchanges := t.exchanges.map (Exchange.settle now t.forced) }

/-- The task is done with draining. -/
def isDrained (t : ServeTask) : Bool :=
  t.graceful && !t.exchanges.any Exchange.isOpen

/-- The task with one more exchange. One that does not listen, or shuts down, takes none. -/
def addExchange (x : Exchange) (t : ServeTask) : ServeTask :=
  if t.listening.isSome && !t.graceful then { t with exchanges := t.exchanges ++ [x] } else t

/-- The next instant after `now` at which one of the exchanges ends by itself. -/
def nextAnswer (now : Nat) (t : ServeTask) : Option Nat :=
  (((t.exchanges.filter Exchange.isOpen).filterMap (·.answersAt)).filter (now < ·)).min?

end ServeTask

end Supervision.Server

namespace Supervision
open Server

/-- What a server is made of, and what it remembers between two calls. -/
structure Server where
  kind : Kind
  name : String
  address : String
  /-- The longest time for a graceful stop, in milliseconds. -/
  timeoutMs : Nat := 5000
  /-- The longest time for one request, in milliseconds. -/
  requestTimeoutMs : Option Nat := none
  /-- The address under which clients find the server. -/
  localAddress : Option Net.SocketAddress := none
  /-- The number of the serve task that the server holds. -/
  serving : Option Nat := none

end Supervision
