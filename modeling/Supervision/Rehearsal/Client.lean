import Supervision.Http.Router
import Supervision.Rehearsal.Report
import Supervision.Text.Number

/-!
# Clients of a rehearsed server

A client opens exchanges with the serve task of a server. An HTTP server has two routes besides the
base routes: `/hang`, which never answers, and `/delay/` with a number of milliseconds, which
answers after them.
-/

namespace Supervision.Rehearsal
open Server

/-- The last part of the path of a delay, where a path is one. -/
def delayPart? (path : String) : Option (List Char) :=
  let part := path.toList.drop "/delay/".length
  if path.startsWith "/delay/" && !part.isEmpty && !part.contains '/' then some part else none

/-- The answer after a number of milliseconds. -/
def delayedAnswer (part : List Char) : Option Nat × Http.Response :=
  let text := (Http.unescaped? part).getD (String.ofList part)
  match Text.readDecimal? (Nat.pow 2 64) text.toList with
  | some ms => (some ms, .plain "done")
  | none => (some 0, .badRequest ("Invalid URL: Cannot parse `" ++ text ++ "` to a `u64`"))

/-- What the additional routes answer, and after which time; nothing for any other target. -/
def slowAnswer? (method target : String) : Option (Option Nat × Http.Response) :=
  let path := Http.pathOf target
  let read? :=
    if path = "/hang" then some (none, .plain "") else (delayPart? path).map delayedAnswer
  read?.map fun (afterMs, r) =>
    if method = "GET" then (afterMs, r)
    else if method = "HEAD" then (afterMs, r.withoutBody)
    else (some 0, .methodNotAllowed)

/-- The answer to a request under the longest time for one. -/
def limitedAnswer (limitMs : Option Nat) (answer : Option Nat × Http.Response) :
    Option Nat × Http.Response :=
  match limitMs, answer.1 with
  | none, _ => answer
  | some limit, none => (some limit, .timedOut)
  | some limit, some ms => if limit < ms then (some limit, .timedOut) else answer

/-- The exchange of a request that reaches a server now. -/
def exchangeOf (server : Server) (method target : String) : Play Exchange := do
  let now ← Activity.look World.now
  match server.kind with
  | .grpc => return { answersAt := none, response := none }
  | .http =>
    let (afterMs, response) ← match slowAnswer? method target with
      | some answer => pure (limitedAnswer server.requestTimeoutMs answer)
      | none => do
        let router : Http.Router := { followsPhase := false, hasChecks := false }
        pure (some 0, ← router.handle Actor.alone method target)
    return { answersAt := afterMs.map (now + ·), response := some response }

/-- Why a client finds no server. -/
inductive Unreached where
  /-- The server is not bound. -/
  | refused
  | system (e : Net.OsError)
deriving DecidableEq, Repr

/-- The serve task of a server, as a client finds it. -/
def reach (id : Nat) (w : Stage) : Except Unreached (Server × Nat) :=
  match w.servers[id]? with
  | none => .error .refused
  | some server =>
    match server.localAddress, server.serving with
    | some _, some task =>
      if w.host.reachable then .ok (server, task) else .error (.system .networkUnreachable)
    | _, _ => .error .refused

/-- Opens an exchange with a server, and returns its serve task and its place there. -/
def openExchange (id : Nat) (method target : String) : Play (Except Unreached (Nat × Nat)) := do
  match ← Activity.look (reach id) with
  | .error e => return .error e
  | .ok (server, task) =>
    let exchange ← exchangeOf server method target
    Activity.step fun w =>
      let place := ((w.tasks[task]?).map (·.exchanges.length)).getD 0
      (.ok (task, place), w.changeTask task (ServeTask.addExchange exchange))

/-- How an exchange was closed. -/
def closingOf? (connection : Nat × Nat) (w : Stage) : Option Closing :=
  ((w.tasks[connection.1]?).bind (·.exchanges[connection.2]?)).bind (·.closing)

/-- Waits for the end of an exchange. -/
def awaitClosing (connection : Nat × Nat) : Play (Option Closing) := do
  return (← patiently (Activity.awaitLook
    (.whenever fun w => (closingOf? connection w).isSome) (closingOf? connection))).join

/-- The oldest open connection, which then is no longer open. -/
def takeConnection : Play (Option (Nat × Nat)) :=
  Activity.step fun w =>
    (w.user.connections.head?, w.changeUser fun n => { n with connections := n.connections.tail })

end Supervision.Rehearsal
