import Supervision.Net.Pipe
import Supervision.Net.Severable

/-!
# Rehearsals of a connection

A connection is the near end of a pipe, severable, with a peer at the far end. A rehearsal makes one
call at a time. It may also leave reads in the background, and join the latest one. A read in the
background tries once when it begins. After that it tries again only if it was woken, and not before
another one begins or the rehearsal joins one.
-/

namespace Supervision.Rehearsal
open Net

/-- A read in the background. -/
structure BackgroundRead where
  caller : Caller
  room : Nat
  /-- The answer, once there is one. -/
  answer : Option StreamAnswer := none
deriving Repr

/-- A connection. -/
structure Connection where
  stream : Severable Pipe
  peerPresent : Bool := true
  /-- The reads in the background. -/
  readers : List BackgroundRead := []
  /-- The latest of them, unless it was joined. -/
  latest : Option Caller := none
  /-- Who was woken and has not tried again, in the order of waking. -/
  woken : List Caller := []
  /-- The next background read gets this number. -/
  nextCaller : Nat := 2
deriving Repr

/-- One step of a rehearsal. -/
inductive ConnectionStep where
  | call (call : StreamCall)
  /-- Asks whether a write of several parts is as good as a write of one. -/
  | askParts
  | peerCall (call : StreamCall)
  | peerDrop
  | sever
  | spawnRead (room : Nat)
  | join
deriving Repr

/-- What a step gives. -/
inductive ConnectionResult where
  | answer (answer : StreamAnswer)
  | takesParts (takes : Bool)
  | nothing
  /-- The peer is gone. -/
  | peerGone
  /-- There is no read to join. -/
  | noReader
deriving Repr

namespace Connection

/-- A new connection. -/
def ofCapacity (capacity : Nat) : Connection where
  stream := { inner := .ofCapacity capacity }

/-- The party that makes the calls of a rehearsal. -/
def self : Caller := ⟨0⟩

/-- The party at the far end. -/
def peer : Caller := ⟨1⟩

/-- The near end as a stream. -/
def near : ByteStream (Severable Pipe) :=
  Severable.stream (Pipe.stream .near)

/-- A call on the connection. -/
def callBy (caller : Caller) (call : StreamCall) (c : Connection) : StreamAnswer × Connection :=
  let (answer, stream) := near.answer caller call c.stream
  (answer, { c with stream := stream })

/-- A call of the peer. Where it has nothing to write, it makes no call. -/
def callByPeer (call : StreamCall) (c : Connection) : StreamAnswer × Connection :=
  if call = .write [] then (.wrote 0, c)
  else
    let (answer, pipe) := (Pipe.stream .far).answer peer call c.stream.inner
    (answer, { c with stream.inner := pipe })

/-- The read in the background that a caller makes. -/
def reader? (caller : Caller) (c : Connection) : Option BackgroundRead :=
  c.readers.find? (·.caller = caller)

/-- A read in the background has its answer. -/
def noteAnswer (caller : Caller) (answer : StreamAnswer) (c : Connection) : Connection :=
  { c with
    readers := c.readers.map fun r =>
      if r.caller = caller then { r with answer := some answer } else r }

/-- A read in the background tries, unless it has its answer. -/
def tryRead (c : Connection) (caller : Caller) : Connection :=
  match c.reader? caller with
  | none => c
  | some reader =>
    if reader.answer.isSome then c
    else
      match c.callBy caller (.read reader.room) with
      | (.pending, c) => c
      | (answer, c) => c.noteAnswer caller answer

/-- All reads in the background that were woken try again. -/
def resume (c : Connection) : Connection :=
  c.woken.eraseDups.foldl tryRead { c with woken := [] }

/-- A read in the background begins. -/
def spawn (room : Nat) (c : Connection) : Connection :=
  let reader : BackgroundRead := { caller := ⟨c.nextCaller⟩, room := room }
  { c with
    readers := c.readers ++ [reader]
    latest := some reader.caller
    nextCaller := c.nextCaller + 1 }.tryRead reader.caller

/-- The answer of the latest read in the background, which is joined if there is one. -/
def join (c : Connection) : ConnectionResult × Connection :=
  match c.latest with
  | none => (.noReader, c)
  | some caller =>
    let c := c.resume
    match (c.reader? caller).bind (·.answer) with
    | none => (.answer .pending, c)
    | some answer => (.answer answer, { c with latest := none })

/-- The connection after some were woken by it. -/
def noteWoken (woken : List Caller) (c : Connection) : Connection :=
  { c with woken := c.woken ++ c.stream.inner.woken ++ woken, stream.inner.woken := [] }

/-- The effect of a step, and what it gives. -/
def perform (step : ConnectionStep) (c : Connection) : ConnectionResult × Connection :=
  match step with
  | .call call =>
    let (answer, c) := c.callBy self call
    (.answer answer, c)
  | .askParts => (.takesParts near.takesParts, c)
  | .peerCall call =>
    if c.peerPresent then
      let (answer, c) := c.callByPeer call
      (.answer answer, c)
    else (.peerGone, c)
  | .peerDrop =>
    let pipe := if c.peerPresent then c.stream.inner.drop .far else c.stream.inner
    (.nothing, { c with peerPresent := false, stream.inner := pipe })
  | .sever =>
    let (woken, stream) := c.stream.sever
    (.nothing, { c with stream := stream }.noteWoken woken)
  | .spawnRead room => (.nothing, c.resume.spawn room)
  | .join => c.join

/-- A step, after which those it has woken are known. -/
def step (s : ConnectionStep) (c : Connection) : ConnectionResult × Connection :=
  let (result, c) := c.perform s
  (result, c.noteWoken [])

/-- The results of a list of steps. -/
def rehearse : List ConnectionStep → Connection → List ConnectionResult
  | [], _ => []
  | s :: rest, c =>
    let (result, c) := c.step s
    result :: rehearse rest c

end Connection

end Supervision.Rehearsal
