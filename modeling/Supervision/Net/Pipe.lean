import Supervision.Net.Stream

/-!
# Pipes

A pipe joins two ends by a channel in each direction. A channel holds up to `capacity` bytes between
its writer and its reader; once it is closed it takes no more, and its reader meets the end after
the bytes that it holds.
-/

namespace Supervision.Net

/-- One direction of a pipe. -/
structure Channel where
  capacity : Nat
  held : List UInt8 := []
  closed : Bool := false
  /-- Who waits for bytes. -/
  reader : Option Caller := none
  /-- Who waits for room. -/
  writer : Option Caller := none
deriving DecidableEq, Repr

namespace Channel

/-- The number of bytes that still fit. -/
def room (c : Channel) : Nat :=
  c.capacity - c.held.length

/-- A read of at most `room` bytes; the answer, the callers that it wakes, and the channel. -/
def read (caller : Caller) (room : Nat) (c : Channel) : StreamAnswer × List Caller × Channel :=
  if room = 0 then (.bytes [], [], c)
  else if !c.held.isEmpty then
    (.bytes (c.held.take room), c.writer.toList,
      { c with held := c.held.drop room, writer := none })
  else if c.closed then (.bytes [], [], c)
  else (.pending, [], { c with reader := some caller })

/-- A write of as many bytes as fit. -/
def write (caller : Caller) (bytes : List UInt8) (c : Channel) :
    StreamAnswer × List Caller × Channel :=
  if c.closed then (.failed .brokenPipe, [], c)
  else if c.room = 0 then (.pending, [], { c with writer := some caller })
  else
    let taken := bytes.take c.room
    (.wrote taken.length, c.reader.toList, { c with held := c.held ++ taken, reader := none })

/-- No more bytes pass; everyone who waits is woken. -/
def close (c : Channel) : List Caller × Channel :=
  (c.reader.toList ++ c.writer.toList, { c with closed := true, reader := none, writer := none })

end Channel

/-- An end of a pipe. -/
inductive Side where
  | near
  | far
deriving DecidableEq, Repr

/-- A pipe, and the callers that it has woken so far. -/
structure Pipe where
  toFar : Channel
  toNear : Channel
  woken : List Caller := []
deriving DecidableEq, Repr

namespace Pipe

/-- A pipe that holds up to `capacity` bytes in each direction. -/
def ofCapacity (capacity : Nat) : Pipe where
  toFar := { capacity := capacity }
  toNear := { capacity := capacity }

/-- An effect on the channel into which an end writes. -/
def onOutgoing {α : Type} (side : Side) (f : Channel → α × List Caller × Channel) (p : Pipe) :
    α × Pipe :=
  match side with
  | .near =>
    let (a, woken, c) := f p.toFar
    (a, { p with toFar := c, woken := p.woken ++ woken })
  | .far =>
    let (a, woken, c) := f p.toNear
    (a, { p with toNear := c, woken := p.woken ++ woken })

/-- The other end. -/
def otherSide : Side → Side
  | .near => .far
  | .far => .near

/-- An effect on the channel from which an end reads. -/
def onIncoming {α : Type} (side : Side) (f : Channel → α × List Caller × Channel) (p : Pipe) :
    α × Pipe :=
  p.onOutgoing (otherSide side) f

/-- The answer to a call at an end. -/
def answer (side : Side) (caller : Caller) (call : StreamCall) (p : Pipe) : StreamAnswer × Pipe :=
  match call with
  | .read room => p.onIncoming side (Channel.read caller room)
  | .write bytes => p.onOutgoing side (Channel.write caller bytes)
  | .writeParts parts => p.onOutgoing side (Channel.write caller parts.flatten)
  | .flush => (.done, p)
  | .shutdown => p.onOutgoing side fun c => (.done, c.close)

/-- An end of a pipe as a stream. -/
def stream (side : Side) : ByteStream Pipe :=
  ⟨true, answer side⟩

/-- An end goes away: neither direction passes any more bytes. -/
def drop (side : Side) (p : Pipe) : Pipe :=
  ((p.onOutgoing side fun c => ((), c.close)).2.onIncoming side fun c => ((), c.close)).2

end Pipe

end Supervision.Net
