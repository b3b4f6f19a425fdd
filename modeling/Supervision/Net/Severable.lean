import Supervision.Net.Stream

/-!
# Severable streams

A stream that can be cut off from outside. Until then every call goes to the stream inside; from
then on reads, writes and flushes fail without touching it, while a shutdown still reaches it.

Whoever calls also asks to be woken when the stream is severed. There is room for one such request:
a later call takes the place of an earlier one.
-/

namespace Supervision.Net

/-- A stream inside that can be severed. -/
structure Severable (σ : Type) where
  inner : σ
  severed : Bool := false
  /-- Who is woken when the stream is severed. -/
  watcher : Option Caller := none
deriving Repr

namespace Severable

variable {σ : Type}

/-- The answer to a call that goes to the stream inside. -/
def passOn (stream : ByteStream σ) (caller : Caller) (call : StreamCall) (s : Severable σ) :
    StreamAnswer × Severable σ :=
  let (answer, inner) := stream.answer caller call s.inner
  (answer, { s with inner := inner })

/-- The answer to a call other than a shutdown. -/
def guarded (stream : ByteStream σ) (caller : Caller) (call : StreamCall) (s : Severable σ) :
    StreamAnswer × Severable σ :=
  if s.severed then (.failed .connectionAborted, s)
  else passOn stream caller call { s with watcher := some caller }

/-- The answer to a call. -/
def answer (stream : ByteStream σ) (caller : Caller) (call : StreamCall) (s : Severable σ) :
    StreamAnswer × Severable σ :=
  match call with
  | .shutdown => passOn stream caller call s
  | _ => guarded stream caller call s

/-- A severable stream as a stream. -/
def stream (inner : ByteStream σ) : ByteStream (Severable σ) :=
  ⟨inner.takesParts, answer inner⟩

/-- Severs a stream, and wakes its watcher. -/
def sever (s : Severable σ) : List Caller × Severable σ :=
  (s.watcher.toList, { s with severed := true, watcher := none })

end Severable

end Supervision.Net
