/-!
# Byte streams

A byte stream answers every call at once: with a result, with a failure, or by leaving the call
pending. Whoever is left pending is woken when another try may do better.
-/

namespace Supervision.Net

/-- A party that calls a stream, and can be woken. -/
structure Caller where
  id : Nat
deriving DecidableEq, Repr, Inhabited

/-- What can be asked of a stream. -/
inductive StreamCall where
  /-- Some of the bytes that have arrived, at most `room`. -/
  | read (room : Nat)
  | write (bytes : List UInt8)
  /-- A write of several parts, one after the other. -/
  | writeParts (parts : List (List UInt8))
  | flush
  /-- Ends the writing. -/
  | shutdown
deriving DecidableEq, Repr

/-- Why a call fails. -/
inductive StreamError where
  /-- The stream was severed. -/
  | connectionAborted
  /-- The other end takes no bytes any more. -/
  | brokenPipe
deriving DecidableEq, Repr

/-- The text of a failure. -/
def StreamError.message : StreamError → String
  | .connectionAborted => "connection force-closed"
  | .brokenPipe => "broken pipe"

/-- The answer to a call. -/
inductive StreamAnswer where
  | pending
  /-- The bytes read; none of them at the end of the stream. -/
  | bytes (read : List UInt8)
  /-- The number of bytes taken. -/
  | wrote (count : Nat)
  | done
  | failed (e : StreamError)
deriving DecidableEq, Repr

/-- A stream over states `σ`, by its answers. -/
structure ByteStream (σ : Type) where
  /-- A write of several parts is as good as a write of one. -/
  takesParts : Bool
  answer : Caller → StreamCall → σ → StreamAnswer × σ

end Supervision.Net
