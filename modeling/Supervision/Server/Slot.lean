import Supervision.Failure

/-!
# Serve-error slots

A slot carries at most one error from a serve task to whoever stops it. The task reports once or
drops its end; draining takes the error, if there is one.
-/

namespace Supervision.Server

/-- A slot between a serve task and its owner. -/
structure Slot where
  /-- The task can still report. -/
  reporting : Bool := true
  /-- The error that waits to be taken. -/
  content : Option ServerError := none

namespace Slot

/-- Reports an error; false if the task cannot report any more. -/
def report (slot : Slot) (e : ServerError) : Bool × Slot :=
  if slot.reporting then (true, ⟨false, some e⟩) else (false, slot)

/-- Gives up reporting; false if the task cannot report any more. -/
def drop (slot : Slot) : Bool × Slot :=
  (slot.reporting, { slot with reporting := false })

/-- Takes the error, without waiting for one. -/
def drain (slot : Slot) : Option ServerError × Slot :=
  (slot.content, { slot with content := none })

end Slot

end Supervision.Server
