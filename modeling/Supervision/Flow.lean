import Supervision.World.Background

/-!
# Flows

Activities over worlds: what parts of a service do, from waiting and recording to calling one
another. A `Behaviour` says what the callbacks do, which are known only by their handles.
-/

namespace Supervision

/-- An activity over worlds. -/
abbrev Flow (κ υ α : Type) := Activity (World κ υ) α

namespace Flow

variable {κ υ α : Type}

/-- A limit of time for an activity, counted from its beginning. -/
def within (ms : Nat) (flow : Flow κ υ α) : Flow κ υ (Option α) := do
  let now ← Activity.look World.now
  Activity.within World.now (now + ms) flow

/-- Waits for a length of time. -/
def sleep (ms : Nat) : Flow κ υ Unit := do
  let now ← Activity.look World.now
  Activity.await (.instant World.now (now + ms))

/-- Waits for the cancellation of a token. -/
def cancelled (t : Token) : Flow κ υ Unit :=
  Activity.await (.whenever fun w => w.isCancelled t)

/-- Hands out a token. -/
def freshToken : Flow κ υ Token :=
  Activity.step World.freshToken

/-- Adds a record to the journal. -/
def log (r : Record) : Flow κ υ Unit :=
  Activity.change (World.log r)

/-- Adds a sample of a metric. -/
def count (m : Metric) : Flow κ υ Unit :=
  Activity.change (World.count m)

/-- Publishes a phase of the orchestrator. -/
def publish (phase : Phase) : Flow κ υ Unit :=
  Activity.change (World.changeOrchestrator fun o => o.publish phase)

end Flow

/-- The outcome of a callback. -/
abbrev Outcome := Except Cause Unit

/-- The outcome of a run. -/
abbrev RunOutcome := Except (Errors LifecycleError) Unit

/-- What the callbacks do: a handle and the token that it is given lead to an activity. -/
abbrev Behaviour (κ υ : Type) := κ → Token → Flow κ υ Outcome

/-- Calls a callback. -/
def Callback.call {κ υ : Type} (behaviour : Behaviour κ υ) (callback : Callback κ) (ctx : Token) :
    Flow κ υ Outcome :=
  match callback with
  | none => pure (.ok ())
  | some handle => behaviour handle ctx

end Supervision
