import Supervision.Net.Host
import Supervision.Rehearsal.Script

/-!
# Reports

A rehearsal goes step by step. The report on a step has its result, what has happened since the
report before, and the world as it is then. No operation is awaited for longer than `patienceMs`.
-/

namespace Supervision.Rehearsal

/-- The longest time that an operation is awaited, in milliseconds. -/
def patienceMs : Nat := 3600000

/-- An operation, given up if it takes too long. -/
def patiently {α : Type} (play : Play α) : Play (Option α) :=
  Flow.within patienceMs play

/-- The report on a step. -/
structure Report (ρ : Type) where
  result : ρ
  /-- The events since the report before. -/
  events : List Event
  /-- The records since the report before. -/
  records : List Record
  /-- The world after the step. -/
  world : Stage

/-- Reports a result. -/
def report {ρ : Type} (result : ρ) : Play (Report ρ) :=
  Activity.step fun w =>
    let events := w.user.events.drop w.user.reportedEvents
    let records := w.journal.drop w.user.reportedRecords
    (⟨result, events, records, w⟩, w.changeUser fun n =>
      { n with reportedEvents := n.events.length, reportedRecords := w.journal.length })

/-- How a token gets cancelled while an operation runs. -/
structure Cancelling where
  beforehand : Bool := false
  afterMs : Option Nat := none
deriving DecidableEq, Repr

/-- Cancels a token beforehand, at an instant to come, or not at all. -/
def Cancelling.apply (c : Cancelling) (t : Token) : Play Unit := do
  if c.beforehand then Activity.change (World.cancel t)
  match c.afterMs with
  | some ms => Activity.change fun w => w.schedule (w.now + ms) (.cancellation t)
  | none => pure ()

/-- The world in which a rehearsal begins. -/
def emptyStage : Stage :=
  { host := Net.isolatedHost, tokens := { issued := 2 }, user := {} }

/-- Plays a rehearsal that ends before the instant `horizon`. -/
def perform {α : Type} (horizon : Nat) (play : Play α) (w : Stage) :
    Option α × Stage :=
  World.clockwork.run horizon play w

end Supervision.Rehearsal
