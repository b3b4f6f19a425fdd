import Supervision.Lifecycle.Run

/-!
# Scripts

A script says what a callback does when it is called, so that a service can be rehearsed without
real parts: it may cancel, wait, call the orchestrator again, and fail on some of its calls. An
`Actor` is a callback with a label and a script. Every call leaves events in the `Notes`, the part
of the world that belongs to the actors.
-/

namespace Supervision.Rehearsal

/-- What a callback does, in the order of the fields. -/
structure Script where
  /-- Registers a hook that does nothing, and runs the orchestrator again, where there is one. -/
  reenters : Bool := false
  /-- Cancels the token of the rehearsal. -/
  cancelsRun : Bool := false
  /-- Cancels the token that it was called with. -/
  cancelsContext : Bool := false
  /-- Waits until the token that it was called with is cancelled. -/
  awaitsCancel : Bool := false
  sleepMs : Option Nat := none
  /-- Never returns. -/
  hangs : Bool := false
  /-- The failure of each call, where it fails; the last entry counts for all calls after it. -/
  failures : List (Option String) := []
deriving DecidableEq, Repr

namespace Script

/-- The failure of the call with a given number, counted from zero. -/
def failure? (script : Script) (call : Nat) : Option String :=
  (script.failures[min call (script.failures.length - 1)]?).join

/-- The outcome of a call. -/
def outcome (script : Script) (call : Nat) : Outcome :=
  match script.failure? call with
  | none => .ok ()
  | some message => .error (.text message)

/-- A call takes time, or may take time. -/
def waits (script : Script) : Bool :=
  script.awaitsCancel || script.sleepMs.isSome || script.hangs

end Script

/-- A callback with a script. -/
structure Actor where
  id : Nat
  label : String
  script : Script
deriving DecidableEq, Repr

/-- What happened in a call. -/
inductive Occurrence where
  /-- The call began, under a token that was cancelled or not. -/
  | called (cancelled : Bool)
  /-- The call went on after it had waited. -/
  | resumed (cancelled : Bool)
  /-- The call registered a hook and ran the orchestrator once more. -/
  | reentered (added : Except LifecycleError Unit) (rerun : RunOutcome)

/-- The mark that an occurrence puts behind the label of its actor. -/
def Occurrence.mark : Occurrence → String
  | .called _ => ""
  | .resumed _ => ":done"
  | .reentered _ _ => ":reenter"

/-- Something that happened in a call, with its time and the phase at that time. -/
structure Event where
  label : String
  occurrence : Occurrence
  instant : Nat
  phase : Phase

/-- The name of an event. -/
def Event.name (e : Event) : String :=
  e.label ++ e.occurrence.mark

/-- A run in the background of a rehearsal. -/
structure BackgroundRun where
  number : Nat
  /-- The outcome, once the run has ended. -/
  outcome : Option RunOutcome := none

/-- What a rehearsal remembers. -/
structure Notes where
  /-- The number of actors so far. -/
  enlisted : Nat := 0
  events : List Event := []
  /-- The actor of every call so far. -/
  calls : List Nat := []
  /-- The number of events that were reported. -/
  reportedEvents : Nat := 0
  /-- The number of journal records that were reported. -/
  reportedRecords : Nat := 0
  /-- The runs in the background that nobody has joined, the oldest first. -/
  unjoined : List BackgroundRun := []
  /-- The number of runs in the background so far. -/
  spawned : Nat := 0
  /-- The exchanges that are open from a client's side, each by its serve task and its place there,
  the oldest first. -/
  connections : List (Nat × Nat) := []

/-- The world of a rehearsal. -/
abbrev Stage := World Actor Notes

/-- An activity of a rehearsal. -/
abbrev Play (α : Type) := Flow Actor Notes α

/-- The token of a rehearsal, the first that its world hands out. -/
def runToken : Token := ⟨0⟩

/-- The token that a signal may cancel, the second that the world of a rehearsal hands out. -/
def signalToken : Token := ⟨1⟩

/-- Puts an actor with a script under a label. -/
def enlist (label : String) (script : Script) : Play Actor :=
  Activity.step fun w =>
    let id := w.user.enlisted
    (⟨id, label, script⟩, w.changeUser fun n => { n with enlisted := id + 1 })

/-- Puts an actor under a label, where there is a script. -/
def enlistIfAny (label : String) : Option Script → Play (Callback Actor)
  | none => return none
  | some script => return some (← enlist label script)

namespace Actor

/-- Notes a call, and returns its number. -/
def countCall (actor : Actor) : Play Nat :=
  Activity.step fun w =>
    (w.user.calls.count actor.id, w.changeUser fun n => { n with calls := actor.id :: n.calls })

/-- Notes an event. -/
def note (actor : Actor) (occurrence : Stage → Occurrence) : Play Unit :=
  Activity.change fun w =>
    let event : Event := ⟨actor.label, occurrence w, w.now, w.orchestrator.phase⟩
    w.changeUser fun n => { n with events := n.events ++ [event] }

/-- Calls the orchestrator from inside a call. -/
def reenter (rerun : Token → Play RunOutcome) (actor : Actor) : Play Unit := do
  let added ← Lifecycle.register (.hook none)
  let outcome ← rerun runToken
  actor.note fun _ => .reentered added outcome

/-- The waiting part of a call. -/
def pause (actor : Actor) (ctx : Token) : Play Unit := do
  if actor.script.awaitsCancel then Flow.cancelled ctx
  match actor.script.sleepMs with
  | some ms => Flow.sleep ms
  | none => pure ()
  if actor.script.hangs then Activity.await .never

/-- A call of an actor. It can call the orchestrator by `rerun?`, where there is one. -/
def perform (rerun? : Option (Token → Play RunOutcome)) (actor : Actor) (ctx : Token) :
    Play Outcome := do
  let call ← actor.countCall
  actor.note fun w => .called (w.isCancelled ctx)
  match rerun? with
  | some rerun => if actor.script.reenters then actor.reenter rerun
  | none => pure ()
  if actor.script.cancelsRun then Activity.change (World.cancel runToken)
  if actor.script.cancelsContext then Activity.change (World.cancel ctx)
  if actor.script.waits then
    actor.pause ctx
    actor.note fun w => .resumed (w.isCancelled ctx)
  return actor.script.outcome call

/-- What actors do without an orchestrator. -/
def alone : Behaviour Actor Notes :=
  perform none

/-- What actors do while a run has claimed the orchestrator: a run from inside a call is refused. -/
def duringRun : Behaviour Actor Notes :=
  perform (some fun _ => return .error (.single .alreadyRun))

/-- What the actors of an orchestrator do. -/
def behaviour : Behaviour Actor Notes :=
  perform (some fun ctx => (Lifecycle.run ctx).perform duringRun)

end Actor

end Supervision.Rehearsal
