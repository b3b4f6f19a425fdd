import Supervision.Lifecycle.Signal
import Supervision.Rehearsal.Report

/-!
# Rehearsals without an orchestrator

Single operations: the calls of one component, a start, a shutdown, and a service that ends with a
signal.
-/

namespace Supervision.Rehearsal

/-- Actors for a list of scripts, labelled by their places. -/
def enlistAll (role : String) (scripts : List Script) : Play (List (Callback Actor)) :=
  let rec enlistFrom (place : Nat) : List Script → Play (List (Callback Actor))
    | [] => return []
    | script :: rest => do
      let actor ← enlist (role ++ toString place) script
      return some actor :: (← enlistFrom (place + 1) rest)
  enlistFrom 0 scripts

/-- A runner of a given name with scripts for its start and its stop. -/
def enlistServer (name : String) (start stop : Script) : Play (Runner Actor) := do
  let start ← enlist ("start:" ++ name) start
  let stop ← enlist ("stop:" ++ name) stop
  return .custom name (some start) (some stop)

/-- Performs a single operation and reports on it. -/
def rehearseOnce {ρ : Type} (operation : Play ρ) : Option (Report (Option ρ)) :=
  (perform (patienceMs + 1) (do report (← patiently operation)) emptyStage).1

/-! ## Components -/

/-- One of the two sides of a component. -/
inductive ComponentSide where
  | start
  | stop
deriving DecidableEq, Repr

/-- The callback of a side. -/
def ComponentSide.of (side : ComponentSide) (c : Component Actor) : Callback Actor :=
  match side with
  | .start => c.start
  | .stop => c.stop

/-- A component with scripts for the sides that it has. -/
def enlistComponent (name : String) (start stop : Option Script) : Play (Component Actor) := do
  let start ← enlistIfAny ("start:" ++ name) start
  let stop ← enlistIfAny ("stop:" ++ name) stop
  return ⟨start, stop⟩

/-- Calls a side of a component under a token of its own. -/
def callSide (c : Component Actor) (side : ComponentSide) (cancelled : Bool) : Play Outcome := do
  let ctx ← Flow.freshToken
  if cancelled then Activity.change (World.cancel ctx)
  (side.of c).call Actor.alone ctx

/-- Calls sides of a component in order, each under a token that is cancelled or not. -/
def playCalls (c : Component Actor) :
    List (ComponentSide × Bool) → Play (List (Report (Option Outcome)))
  | [] => return []
  | (side, cancelled) :: rest => do
    let done ← report (← patiently (callSide c side cancelled))
    return done :: (← playCalls c rest)

/-- Calls sides of a component in order. -/
def rehearseCalls (name : String) (start stop : Option Script)
    (calls : List (ComponentSide × Bool)) : List (Report (Option Outcome)) :=
  let play : Play (List (Report (Option Outcome))) := do
    playCalls (← enlistComponent name start stop) calls
  ((perform (calls.length * patienceMs + 1) play emptyStage).1).getD []

/-! ## Starts and shutdowns -/

/-- A start under the token of the rehearsal. -/
def playStart (starts stops : List Script) (cancelling : Cancelling) :
    Play (Except LifecycleError Unit) := do
  let starts ← enlistAll "start" starts
  let stops ← enlistAll "stop" stops
  cancelling.apply runToken
  (Lifecycle.start runToken starts stops).perform Actor.alone

/-- The server of a shutdown, by its name and the script of its stop. -/
def enlistStop : Option (String × Script) → Play (Option (Runner Actor))
  | none => return none
  | some (name, stop) => do
    let stop ← enlist ("stop:" ++ name) stop
    return some (.custom name none (some stop))

/-- A shutdown, with or without the token of the rehearsal. -/
def playShutdown (withToken : Bool) (server : Option (String × Script)) (stops : List Script)
    (cancelling : Cancelling) : Play Unit := do
  let server ← enlistStop server
  let stops ← enlistAll "stop" stops
  cancelling.apply runToken
  (Lifecycle.shutdown (if withToken then some runToken else none) server stops).perform Actor.alone

/-- A service that is served until an instant after its start, or for ever. -/
def playServe (name : String) (start stop : Script) (starts stops : List Script)
    (signalMs : Option Nat) : Play (Except LifecycleError Unit) := do
  let server ← enlistServer name start stop
  let starts ← enlistAll "start" starts
  let stops ← enlistAll "stop" stops
  let signal := signalMs.elim (Activity.await .never) Flow.sleep
  (Lifecycle.serveUntil server starts stops signal).perform Actor.alone

/-! ## Signals -/

/-- What a signal ends. -/
inductive SignalUse where
  /-- A wait. -/
  | wait
  /-- A token that it cancels. -/
  | cancel
  /-- A service. -/
  | serve (name : String) (start stop : Script) (starts stops : List Script)

/-- What a signal ends, until it has ended, well or not. -/
def SignalUse.play : SignalUse → Play Bool
  | .wait => do
    Lifecycle.awaitSignal
    return true
  | .cancel => do
    Lifecycle.cancelOnSignal signalToken
    return true
  | .serve name start stop starts stops => do
    let server ← enlistServer name start stop
    let starts ← enlistAll "start" starts
    let stops ← enlistAll "stop" stops
    match ← (Lifecycle.serve server starts stops).perform Actor.alone with
    | .ok () => return true
    | .error _ => return false

/-- What comes about while somebody watches for signals. -/
inductive Interruption where
  | signal (received : Signal)
  /-- The token that the signal may cancel is cancelled. -/
  | cancel

/-- The effect of an interruption. -/
def Interruption.apply : Interruption → Stage → Stage
  | .signal received => World.receive received
  | .cancel => World.cancel signalToken

/-- An interruption that comes once somebody watches for signals. -/
def interrupt (interruption : Interruption) : Play Unit := do
  Activity.await (.whenever fun w => 0 < w.signalWatchers)
  Activity.change interruption.apply

/-- Something that a signal ends, interrupted once. -/
def rehearseSignal (use : SignalUse) (interruption : Interruption) :
    Option (Report (Option Bool)) :=
  rehearseOnce (Activity.beside (interrupt interruption) use.play)

end Supervision.Rehearsal
