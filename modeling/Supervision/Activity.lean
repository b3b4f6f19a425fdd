/-!
# Activities

An activity is one flow of control over a shared state: it has ended, takes an atomic step, or waits
for a trigger. Activities are data, so that a limit of time (`within`), a condition that ends one
(`haltWhen`), two activities side by side (`pair`, `all`) and one in the background of another
(`beside`) are functions on them. `run` executes an activity on a clock that jumps from one alarm to
the next.

An activity that waits gives way to every other one; an activity that does not wait is never
interrupted.
-/

namespace Supervision

/-- What ends a wait: a condition on the state, and the next instant, if any, at which the passing
of time alone can bring it about. An idle trigger also ends its wait when nothing else can go on. -/
structure Trigger (σ : Type) where
  ready : σ → Bool
  alarm : σ → Option Nat
  idle : Bool := false

/-- The earlier of two instants, where there is one. -/
def earliest : Option Nat → Option Nat → Option Nat
  | none, b => b
  | a, none => a
  | some a, some b => some (min a b)

namespace Trigger

variable {σ : Type}

/-- Either of two triggers. -/
def or (a b : Trigger σ) : Trigger σ where
  ready s := a.ready s || b.ready s
  alarm s := earliest (a.alarm s) (b.alarm s)
  idle := a.idle || b.idle

/-- The first of two waiting activities goes on: its trigger is ready, or the other one's is not and
nothing else can go on. -/
def isFirst (a b : Trigger σ) (s : σ) : Bool :=
  a.ready s || (!b.ready s && a.idle)

/-- A condition that time alone does not bring about. -/
def whenever (ready : σ → Bool) : Trigger σ where
  ready := ready
  alarm _ := none

/-- An instant of the clock. -/
def instant (clock : σ → Nat) (at' : Nat) : Trigger σ where
  ready s := at' ≤ clock s
  alarm _ := some at'

/-- A trigger that is always ready. -/
def always : Trigger σ := whenever fun _ => true

/-- A trigger that is never ready. -/
def never : Trigger σ := whenever fun _ => false

/-- A trigger for the time when nothing else can go on. -/
def quiet : Trigger σ := { never with idle := true }

end Trigger

/-- A flow of control over states `σ` that ends with a result in `α`. -/
inductive Activity (σ α : Type) where
  | done (result : α)
  /-- Changes the state at once, and goes on knowing the state before. -/
  | act (change : σ → σ) (next : σ → Activity σ α)
  /-- Goes on once the trigger is ready, knowing the state at that time. -/
  | wait (trigger : Trigger σ) (next : σ → Activity σ α)

namespace Activity

variable {σ α β γ : Type}

/-- One activity after another. -/
def bind : Activity σ α → (α → Activity σ β) → Activity σ β
  | done a, f => f a
  | act change next, f => act change fun s => (next s).bind f
  | wait trigger next, f => wait trigger fun s => (next s).bind f

instance : Monad (Activity σ) where
  pure := done
  bind := bind

/-- An atomic step with a result. -/
def step (f : σ → α × σ) : Activity σ α :=
  act (fun s => (f s).2) fun s => done (f s).1

/-- An atomic change of the state. -/
def change (f : σ → σ) : Activity σ Unit :=
  act f fun _ => done ()

/-- A look at the state. -/
def look (f : σ → α) : Activity σ α :=
  act id fun s => done (f s)

/-- A wait for a trigger, and a look at the state at its end. There is no wait, and no other
activity comes in between, if the trigger is ready at once. -/
def awaitLook (trigger : Trigger σ) (f : σ → α) : Activity σ α :=
  act id fun s => if trigger.ready s then done (f s) else wait trigger fun s => done (f s)

/-- A wait for a trigger. -/
def await (trigger : Trigger σ) : Activity σ Unit :=
  awaitLook trigger fun _ => ()

/-- A place where other activities that can go on come in between. -/
def checkpoint : Activity σ Unit :=
  wait .always fun _ => done ()

/-- Gives way until no other activity can go on and the background has settled. -/
def giveWay : Activity σ Unit :=
  wait .quiet fun _ => done ()

/-- An activity that is given up at an instant if it has not ended by then. What it has done stays
done. -/
def within (clock : σ → Nat) (deadline : Nat) : Activity σ α → Activity σ (Option α)
  | done a => done (some a)
  | act change next => act change fun s => within clock deadline (next s)
  | wait trigger next =>
    wait (trigger.or (.instant clock deadline)) fun s =>
      if trigger.ready s || clock s < deadline then within clock deadline (next s) else done none

/-- An activity that is given up once `stopped`, when it waits. What it has done stays done. -/
def haltWhen (stopped : σ → Bool) : Activity σ Unit → Activity σ Unit
  | done a => done a
  | act change next => act change fun s => haltWhen stopped (next s)
  | wait trigger next =>
    wait (trigger.or (.whenever stopped)) fun s =>
      if stopped s then done () else haltWhen stopped (next s)

/-- An activity that goes on while another one waits for `trigger`. When the trigger is ready and
this activity waits, the other one is resumed. -/
def behind (trigger : Trigger σ) (resume : σ → Activity σ β → Activity σ γ)
    (ended : β → Activity σ γ) : Activity σ β → Activity σ γ
  | done b => ended b
  | act change next => act change fun s => behind trigger resume ended (next s)
  | wait own next =>
    wait (trigger.or own) fun s =>
      if trigger.isFirst own s then resume s (wait own next)
      else behind trigger resume ended (next s)

/-- Two activities in turn, the left one first whenever both can go on. What happens when one of
them ends is up to `leftEnded` and `rightEnded`. -/
def merge (leftEnded : α → Activity σ β → Activity σ γ)
    (rightEnded : Activity σ α → β → Activity σ γ) :
    Activity σ α → Activity σ β → Activity σ γ
  | done a => leftEnded a
  | act change next => fun right =>
    act change fun s => merge leftEnded rightEnded (next s) right
  | wait trigger next =>
    behind trigger (fun s right => merge leftEnded rightEnded (next s) right)
      (rightEnded (wait trigger next))

/-- Two activities side by side, until both have ended. -/
def pair (left : Activity σ α) (right : Activity σ β) : Activity σ (α × β) :=
  merge (fun a q => q.bind fun b => done (a, b)) (fun p b => p.bind fun a => done (a, b)) left right

/-- Any number of activities side by side, until all have ended. -/
def all : List (Activity σ α) → Activity σ (List α)
  | [] => done []
  | p :: ps => (pair p (all ps)).bind fun (a, as) => done (a :: as)

/-- An activity with another one in the background, which ends with it. The background goes first
whenever both can go on. -/
def beside (background : Activity σ Unit) (main : Activity σ α) : Activity σ α :=
  merge (fun _ q => q) (fun _ a => done a) background main

end Activity

/-- What runs without being part of an activity: the clock, and work in the background that goes on
by itself whenever every activity waits. -/
structure Clockwork (σ : Type) where
  now : σ → Nat
  advanceTo : Nat → σ → σ
  /-- The background goes as far as it can at this instant. -/
  settle : σ → σ
  /-- The next instant at which the background can go on. -/
  alarm : σ → Option Nat

namespace Clockwork

variable {σ α : Type}

/-- Lets the background settle, and time pass until a trigger is ready, over at most `jumps`
alarms. An idle trigger does not let time pass. -/
def passTime (c : Clockwork σ) (trigger : Trigger σ) : (jumps : Nat) → σ → Option σ
  | jumps, s =>
    let s := c.settle s
    if trigger.ready s || trigger.idle then some s
    else
      match jumps, earliest (trigger.alarm s) (c.alarm s) with
      | jumps + 1, some next =>
        if next ≤ c.now s then none else passTime c trigger jumps (c.advanceTo next s)
      | _, _ => none

/-- Executes an activity up to the instant `horizon`. There is no result if it still waits then, or
waits for something that never comes. -/
def run (c : Clockwork σ) (horizon : Nat) : Activity σ α → σ → Option α × σ
  | .done a, s => (some a, s)
  | .act change next, s => run c horizon (next s) (change s)
  | .wait trigger next, s =>
    if trigger.ready s then run c horizon (next s) s
    else
      match passTime c trigger (horizon - c.now s) s with
      | some s => run c horizon (next s) s
      | none => (none, s)

end Clockwork

end Supervision
