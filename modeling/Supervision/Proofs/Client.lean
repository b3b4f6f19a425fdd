import Supervision.Lifecycle.Run
import Supervision.Proofs.Course
import Supervision.Proofs.Servers

/-!
# Clients of an orchestrator

Whoever holds an orchestrator can register parts and run it, but cannot change its parts in any
other way. `Client` says so of a flow, with all callbacks of the runs that it starts. Such flows can
be put together (`Client.bind`), and a granted run goes on as one (`Client.runParts`).
-/

namespace Supervision

variable {κ υ α β : Type}

/-- The part of an orchestrator that only registrations and runs change. -/
def Orchestrator.enrolment (o : Orchestrator κ) : Orchestrator κ :=
  { o with pastPhases := [], phase := .configuring, health := {} }

/-- The enrolment of the orchestrator of a world. -/
def World.enrolment (w : World κ υ) : Orchestrator κ :=
  w.orchestrator.enrolment

namespace World

/-- What leaves the control of a world alone leaves its enrolment alone. -/
lemma SameControl.enrolment {w w' : World κ υ} (same : w.SameControl w') :
    w'.enrolment = w.enrolment := by
  rw [World.enrolment, World.enrolment, same.orchestrator]

/-- Counting a sample is no enrolment. -/
@[simp] lemma enrolment_count {w : World κ υ} {m} : (w.count m).enrolment = w.enrolment := rfl

/-- Making a token is no enrolment. -/
@[simp] lemma enrolment_freshToken {w : World κ υ} :
    w.freshToken.2.enrolment = w.enrolment := rfl

/-- Publishing a phase is no enrolment. -/
@[simp] lemma enrolment_publish {w : World κ υ} {phase} :
    (w.changeOrchestrator fun o => o.publish phase).enrolment = w.enrolment := rfl

end World

/-- A flow that changes the enrolment by registrations and runs alone. The callbacks of its runs are
such flows as well. -/
inductive Client : {γ : Type} → Flow κ υ γ → Prop where
  | done {γ : Type} {a : γ} :
    Client (.done a)
  | own {γ : Type} {change} {next : World κ υ → Flow κ υ γ} :
    (∀ w, (change w).enrolment = w.enrolment) →
    (∀ w, Client (next w)) →
    Client (.act change next)
  | wait {γ : Type} {trigger} {next : World κ υ → Flow κ υ γ} :
    (∀ w, Client (next w)) →
    Client (.wait trigger next)
  | register {γ : Type} {r} {next : Except LifecycleError Unit → Flow κ υ γ} :
    (∀ answer, Client (next answer)) →
    Client ((Lifecycle.register r).bind next)
  | run {γ : Type} {ctx b} {next : RunOutcome → Flow κ υ γ} :
    (∀ handle t, Client (b handle t)) →
    (∀ outcome, Client (next outcome)) →
    Client (((Lifecycle.run ctx).perform b).bind next)

namespace Client

/-- A client may go on as another one. -/
lemma bind {p : Flow κ υ α} {f : α → Flow κ υ β} (first : Client p) (rest : ∀ a, Client (f a)) :
    Client (p >>= f) := by
  show Client (Activity.bind p f)
  induction first with
  | done => exact rest _
  | own keeps _ ih => exact .own keeps fun w => ih w rest
  | wait _ ih => exact .wait fun w => ih w rest
  | register _ ih =>
    rw [Activity.bind_assoc]
    exact .register fun answer => ih answer rest
  | run callbacks _ _ ih =>
    rw [Activity.bind_assoc]
    exact .run callbacks fun outcome => ih outcome rest

/-- A flow that leaves the enrolment alone is a client. -/
lemma of_respects {p : Flow κ υ α}
    (respects : p.Respects fun w w' => w'.enrolment = w.enrolment) : Client p := by
  induction respects with
  | done => exact .done
  | act keeps _ ih => exact .own keeps ih
  | wait _ ih => exact .wait ih

/-- The stop of a server is a client. -/
lemma stop {id ctx} : Client (Server.stop id ctx : Flow κ υ _) :=
  of_respects (Server.stop_respects.mono World.SameControl.enrolment)

/-- The start of a server is a client. -/
lemma start {id} : Client (Server.start id : Flow κ υ _) :=
  of_respects (Server.start_respects.mono World.SameControl.enrolment)

end Client

/-! ## Runs -/

/-- A plan whose own steps do not change the enrolment, and which waits for its calls to end. -/
inductive Plan.Keeps : Plan κ υ α → Prop where
  | done {a} :
    Keeps (.done a)
  | act {change next} :
    (∀ w : World κ υ, (change w).enrolment = w.enrolment) →
    (∀ w, Keeps (next w)) →
    Keeps (.act change next)
  | wait {trigger next} :
    (∀ w, Keeps (next w)) →
    Keeps (.wait trigger next)
  | call {c ctx next} :
    (∀ outcome, Keeps (next outcome)) →
    Keeps (.call c ctx next)

namespace Plan.Keeps

/-- Plans that keep the enrolment may be chained. -/
lemma bind {p : Plan κ υ α} {f : α → Plan κ υ β} (first : Keeps p) (rest : ∀ a, Keeps (f a)) :
    Keeps (p >>= f) := by
  show Keeps (Plan.bind p f)
  induction first with
  | done => exact rest _
  | act keeps _ ih => exact .act keeps fun w => ih w
  | wait _ ih => exact .wait fun w => ih w
  | call _ ih => exact .call fun outcome => ih outcome

/-- A change that leaves the enrolment alone keeps it. -/
lemma change {f : World κ υ → World κ υ} (keeps : ∀ w, (f w).enrolment = w.enrolment) :
    Keeps (.ofFlow (Activity.change f)) :=
  .act keeps fun _ => .done

/-- Publishing a phase keeps it. -/
lemma publish {phase} : Keeps (.ofFlow (Flow.publish phase) : Plan κ υ _) :=
  change fun _ => World.enrolment_publish

/-- Counting a sample keeps it. -/
lemma count {m} : Keeps (.ofFlow (Flow.count m) : Plan κ υ _) :=
  change fun _ => World.enrolment_count

/-- Making a token keeps it. -/
lemma freshToken : Keeps (.ofFlow Flow.freshToken : Plan κ υ _) :=
  .act (fun _ => World.enrolment_freshToken) fun _ => .done

/-- Waiting for a token keeps it. -/
lemma cancelled {t} : Keeps (.ofFlow (Flow.cancelled t) : Plan κ υ _) := by
  refine .act (fun _ => rfl) fun w => ?_
  dsimp only
  split
  · exact .done
  · exact .wait fun _ => .done

/-- A call keeps it, apart from what its callback does. -/
lemma attempt {ctx c} : Keeps (attempt Call.note ctx c : Plan κ υ _) := by
  refine .call fun outcome => .act (fun w => ?_) fun _ => .done
  cases outcome <;> rfl

/-- Calls that are tried one by one keep it. -/
lemma tryEach {ctx cs} : Keeps (tryEach ctx cs : Plan κ υ _) := by
  induction cs with
  | nil => exact .done
  | cons c rest ih =>
    refine attempt.bind fun outcome => ?_
    cases outcome with
    | ok => exact ih
    | error => exact .done

/-- Calls that are all made keep it. -/
lemma callEach {ctx cs} : Keeps (callEach Call.note ctx cs : Plan κ υ _) := by
  induction cs with
  | nil => exact .done
  | cons c rest ih => exact attempt.bind fun _ => ih.bind fun _ => .done

/-- The start of components keeps it. -/
lemma startWithRollback {ctx starts stops} :
    Keeps (Lifecycle.startWithRollback ctx starts stops : Plan κ υ _) := by
  refine tryEach.bind fun failed => ?_
  cases failed with
  | none => exact count.bind fun _ => .done
  | some failure => exact (freshToken.bind fun _ => callEach).bind fun _ => .done

/-- The start of all parts keeps it. -/
lemma startParts {ctx parts} : Keeps (Lifecycle.startParts ctx parts : Plan κ υ _) := by
  refine startWithRollback.bind fun started => ?_
  cases started with
  | error => exact .done
  | ok =>
    refine tryEach.bind fun failed => ?_
    cases failed with
    | none => exact .done
    | some failure => exact .done

/-- A teardown keeps it. -/
lemma teardown {parts} : Keeps (Lifecycle.teardown parts : Plan κ υ _) :=
  freshToken.bind fun _ => callEach.bind fun _ => count.bind fun _ => .done

/-- The parts of a run keep it. -/
lemma runParts {ctx parts} : Keeps (Lifecycle.runParts ctx parts : Plan κ υ _) := by
  refine publish.bind fun _ => startParts.bind fun started => ?_
  cases started with
  | error => exact publish.bind fun _ => .done
  | ok =>
    refine count.bind fun _ => publish.bind fun _ => cancelled.bind fun _ => ?_
    exact publish.bind fun _ => teardown.bind fun _ => publish.bind fun _ => .done

end Plan.Keeps

namespace Client

/-- A call of a part does what a client may do, if the callbacks do. -/
lemma flow {b : Behaviour κ υ} {ctx} {c : Call κ} (callbacks : ∀ handle t, Client (b handle t)) :
    Client (c.flow b ctx) :=
  Call.flow_cases .done (fun handle => callbacks handle ctx) (fun _ => start) fun _ => stop

/-- If a plan keeps the enrolment and its callbacks are clients, it is performed by a client. -/
lemma perform {b : Behaviour κ υ} {p : Plan κ υ α} (callbacks : ∀ handle t, Client (b handle t))
    (keeps : p.Keeps) : Client (p.perform b) := by
  induction keeps with
  | done => exact .done
  | act keeps _ ih => exact .own keeps ih
  | wait _ ih => exact .wait ih
  | call _ ih => exact (flow callbacks).bind ih

/-- A granted run goes on as a client. -/
lemma runParts {b : Behaviour κ υ} {ctx parts} (callbacks : ∀ handle t, Client (b handle t)) :
    Client ((Lifecycle.runParts ctx parts).perform b) :=
  perform callbacks .runParts

end Client

end Supervision
