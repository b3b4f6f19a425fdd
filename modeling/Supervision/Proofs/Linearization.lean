import Supervision.Proofs.Client
import Supervision.Proofs.Startup

/-!
# Linearization

Any number of clients share an orchestrator, and their steps interleave in any order (`Pool.Step`).
`Pool.Records` keeps the history of their calls of the orchestrator, each with its answer and with
the worlds before and after it. `Pool.linearized` says what such a history looks like: registrations
up to the first run, which gets all parts that were accepted, and after that nothing but refusals.
-/

namespace Supervision
open Lifecycle

variable {κ υ : Type}

/-! ## Histories -/

/-- A call of the orchestrator, with the worlds before and after it. -/
inductive Entry (κ υ : Type) where
  | registered (r : Registration κ) (answer : Except LifecycleError Unit)
    (before after : World κ υ)
  /-- A run, with the parts that it got if it was not refused. -/
  | ran (ctx : Token) (parts : Option (Orchestrator κ)) (before after : World κ υ)

namespace Entry

/-- The registration that was accepted, if it is one. -/
def accepted? : Entry κ υ → Option (Registration κ)
  | registered r (.ok ()) _ _ => some r
  | _ => none

/-- The entry is a registration. -/
def IsRegistration : Entry κ υ → Prop
  | registered _ _ _ _ => True
  | ran _ _ _ _ => False

/-- The call was refused because a run has the orchestrator, and changed nothing. -/
def Refused : Entry κ υ → Prop
  | registered _ answer before after => answer = .error .alreadyRun ∧ after = before
  | ran _ parts before after => parts = none ∧ after = before

end Entry

/-- The registrations that were accepted, in order. -/
def accepted (history : List (Entry κ υ)) : List (Registration κ) :=
  history.filterMap Entry.accepted?

namespace Registration

/-- The component that is registered. -/
def component? : Registration κ → Option (Component κ)
  | component c => some c
  | _ => none

/-- The runner that is registered, which may be a server. -/
def runner? : Registration κ → Option (Runner κ)
  | runner r => some r
  | httpServer r => some r
  | grpcServer r => some r
  | _ => none

/-- The hook that is registered. -/
def hook? : Registration κ → Option (Callback κ)
  | hook h => some h
  | _ => none

end Registration

/-- The parts of an orchestrator are those of the registrations, in their order. -/
structure Orchestrator.Holds (o : Orchestrator κ) (rs : List (Registration κ)) : Prop where
  components : o.components = rs.filterMap Registration.component?
  runners : o.runners = rs.filterMap Registration.runner?
  hooks : o.hooks = rs.filterMap Registration.hook?

/-- A history in which one run has got the orchestrator, or none yet. -/
inductive Linear (history : List (Entry κ υ)) (o : Orchestrator κ) : Prop where
  | waiting :
    o.claimed = false →
    (∀ entry ∈ history, entry.IsRegistration) →
    o.Holds (accepted history) →
    Linear history o
  | taken {early ctx parts before after late} :
    history = early ++ .ran ctx (some parts) before after :: late →
    (∀ entry ∈ early, entry.IsRegistration) →
    parts.Holds (accepted early) →
    parts.claimed = true →
    (∀ entry ∈ late, entry.Refused) →
    o.enrolment = parts.enrolment →
    Linear history o

/-! ## Pools -/

/-- Clients with the world that they share. -/
structure Pool (κ υ : Type) where
  threads : List (Flow κ υ Unit)
  world : World κ υ

/-- The next step of a flow is a call of the orchestrator. -/
def IsCall (p : Flow κ υ Unit) : Prop :=
  (∃ r next, p = (register r).bind next) ∨ ∃ ctx b next, p = ((run ctx).perform b).bind next

namespace Pool

/-- A thread goes on as `p` in a world. -/
def goOn (P : Pool κ υ) (i : Nat) (p : Flow κ υ Unit) (w : World κ υ) : Pool κ υ :=
  ⟨P.threads.set i p, w⟩

/-- A thread takes a step, a client comes in, or something happens elsewhere. -/
inductive Step (P : Pool κ υ) : Pool κ υ → Prop where
  | advance {i p q w} :
    P.threads[i]? = some p →
    p.Advance P.world q w →
    Step P (P.goOn i q w)
  | enter {p} :
    Client p →
    Step P ⟨P.threads ++ [p], P.world⟩
  | elsewhere {w} :
    w.enrolment = P.world.enrolment →
    Step P ⟨P.threads, w⟩

/-- A step in which nobody calls the orchestrator. -/
inductive Quiet (P : Pool κ υ) : Pool κ υ → Prop where
  | advance {i p q w} :
    P.threads[i]? = some p →
    ¬ IsCall p →
    p.Advance P.world q w →
    w.enrolment = P.world.enrolment →
    Quiet P (P.goOn i q w)
  | enter {p} :
    Client p →
    Quiet P ⟨P.threads ++ [p], P.world⟩
  | elsewhere {w} :
    w.enrolment = P.world.enrolment →
    Quiet P ⟨P.threads, w⟩

/-- The history of the calls between two pools. -/
inductive Records (P : Pool κ υ) : List (Entry κ υ) → Pool κ υ → Prop where
  | nil :
    Records P [] P
  | quiet {history Q R} :
    Records P history Q →
    Q.Quiet R →
    Records P history R
  | registered {history Q i r next answer w} :
    Records P history Q →
    Q.threads[i]? = some ((register r).bind next) →
    registerIn r Q.world = (answer, w) →
    Records P (history ++ [.registered r answer Q.world w]) (Q.goOn i (next answer) w)
  | granted {history Q i ctx b next parts w} :
    Records P history Q →
    Q.threads[i]? = some (((run ctx).perform b).bind next) →
    claim Q.world = (some parts, w) →
    Records P (history ++ [.ran ctx (some parts) Q.world w])
      (Q.goOn i (((runParts ctx parts).perform b).bind next) w)
  /-- A run that is refused returns at once, and calls nothing. -/
  | refused {history Q i ctx b next w} :
    Records P history Q →
    Q.threads[i]? = some (((run ctx).perform b).bind next) →
    claim Q.world = (none, w) →
    Records P (history ++ [.ran ctx none Q.world w])
      (Q.goOn i (next (.error (.single .alreadyRun))) w)

/-! ## Every execution has a history -/

end Pool

/-- A registration is one step, and its client goes on with the answer. -/
lemma Activity.Advance.of_register {r next w w'} {q : Flow κ υ Unit}
    (step : Activity.Advance ((register r).bind next) w q w') :
    q = next (registerIn r w).1 ∧ w' = (registerIn r w).2 := by
  cases step with
  | act => exact ⟨rfl, rfl⟩

/-- A run claims the orchestrator in one step. If another one has it, then its client goes on with
the refusal. -/
lemma Activity.Advance.of_run {ctx b next w w'} {q : Flow κ υ Unit}
    (step : Activity.Advance (((run ctx).perform b).bind next) w q w') :
    w' = (claim w).2 ∧
      (((claim w).1 = none ∧ q = next (.error (.single .alreadyRun))) ∨
        ∃ parts, (claim w).1 = some parts ∧ q = ((runParts ctx parts).perform b).bind next) := by
  rw [run_eq] at step
  cases step with
  | act =>
    refine ⟨rfl, ?_⟩
    dsimp only
    cases got : (claim w).1 with
    | none => exact .inl ⟨rfl, rfl⟩
    | some parts => exact .inr ⟨parts, rfl, rfl⟩

/-- A client remains one after each of its steps. -/
lemma Client.advance {p q : Flow κ υ Unit} {w w'} (client : Client p) (step : p.Advance w q w') :
    Client q := by
  cases client with
  | done => cases step
  | own keeps rest =>
    cases step with
    | act => exact rest w
  | wait rest =>
    cases step with
    | resume => exact rest w
  | register rest =>
    obtain ⟨rfl, -⟩ := step.of_register
    exact rest _
  | run callbacks rest =>
    obtain ⟨-, ⟨-, rfl⟩ | ⟨parts, -, rfl⟩⟩ := step.of_run
    · exact rest _
    · exact (Client.runParts callbacks).bind rest

/-- A client changes the enrolment by calls alone. -/
lemma Client.enrolment {p q : Flow κ υ Unit} {w w'} (client : Client p) (quiet : ¬ IsCall p)
    (step : p.Advance w q w') : w'.enrolment = w.enrolment := by
  cases client with
  | done => cases step
  | own keeps rest =>
    cases step with
    | act => exact keeps w
  | wait rest =>
    cases step with
    | resume => rfl
  | register rest => exact absurd (.inl ⟨_, _, rfl⟩) quiet
  | run callbacks rest => exact absurd (.inr ⟨_, _, _, rfl⟩) quiet

namespace Pool

/-- Only clients come in, and all of them remain clients. -/
lemma Step.clients {P Q : Pool κ υ} (step : P.Step Q) (clients : ∀ p ∈ P.threads, Client p) :
    ∀ p ∈ Q.threads, Client p := by
  cases step with
  | advance here step =>
    intro p member
    rcases List.mem_or_eq_of_mem_set member with member | rfl
    · exact clients p member
    · exact (clients _ (List.mem_of_getElem? here)).advance step
  | enter client =>
    intro p member
    rcases List.mem_append.1 member with member | member
    · exact clients p member
    · rw [List.mem_singleton.1 member]
      exact client
  | elsewhere _ => exact clients

/-- The history of a pool of clients grows with its steps. -/
lemma Records.step {P Q R : Pool κ υ} {history} (records : P.Records history Q)
    (clients : ∀ p ∈ Q.threads, Client p) (step : Q.Step R) : ∃ history, P.Records history R := by
  cases step with
  | @advance i p q w here step =>
    -- a step is recorded if it is a call, whatever else the flow may be
    by_cases call : IsCall p
    · obtain ⟨r, next, rfl⟩ | ⟨ctx, b, next, rfl⟩ := call
      · obtain ⟨rfl, rfl⟩ := step.of_register
        exact ⟨_, .registered records here rfl⟩
      · obtain ⟨rfl, ⟨none, rfl⟩ | ⟨parts, some, rfl⟩⟩ := step.of_run
        · exact ⟨_, .refused records here (Prod.ext none rfl)⟩
        · exact ⟨_, .granted records here (Prod.ext some rfl)⟩
    · have keeps := (clients _ (List.mem_of_getElem? here)).enrolment call step
      exact ⟨_, .quiet records (.advance here call step keeps)⟩
  | enter client => exact ⟨_, .quiet records (.enter client)⟩
  | elsewhere keeps => exact ⟨_, .quiet records (.elsewhere keeps)⟩

/-- Every execution of clients has a history. -/
lemma exists_records {P Q : Pool κ υ} (steps : Relation.ReflTransGen Step P Q)
    (clients : ∀ p ∈ P.threads, Client p) :
    (∀ p ∈ Q.threads, Client p) ∧ ∃ history, P.Records history Q := by
  induction steps with
  | refl => exact ⟨clients, [], .nil⟩
  | tail _ step ih =>
    obtain ⟨clients, history, records⟩ := ih
    exact ⟨step.clients clients, records.step clients step⟩

end Pool

/-! ## Histories are linear -/

/-- A registration that is accepted adds its part to those of its kind. -/
lemma Orchestrator.accept_eq_ok {o o' : Orchestrator κ} {r} (accepted : o.accept r = .ok o') :
    o'.components = o.components ++ r.component?.toList ∧
      o'.runners = o.runners ++ r.runner?.toList ∧
      o'.hooks = o.hooks ++ r.hook?.toList ∧ o'.claimed = o.claimed := by
  cases r with
  | runner =>
    cases accepted
    simp [Registration.component?, Registration.runner?, Registration.hook?]
  | httpServer =>
    rw [accept] at accepted
    split at accepted
    · cases accepted
    · cases accepted
      simp [Registration.component?, Registration.runner?, Registration.hook?]
  | grpcServer =>
    cases accepted
    simp [Registration.component?, Registration.runner?, Registration.hook?]
  | component =>
    cases accepted
    simp [Registration.component?, Registration.runner?, Registration.hook?]
  | hook =>
    cases accepted
    simp [Registration.component?, Registration.runner?, Registration.hook?]
  | healthCheck =>
    rw [accept] at accepted
    split at accepted
    · cases accepted
    · cases accepted
      simp [Registration.component?, Registration.runner?, Registration.hook?]
  | healthReporter =>
    cases accepted
    simp [Registration.component?, Registration.runner?, Registration.hook?]

/-- The registration of a component pushes its start onto the starts and its stop onto the stops. No
other registration touches either list. -/
lemma Orchestrator.starts_stops_of_accept {o o' : Orchestrator κ} {r}
    (accepted : o.accept r = .ok o') :
    o'.starts = o.starts ++ (r.component?.map Component.start).toList ∧
      o'.stops = o.stops ++ (r.component?.map Component.stop).toList := by
  obtain ⟨components, -⟩ := accept_eq_ok accepted
  rw [starts, starts, stops, stops, components, List.map_append, List.map_append]
  cases r.component? <;> exact ⟨rfl, rfl⟩

/-- The last element is mapped last. -/
lemma filterMap_snoc {α β : Type} {f : α → Option β} {xs x} :
    (xs ++ [x]).filterMap f = xs.filterMap f ++ (f x).toList := by
  rw [List.filterMap_append, List.filterMap_cons, List.filterMap_nil]
  cases f x <;> rfl

/-- An orchestrator that accepts a registration holds it as well. -/
lemma Orchestrator.Holds.accept {o o' : Orchestrator κ} {r rs} (holds : o.Holds rs)
    (accepted : o.accept r = .ok o') : o'.Holds (rs ++ [r]) := by
  obtain ⟨components, runners, hooks, -⟩ := Orchestrator.accept_eq_ok accepted
  constructor
  · rw [components, holds.components, filterMap_snoc]
  · rw [runners, holds.runners, filterMap_snoc]
  · rw [hooks, holds.hooks, filterMap_snoc]

/-- A registration is accepted, or it leaves the world as it is. -/
lemma registerIn_unclaimed {w w' : World κ υ} {r answer}
    (unclaimed : w.orchestrator.claimed = false) (call : registerIn r w = (answer, w')) :
    (∃ e, answer = .error e ∧ w' = w) ∨
      answer = .ok () ∧ w.orchestrator.accept r = .ok w'.orchestrator := by
  unfold registerIn Orchestrator.register at call
  rw [unclaimed] at call
  cases accepted : w.orchestrator.accept r with
  | error e =>
    simp only [Bool.false_eq_true, if_false, accepted] at call
    cases call
    exact .inl ⟨e, rfl, rfl⟩
  | ok o =>
    simp only [Bool.false_eq_true, if_false, accepted] at call
    cases call
    exact .inr ⟨rfl, rfl⟩

/-- A registration is refused once a run has the orchestrator, whatever it asks for. -/
lemma registerIn_claimed {w : World κ υ} {r} (claimed : w.orchestrator.claimed = true) :
    registerIn r w = (.error .alreadyRun, w) := by
  simp [registerIn, Orchestrator.register, claimed]

/-- Who asks later for the orchestrator gets nothing, and changes nothing. -/
lemma claim_claimed {w : World κ υ} (claimed : w.orchestrator.claimed = true) :
    claim w = (none, w) := by
  simp [claim, Orchestrator.claim?, claimed]

/-- The last entry may add an accepted registration. -/
lemma accepted_snoc {history : List (Entry κ υ)} {entry} :
    accepted (history ++ [entry]) = accepted history ++ entry.accepted?.toList :=
  filterMap_snoc

/-- What one enrolment leaves no choice about. -/
lemma Orchestrator.enrolment_inv {o o' : Orchestrator κ} (same : o'.enrolment = o.enrolment) :
    o'.components = o.components ∧ o'.runners = o.runners ∧ o'.hooks = o.hooks ∧
      o'.claimed = o.claimed := by
  have components := congrArg Orchestrator.components same
  have runners := congrArg Orchestrator.runners same
  have hooks := congrArg Orchestrator.hooks same
  have claimed := congrArg Orchestrator.claimed same
  exact ⟨components, runners, hooks, claimed⟩

/-- What holds of a list and of one more element holds of both together. -/
lemma forall_mem_snoc {α : Type} {P : α → Prop} {xs x} (all : ∀ y ∈ xs, P y) (last : P x) :
    ∀ y ∈ xs ++ [x], P y := by
  intro y member
  rcases List.mem_append.1 member with member | member
  · exact all y member
  · rw [List.mem_singleton.1 member]
    exact last

namespace Linear

variable {history : List (Entry κ υ)} {o o' : Orchestrator κ}

/-- Only the enrolment counts. -/
lemma congr (linear : Linear history o) (same : o'.enrolment = o.enrolment) :
    Linear history o' := by
  cases linear with
  | waiting unclaimed registrations holds =>
    obtain ⟨components, runners, hooks, claimed⟩ := Orchestrator.enrolment_inv same
    refine .waiting (claimed.trans unclaimed) registrations ⟨?_, ?_, ?_⟩
    · exact components.trans holds.components
    · exact runners.trans holds.runners
    · exact hooks.trans holds.hooks
  | taken split registrations holds claimed refused kept =>
    exact .taken split registrations holds claimed refused (same.trans kept)

/-- Once a run has the orchestrator, what is refused comes at the end. -/
lemma refuse {entry : Entry κ υ} (linear : Linear history o) (claimed : o.claimed = true)
    (refused : entry.Refused) : Linear (history ++ [entry]) o := by
  cases linear with
  | waiting unclaimed _ _ =>
    rw [unclaimed] at claimed
    cases claimed
  | @taken early ctx parts before after late split registrations holds got refusals kept =>
    have split : history ++ [entry] =
        early ++ .ran ctx (some parts) before after :: (late ++ [entry]) := by
      rw [split, List.append_assoc, List.cons_append]
    exact .taken split registrations holds got (forall_mem_snoc refusals refused) kept

/-- A history remains linear with one more registration. -/
lemma registered {r answer} {w w' : World κ υ} (linear : Linear history w.orchestrator)
    (call : registerIn r w = (answer, w')) :
    Linear (history ++ [.registered r answer w w']) w'.orchestrator := by
  -- the flag of the orchestrator tells which form the history has
  cases taken : w.orchestrator.claimed with
  | true =>
    rw [registerIn_claimed taken] at call
    cases call
    exact linear.refuse taken ⟨rfl, rfl⟩
  | false =>
    cases linear with
    | taken _ _ _ claimed _ kept =>
      rw [(Orchestrator.enrolment_inv kept).2.2.2, claimed] at taken
      cases taken
    | waiting unclaimed registrations holds =>
      have registrations : ∀ entry ∈ history ++ [.registered r answer w w'], entry.IsRegistration :=
        forall_mem_snoc registrations trivial
      obtain ⟨e, rfl, rfl⟩ | ⟨rfl, granted⟩ := registerIn_unclaimed unclaimed call
      · refine .waiting unclaimed registrations ?_
        rw [accepted_snoc]
        simpa [Entry.accepted?] using holds
      · refine .waiting ?_ registrations ?_
        · rw [(Orchestrator.accept_eq_ok granted).2.2.2, unclaimed]
        · rw [accepted_snoc]
          exact holds.accept granted

/-- A history remains linear with one more run. -/
lemma ran {ctx parts} {w w' : World κ υ} (linear : Linear history w.orchestrator)
    (call : claim w = (parts, w')) :
    Linear (history ++ [.ran ctx parts w w']) w'.orchestrator := by
  cases taken : w.orchestrator.claimed with
  | true =>
    rw [claim_claimed taken] at call
    cases call
    exact linear.refuse taken ⟨rfl, rfl⟩
  | false =>
    cases linear with
    | taken _ _ _ claimed _ kept =>
      rw [(Orchestrator.enrolment_inv kept).2.2.2, claimed] at taken
      cases taken
    | waiting unclaimed registrations holds =>
      rw [claim_unclaimed unclaimed] at call
      cases call
      have holds : w.orchestrator.taken.Holds (accepted history) :=
        ⟨holds.components, holds.runners, holds.hooks⟩
      exact .taken rfl registrations holds rfl (by simp) rfl

end Linear

namespace Pool

/-- The history of an orchestrator that began without parts is linear. -/
lemma Records.linear {P Q : Pool κ υ} {history} (records : P.Records history Q)
    (fresh : P.world.enrolment = {}) : Linear history Q.world.orchestrator := by
  induction records with
  | nil =>
    obtain ⟨components, runners, hooks, claimed⟩ := Orchestrator.enrolment_inv (o := {}) fresh
    exact .waiting claimed (by simp) ⟨components, runners, hooks⟩
  | quiet _ step ih =>
    cases step with
    | advance _ _ _ keeps => exact ih.congr keeps
    | enter _ => exact ih
    | elsewhere keeps => exact ih.congr keeps
  | registered _ _ call ih => exact ih.registered call
  | granted _ _ call ih => exact ih.ran call
  | refused _ _ call ih => exact ih.ran call

/-- Calls of one orchestrator are linearized, in every order of the steps of any number of clients.
The first run gets all parts that were accepted before it; every call after that is refused and
changes nothing. -/
theorem linearized {P Q : Pool κ υ} (steps : Relation.ReflTransGen Step P Q)
    (clients : ∀ p ∈ P.threads, Client p) (fresh : P.world.enrolment = {}) :
    (∃ history, P.Records history Q) ∧
      ∀ history, P.Records history Q → Linear history Q.world.orchestrator := by
  constructor
  · exact (exists_records steps clients).2
  · intro history records
    exact records.linear fresh

/-- A hook that is registered before two runs, and a component that comes late. -/
def crowd : Pool Outcome Unit where
  threads := [(register (.hook none)).bind fun _ => .done (),
    ((run ⟨0⟩).perform prompt).bind fun _ => .done (),
    ((run ⟨1⟩).perform prompt).bind fun _ => .done (),
    (register (.component ⟨none, none⟩)).bind fun _ => .done ()]
  world := World.around {}

/-- The four calls of the crowd in turn. -/
theorem linearized_crowd :
    ∃ history Q, crowd.Records history Q ∧ Linear history Q.world.orchestrator ∧
      Q.world.orchestrator.claimed = true := by
  have steps : Relation.ReflTransGen Step crowd _ :=
    .tail (.tail (.tail (.tail .refl (.advance (i := 0) rfl .act)) (.advance (i := 1) rfl .act))
      (.advance (i := 2) rfl .act)) (.advance (i := 3) rfl .act)
  have clients : ∀ p ∈ crowd.threads, Client p := by
    simp only [crowd, List.forall_mem_cons]
    refine ⟨.register fun _ => .done, .run (fun _ _ => .done) fun _ => .done,
      .run (fun _ _ => .done) fun _ => .done, .register fun _ => .done, by simp⟩
  obtain ⟨⟨history, records⟩, all⟩ := linearized steps clients rfl
  exact ⟨history, _, records, all history records, rfl⟩

end Pool

end Supervision
