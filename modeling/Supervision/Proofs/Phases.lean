import Supervision.Proofs.Linearization
import Supervision.Proofs.Performance

/-!
# Phases

An orchestrator publishes the phases of its first run, and nothing else. `Plan.Phased` says in which
phase a plan makes its calls and with which results it can end in a phase; `System.phases` says what
an orchestrator has published whenever any number of runs, registrations and callbacks have come
some way.
-/

namespace Supervision
open Lifecycle

variable {κ υ α β : Type}

/-! ## Phases of worlds -/

/-- The phases that are published up to this one. -/
def Phase.path : Phase → List Phase
  | configuring => [configuring]
  | starting => [configuring, starting]
  | failed => [configuring, starting, failed]
  | running => [configuring, starting, running]
  | stopping => [configuring, starting, running, stopping]
  | stopped => [configuring, starting, running, stopping, stopped]

/-- The phases lead to a failed start, or through a whole run. -/
lemma Phase.path_prefix (φ : Phase) :
    φ.path <+: [configuring, starting, failed] ∨
      φ.path <+: [configuring, starting, running, stopping, stopped] := by
  cases φ <;> decide

namespace World

/-- A run has the orchestrator, and has come to this phase. -/
structure IsIn (w : World κ υ) (φ : Phase) : Prop where
  claimed : w.orchestrator.claimed = true
  published : w.orchestrator.published = φ.path

/-- The same has been published, and no run has come to have the orchestrator. -/
structure SamePhases (w w' : World κ υ) : Prop where
  claimed : w'.orchestrator.claimed = w.orchestrator.claimed
  published : w'.orchestrator.published = w.orchestrator.published

variable {w w' : World κ υ} {φ ψ : Phase}

/-- What leaves the orchestrator alone publishes nothing. -/
lemma SamePhases.of_eq (same : w'.orchestrator = w.orchestrator) : w.SamePhases w' :=
  ⟨by rw [same], by rw [same]⟩

/-- A run is in the same phase as long as nobody publishes anything. -/
lemma IsIn.of_same (here : w.IsIn φ) (same : w.SamePhases w') : w'.IsIn φ where
  claimed := same.claimed.trans here.claimed
  published := same.published.trans here.published

/-- A run that publishes the next phase is in that phase. -/
lemma IsIn.publish (here : w.IsIn φ) (next : ψ.path = φ.path ++ [ψ]) :
    (w.changeOrchestrator fun o => o.publish ψ).IsIn ψ where
  claimed := here.claimed
  published := by
    rw [next, ← here.published]
    rfl

/-- The present phase is the one to which the run has come. -/
lemma IsIn.phase (here : w.IsIn φ) : w.orchestrator.phase = φ := by
  have last : w.orchestrator.published.getLast? = some w.orchestrator.phase :=
    List.getLast?_concat
  rw [here.published] at last
  cases φ <;> exact (Option.some.inj last).symm

/-- A registration publishes nothing. -/
lemma published_of_accept {o o' : Orchestrator κ} {r} (accepted : o.accept r = .ok o') :
    o'.published = o.published := by
  cases r with
  | runner => cases accepted; rfl
  | httpServer =>
    rw [Orchestrator.accept] at accepted
    split at accepted
    · cases accepted
    · cases accepted; rfl
  | grpcServer => cases accepted; rfl
  | component => cases accepted; rfl
  | hook => cases accepted; rfl
  | healthCheck =>
    rw [Orchestrator.accept] at accepted
    split at accepted
    · cases accepted
    · cases accepted; rfl
  | healthReporter => cases accepted; rfl

/-- A registration publishes nothing, whether it is accepted or not. -/
lemma samePhases_registerIn (r : Registration κ) : w.SamePhases (registerIn r w).2 := by
  cases taken : w.orchestrator.claimed with
  | true =>
    rw [registerIn_claimed taken]
    exact .of_eq rfl
  | false =>
    have call : registerIn r w = ((registerIn r w).1, (registerIn r w).2) := rfl
    obtain ⟨e, -, same⟩ | ⟨-, accepted⟩ := registerIn_unclaimed taken call
    · rw [same]
      exact .of_eq rfl
    · exact ⟨(Orchestrator.accept_eq_ok accepted).2.2.2, published_of_accept accepted⟩

end World

/-! ## Flows of callbacks -/

/-- A flow that changes the orchestrator by registrations and runs alone. -/
inductive Visitor : {γ : Type} → Flow κ υ γ → Prop where
  | done {γ : Type} {a : γ} :
    Visitor (.done a)
  | own {γ : Type} {change} {next : World κ υ → Flow κ υ γ} :
    (∀ w, (change w).orchestrator = w.orchestrator) →
    (∀ w, Visitor (next w)) →
    Visitor (.act change next)
  | wait {γ : Type} {trigger} {next : World κ υ → Flow κ υ γ} :
    (∀ w, Visitor (next w)) →
    Visitor (.wait trigger next)
  | register {γ : Type} {r} {next : Except LifecycleError Unit → Flow κ υ γ} :
    (∀ answer, Visitor (next answer)) →
    Visitor ((Lifecycle.register r).bind next)
  | run {γ : Type} {ctx b} {next : RunOutcome → Flow κ υ γ} :
    (∀ outcome, Visitor (next outcome)) →
    Visitor (((Lifecycle.run ctx).perform b).bind next)

/-- A flow that changes no phase while a run has the orchestrator, and whose results satisfy `Q`. -/
inductive Guest (Q : α → Prop) : Flow κ υ α → Prop where
  | done {a} :
    Q a →
    Guest Q (.done a)
  | act {change next} :
    (∀ w : World κ υ, w.orchestrator.claimed = true → w.SamePhases (change w)) →
    (∀ w : World κ υ, w.orchestrator.claimed = true → Guest Q (next w)) →
    Guest Q (.act change next)
  | wait {trigger next} :
    (∀ w : World κ υ, w.orchestrator.claimed = true → Guest Q (next w)) →
    Guest Q (.wait trigger next)

namespace Guest

variable {P : α → Prop} {Q : β → Prop}

/-- One guest after another is a guest. -/
lemma bind {p : Flow κ υ α} {f : α → Flow κ υ β} (first : Guest P p)
    (rest : ∀ a, P a → Guest Q (f a)) : Guest Q (p.bind f) := by
  induction first with
  | done result => exact rest _ result
  | act keeps _ ih => exact .act keeps ih
  | wait _ ih => exact .wait ih

/-- A flow that leaves the control of the service alone is a guest. -/
lemma of_respects {p : Flow κ υ α} (respects : p.Respects World.SameControl) :
    Guest (fun _ => True) p := by
  induction respects with
  | done => exact .done trivial
  | act same _ ih => exact .act (fun w _ => .of_eq (same w).orchestrator) fun w _ => ih w
  | wait _ ih => exact .wait fun w _ => ih w

/-- A registration or a run that comes late changes nothing. -/
lemma of_visitor {γ : Type} {p : Flow κ υ γ} (visitor : Visitor p) : Guest (fun _ => True) p := by
  induction visitor with
  | done => exact .done trivial
  | own same _ ih => exact .act (fun w _ => .of_eq (same w)) fun w _ => ih w
  | wait _ ih => exact .wait fun w _ => ih w
  | register _ ih => exact .act (fun w _ => World.samePhases_registerIn _) fun w _ => ih _
  | run _ ih =>
    rw [run_eq]
    refine .act (fun w claimed => ?_) fun w claimed => ?_
    · rw [claim_claimed claimed]
      exact .of_eq rfl
    · dsimp only
      rw [claim_claimed claimed]
      exact ih _

/-- A call is a guest if its callbacks are visitors. -/
lemma flow {b : Behaviour κ υ} {ctx} {c : Call κ} (visitors : ∀ handle t, Visitor (b handle t)) :
    Guest (fun _ => True) (c.flow b ctx) :=
  Call.flow_cases (.done trivial) (fun handle => of_visitor (visitors handle ctx))
    (fun _ => of_respects Server.start_respects) fun _ => of_respects Server.stop_respects

/-- While a run has the orchestrator, a guest leaves its phase as it is. -/
lemma advance {p q : Flow κ υ α} {w w' : World κ υ} {φ : Phase} (guest : Guest P p)
    (here : w.IsIn φ) (step : p.Advance w q w') : Guest P q ∧ w'.IsIn φ := by
  cases guest with
  | done => cases step
  | act keeps rest =>
    cases step with
    | act => exact ⟨rest w here.claimed, here.of_same (keeps w here.claimed)⟩
  | wait rest =>
    cases step with
    | resume => exact ⟨rest w here.claimed, here⟩

end Guest

/-! ## Plans -/

/-- The phase in which a run makes a call. -/
def Call.phase : Call κ → Phase
  | start _ _ => .starting
  | rollback _ _ => .starting
  | startRunner _ _ => .starting
  | stopRunner _ _ => .stopping
  | stop _ _ => .stopping
  | hook _ _ => .stopping

/-- From a phase on, a plan publishes the next phases in order and makes every call in its phase.
If it ends in a phase with a result, then `Q` holds of them. -/
inductive Plan.Phased (Q : Phase → α → Prop) : Phase → Plan κ υ α → Prop where
  | done {φ a} :
    Q φ a →
    Phased Q φ (.done a)
  | own {φ change next} :
    (∀ w : World κ υ, (change w).orchestrator = w.orchestrator) →
    (∀ w, Phased Q φ (next w)) →
    Phased Q φ (.act change next)
  | publish {φ ψ next} :
    Phase.path ψ = Phase.path φ ++ [ψ] →
    (∀ w, Phased Q ψ (next w)) →
    Phased Q φ (.act (World.changeOrchestrator fun o => o.publish ψ) next)
  | wait {φ trigger next} :
    (∀ w, Phased Q φ (next w)) →
    Phased Q φ (.wait trigger next)
  | call {φ c ctx next} :
    c.phase = φ →
    (∀ outcome, Phased Q φ (next outcome)) →
    Phased Q φ (.call c ctx next)

/-- An error of a teardown. -/
structure LifecycleError.IsLate (e : LifecycleError) : Prop where
  notFatal : e.isFatalStartup = false
  notRollback : ∀ index cause, e ≠ .rollback index cause
  notRefusal : e ≠ .alreadyRun

/-- The errors of a startup: one that is fatal, and failures to undo what had been started. -/
structure Errors.IsStartup (es : Errors LifecycleError) : Prop where
  first : es.first.isFatalStartup = true
  others : ∀ e ∈ es.others, ∃ index cause, e = .rollback index cause

/-- How a startup ends. -/
def EndsStartup (φ : Phase) (r : RunOutcome) : Prop :=
  φ = .starting ∧ ∀ es, r = .error es → es.IsStartup

/-- How a run ends in a phase. -/
inductive Concludes : Phase → RunOutcome → Prop where
  | failed {es} :
    es.IsStartup →
    Concludes .failed (.error es)
  | stopped {r} :
    (∀ es, r = .error es → ∀ e ∈ es.toList, e.IsLate) →
    Concludes .stopped r

/-- A run ends in the phase `failed` if its first error is that of a start that is fatal. -/
lemma Concludes.failed_iff {φ r} (concludes : Concludes φ r) :
    φ = .failed ↔ ∃ es, r = .error es ∧ es.first.isFatalStartup = true := by
  cases concludes with
  | failed startup => exact ⟨fun _ => ⟨_, rfl, startup.first⟩, fun _ => rfl⟩
  | stopped late =>
    refine ⟨nofun, ?_⟩
    rintro ⟨es, rfl, fatal⟩
    rw [(late es rfl es.first List.mem_cons_self).notFatal] at fatal
    cases fatal

/-- A call of the phase `stopping` has the error of a teardown. -/
lemma Call.isLate_error {c : Call κ} {cause} (late : c.phase = .stopping) :
    (c.error cause).IsLate := by
  cases c with
  | start => cases late
  | rollback => cases late
  | startRunner => cases late
  | stopRunner => exact ⟨rfl, nofun, nofun⟩
  | stop => exact ⟨rfl, nofun, nofun⟩
  | hook => exact ⟨rfl, nofun, nofun⟩

namespace Plan.Phased

variable {P : Phase → α → Prop} {Q : Phase → β → Prop} {φ : Phase}

/-- One plan after another publishes the phases of both, in order. -/
lemma bind {p : Plan κ υ α} {f : α → Plan κ υ β} (first : Phased P φ p)
    (rest : ∀ ψ a, P ψ a → Phased Q ψ (f a)) : Phased Q φ (p >>= f) := by
  show Phased Q φ (Plan.bind p f)
  induction first with
  | done result => exact rest _ _ result
  | own same _ ih => exact .own same ih
  | publish next _ ih => exact .publish next ih
  | wait _ ih => exact .wait ih
  | call here _ ih => exact .call here ih

/-- A change that leaves the orchestrator alone publishes nothing. -/
lemma change_bind {f : World κ υ → World κ υ} {rest : Unit → Plan κ υ β}
    (same : ∀ w, (f w).orchestrator = w.orchestrator) (next : Phased Q φ (rest ())) :
    Phased Q φ (.ofFlow (Activity.change f) >>= rest) :=
  .own same fun _ => next

/-- A fresh token publishes nothing. -/
lemma freshToken_bind {rest : Token → Plan κ υ β} (next : ∀ t, Phased Q φ (rest t)) :
    Phased Q φ (.ofFlow Flow.freshToken >>= rest) :=
  .own (fun _ => rfl) fun _ => next _

/-- To publish the next phase leads to that phase. -/
lemma publish_bind {ψ : Phase} {rest : Unit → Plan κ υ β} (path : ψ.path = φ.path ++ [ψ])
    (next : Phased Q ψ (rest ())) : Phased Q φ (.ofFlow (Flow.publish ψ) >>= rest) :=
  .publish path fun _ => next

/-- A wait for the cancellation publishes nothing. -/
lemma cancelled_bind {t : Token} {rest : Unit → Plan κ υ β} (next : Phased Q φ (rest ())) :
    Phased Q φ (.ofFlow (Flow.cancelled t) >>= rest) := by
  refine .own (fun _ => rfl) fun w => ?_
  dsimp only
  split
  · exact next
  · exact .wait fun _ => next

/-- The note of a call leaves the orchestrator alone. -/
lemma orchestrator_note {c : Call κ} {outcome} {w : World κ υ} :
    (c.note outcome w).orchestrator = w.orchestrator := by
  cases outcome <;> rfl

/-- What holds of a phase and a result may be weakened. -/
lemma mono {P' : Phase → α → Prop} {p : Plan κ υ α} (phased : Phased P φ p)
    (weaker : ∀ ψ a, P ψ a → P' ψ a) : Phased P' φ p := by
  induction phased with
  | done result => exact .done (weaker _ _ result)
  | own same _ ih => exact .own same ih
  | publish next _ ih => exact .publish next ih
  | wait _ ih => exact .wait ih
  | call here _ ih => exact .call here ih

/-! ### Calls in order -/

variable {cs : List (Call κ)} {ctx : Token}

/-- An attempt makes its call in the phase of that call. -/
lemma attempt_bind {c : Call κ} {rest : Outcome → Plan κ υ β} (here : c.phase = φ)
    (next : ∀ outcome, Phased Q φ (rest outcome)) :
    Phased Q φ (attempt Call.note ctx c >>= rest) :=
  .call here fun outcome => .own (fun _ => orchestrator_note) fun _ => next outcome

/-- Calls of one phase up to the first failure stay in that phase, and only one of them fails. -/
lemma tryEach (here : ∀ c ∈ cs, c.phase = φ) :
    Phased (fun ψ failed => ψ = φ ∧ ∀ f ∈ failed, f.1 ∈ cs) φ (tryEach ctx cs : Plan κ υ _) := by
  induction cs with
  | nil => exact .done ⟨rfl, nofun⟩
  | cons c rest ih =>
    rw [List.forall_mem_cons] at here
    refine attempt_bind here.1 fun outcome => ?_
    cases outcome with
    | ok =>
      refine (ih here.2).mono fun ψ failed ⟨same, member⟩ => ⟨same, fun f found => ?_⟩
      exact List.mem_cons_of_mem c (member f found)
    | error cause =>
      refine .done ⟨rfl, fun f found => ?_⟩
      obtain rfl : (c, cause) = f := Option.mem_some_iff.1 found
      exact List.mem_cons_self

/-- Calls of one phase stay in that phase, and the failures are theirs. -/
lemma callEach (here : ∀ c ∈ cs, c.phase = φ) :
    Phased (fun ψ es => ψ = φ ∧ ∀ e ∈ es, ∃ c ∈ cs, ∃ cause, e = c.error cause) φ
      (callEach Call.note ctx cs : Plan κ υ _) := by
  induction cs with
  | nil => exact .done ⟨rfl, nofun⟩
  | cons c rest ih =>
    rw [List.forall_mem_cons] at here
    refine attempt_bind here.1 fun outcome => (ih here.2).bind fun ψ es ⟨same, errors⟩ => ?_
    refine .done ⟨same, fun e member => ?_⟩
    rcases List.mem_append.1 member with own | others
    · cases outcome with
      | ok => cases own
      | error cause => exact ⟨c, List.mem_cons_self, cause, List.mem_singleton.1 own⟩
    · obtain ⟨c', called, cause, rfl⟩ := errors e others
      exact ⟨c', List.mem_cons_of_mem c called, cause, rfl⟩

/-! ### Runs -/

variable {parts : Orchestrator κ}

/-- A rollback stays in the phase `starting`, and its failures are those of stops of components. -/
lemma rollback {stops : List (Callback κ)} :
    Phased (fun ψ es => ψ = .starting ∧ ∀ e ∈ es, ∃ index cause, e = .rollback index cause)
      .starting (rollback stops : Plan κ υ _) := by
  refine freshToken_bind fun t => (callEach fun c member => ?_).mono fun ψ es => ?_
  · obtain ⟨i, _, rfl⟩ := List.mem_mapIdx.1 (List.mem_reverse.1 member)
    rfl
  · rintro ⟨same, errors⟩
    refine ⟨same, fun e member => ?_⟩
    obtain ⟨c, called, cause, rfl⟩ := errors e member
    obtain ⟨i, _, rfl⟩ := List.mem_mapIdx.1 (List.mem_reverse.1 called)
    exact ⟨_, cause, rfl⟩

/-- A start with rollback stays in the phase `starting`, and ends as a startup does. -/
lemma startWithRollback {starts stops : List (Callback κ)} :
    Phased EndsStartup .starting (startWithRollback ctx starts stops : Plan κ υ _) := by
  have calls : ∀ c ∈ starts.mapIdx Call.start, c.phase = .starting := by
    intro c member
    obtain ⟨i, _, rfl⟩ := List.mem_mapIdx.1 member
    rfl
  refine (tryEach calls).bind ?_
  rintro ψ failed ⟨rfl, member⟩
  cases failed with
  | none => exact change_bind (fun _ => rfl) (.done ⟨rfl, nofun⟩)
  | some f =>
    refine rollback.bind ?_
    rintro ψ es ⟨rfl, errors⟩
    obtain ⟨i, _, start⟩ := List.mem_mapIdx.1 (member f rfl)
    refine .done ⟨rfl, fun es' same => ?_⟩
    cases same
    refine ⟨?_, errors⟩
    rw [← start]
    rfl

/-- The start of runners stays in the phase `starting`, and ends as a startup does. -/
lemma startRunners {runners : List (Runner κ)} :
    Phased EndsStartup .starting (startRunners ctx runners : Plan κ υ _) := by
  have calls : ∀ c ∈ runners.mapIdx Call.startRunner, c.phase = .starting := by
    intro c member
    obtain ⟨i, _, rfl⟩ := List.mem_mapIdx.1 member
    rfl
  refine (tryEach calls).bind ?_
  rintro ψ failed ⟨rfl, member⟩
  cases failed with
  | none => exact .done ⟨rfl, nofun⟩
  | some f =>
    obtain ⟨i, _, start⟩ := List.mem_mapIdx.1 (member f rfl)
    refine .done ⟨rfl, fun es' same => ?_⟩
    cases same
    refine ⟨?_, nofun⟩
    rw [← start]
    rfl

/-- The start of all parts stays in the phase `starting`, and ends as a startup does. -/
lemma startParts : Phased EndsStartup .starting (startParts ctx parts : Plan κ υ _) := by
  refine startWithRollback.bind ?_
  rintro ψ started ⟨rfl, errors⟩
  cases started with
  | error es => exact .done ⟨rfl, errors⟩
  | ok => exact startRunners

/-- A teardown makes its calls in the phase `stopping`. -/
lemma phase_teardownCalls : ∀ c ∈ teardownCalls parts, c.phase = .stopping := by
  intro c member
  rcases mem_teardownCalls.1 member with ⟨i, _, -, rfl⟩ | ⟨i, _, -, rfl⟩ | ⟨i, _, -, rfl⟩
  · rfl
  · rfl
  · rfl

/-- A teardown stays in the phase `stopping`, and its errors are those of a teardown. -/
lemma teardown :
    Phased (fun ψ r => ψ = .stopping ∧ ∀ es, r = .error es → ∀ e ∈ es.toList, e.IsLate) .stopping
      (teardown parts : Plan κ υ _) := by
  refine freshToken_bind fun t => (callEach phase_teardownCalls).bind ?_
  rintro ψ es ⟨rfl, errors⟩
  refine change_bind (fun _ => rfl) (.done ⟨rfl, fun es' same e member => ?_⟩)
  have listed : e ∈ es := by
    cases es with
    | nil => cases same
    | cons first others =>
      cases same
      exact member
  obtain ⟨c, called, cause, rfl⟩ := errors e listed
  exact Call.isLate_error (phase_teardownCalls c called)

/-- A run that has the orchestrator goes through the phases, and ends in one as it should. -/
lemma runParts : Phased Concludes .configuring (runParts ctx parts : Plan κ υ _) := by
  refine publish_bind rfl (startParts.bind ?_)
  rintro ψ started ⟨rfl, errors⟩
  cases started with
  | error es => exact publish_bind rfl (.done (.failed (errors es rfl)))
  | ok =>
    refine change_bind (fun _ => rfl) (publish_bind rfl (cancelled_bind (publish_bind rfl ?_)))
    refine teardown.bind ?_
    rintro ψ result ⟨rfl, errors⟩
    exact publish_bind rfl (.done (.stopped errors))

end Plan.Phased

/-! ## Systems -/

namespace Performance

/-- A run that has not begun. -/
def IsIdle (P : Performance κ υ RunOutcome) : Prop :=
  ∃ ctx, P = .plan (run ctx)

/-- A run that was refused. -/
def IsRefused (P : Performance κ υ RunOutcome) : Prop :=
  P = .plan (.done (.error (.single .alreadyRun)))

/-- A run that has come to a phase: what remains of it, or the part that it calls, keeps to it. -/
inductive IsAt (φ : Phase) : Performance κ υ RunOutcome → Prop where
  | plan {p} :
    Plan.Phased Concludes φ p →
    IsAt φ (.plan p)
  | part {c rest} :
    c.phase = φ →
    Guest (Plan.Phased Concludes φ) rest →
    IsAt φ (.part c rest)

variable {b : Behaviour κ υ} {P Q : Performance κ υ RunOutcome} {w w' : World κ υ} {φ : Phase}

/-- A run that begins or ends a call stays in its phase. -/
lemma IsAt.turn (visitors : ∀ handle t, Visitor (b handle t)) (here : P.IsAt φ)
    (turn : P.Turn b Q) : Q.IsAt φ := by
  cases turn with
  | begins =>
    cases here with
    | plan phased =>
      cases phased with
      | call own next =>
        exact .part own ((Guest.flow visitors).bind fun outcome _ => .done (next outcome))
  | beginsWithin =>
    cases here with
    | plan phased => cases phased
  | ends =>
    cases here with
    | part _ guest =>
      cases guest with
      | done phased => exact .plan phased

/-- A run publishes the next phase, or stays where it is. -/
lemma IsAt.step (here : P.IsAt φ) (world : w.IsIn φ) (step : P.Step w Q w') :
    ∃ ψ, Q.IsAt ψ ∧ w'.IsIn ψ := by
  cases step with
  | act =>
    cases here with
    | plan phased =>
      cases phased with
      | own same next => exact ⟨φ, .plan (next w), world.of_same (.of_eq (same w))⟩
      | publish path next => exact ⟨_, .plan (next w), world.publish path⟩
  | resume _ =>
    cases here with
    | plan phased =>
      cases phased with
      | wait next => exact ⟨φ, .plan (next w), world⟩
  | part step =>
    cases here with
    | part own guest =>
      obtain ⟨guest, world⟩ := guest.advance world step
      exact ⟨φ, .part own guest, world⟩

/-- A run that has not begun makes no call. -/
lemma IsIdle.turn (idle : P.IsIdle) (turn : P.Turn b Q) : False := by
  obtain ⟨ctx, rfl⟩ := idle
  rw [run_eq] at turn
  cases turn

/-- A run begins as it asks for the orchestrator: it is refused, or it has the parts to run. -/
lemma IsIdle.step (idle : P.IsIdle) (step : P.Step w Q w') :
    w' = (claim w).2 ∧
      ((claim w).1 = none ∧ Q.IsRefused ∨
        ∃ ctx parts, (claim w).1 = some parts ∧ Q = .plan (runParts ctx parts)) := by
  obtain ⟨ctx, rfl⟩ := idle
  rw [run_eq] at step
  cases step with
  | act =>
    refine ⟨rfl, ?_⟩
    dsimp only
    cases got : (claim w).1 with
    | none => exact .inl ⟨rfl, rfl⟩
    | some parts => exact .inr ⟨ctx, parts, rfl, rfl⟩

/-- A run that was refused makes no call. -/
lemma IsRefused.turn (refused : P.IsRefused) (turn : P.Turn b Q) : False := by
  obtain rfl := refused
  cases turn

/-- A run that was refused takes no step. -/
lemma IsRefused.step (refused : P.IsRefused) (step : P.Step w Q w') : False := by
  obtain rfl := refused
  cases step

end Performance

/-- The runs of an orchestrator with the world around it. -/
structure System (κ υ : Type) where
  runs : List (Performance κ υ RunOutcome)
  world : World κ υ

namespace System

/-- Somebody calls for a run or registers a part, something happens elsewhere, or the run with this
number goes on. -/
inductive Step (b : Behaviour κ υ) (S : System κ υ) : Option Nat → System κ υ → Prop where
  | call {ctx} :
    Step b S none ⟨S.runs ++ [.plan (run ctx)], S.world⟩
  | register {r} :
    Step b S none ⟨S.runs, (registerIn r S.world).2⟩
  | elsewhere {w} :
    w.orchestrator = S.world.orchestrator →
    Step b S none ⟨S.runs, w⟩
  | turn {i P Q} :
    S.runs[i]? = some P →
    P.Turn b Q →
    Step b S (some i) ⟨S.runs.set i Q, S.world⟩
  | go {i P Q w} :
    S.runs[i]? = some P →
    P.Step S.world Q w →
    Step b S (some i) ⟨S.runs.set i Q, w⟩

/-- Any number of steps. -/
inductive Reaches (b : Behaviour κ υ) (S : System κ υ) : System κ υ → Prop where
  | refl :
    Reaches b S S
  | tail {T U who} :
    Reaches b S T →
    T.Step b who U →
    Reaches b S U

/-- The phases published so far. -/
def published (S : System κ υ) : List Phase :=
  S.world.orchestrator.published

/-- No run has begun. -/
structure IsWaiting (S : System κ υ) : Prop where
  unclaimed : S.world.orchestrator.claimed = false
  published : S.published = [.configuring]
  idle : ∀ P ∈ S.runs, P.IsIdle

/-- The run with number `i` has the orchestrator and has come to a phase; the other ones have not
begun, or were refused. -/
structure IsLed (i : Nat) (first : Performance κ υ RunOutcome) (φ : Phase) (S : System κ υ) :
    Prop where
  here : S.runs[i]? = some first
  first : first.IsAt φ
  world : S.world.IsIn φ
  others : ∀ j P, j ≠ i → S.runs[j]? = some P → P.IsIdle ∨ P.IsRefused

variable {b : Behaviour κ υ} {S T : System κ υ} {who : Option Nat} {i : Nat} {φ : Phase}
  {first : Performance κ υ RunOutcome}

/-- The first run that goes on has the orchestrator. -/
lemma IsWaiting.step (waiting : S.IsWaiting) (step : S.Step b who T) :
    T.published = S.published ∧ (T.IsWaiting ∨ ∃ i first, T.IsLed i first .configuring) := by
  cases step with
  | call =>
    refine ⟨rfl, .inl ⟨waiting.unclaimed, waiting.published, fun P member => ?_⟩⟩
    rcases List.mem_append.1 member with old | new
    · exact waiting.idle P old
    · exact ⟨_, List.mem_singleton.1 new⟩
  | @register r =>
    have same := World.samePhases_registerIn (w := S.world) r
    refine ⟨same.published, .inl ⟨?_, ?_, waiting.idle⟩⟩
    · exact same.claimed.trans waiting.unclaimed
    · exact same.published.trans waiting.published
  | elsewhere same =>
    have same : S.world.SamePhases _ := .of_eq same
    refine ⟨same.published, .inl ⟨?_, ?_, waiting.idle⟩⟩
    · exact same.claimed.trans waiting.unclaimed
    · exact same.published.trans waiting.published
  | turn here turn => exact ((waiting.idle _ (List.mem_of_getElem? here)).turn turn).elim
  | @go i P Q w here step =>
    have idle := waiting.idle P (List.mem_of_getElem? here)
    obtain ⟨rfl, ⟨refused, -⟩ | ⟨ctx, parts, -, rfl⟩⟩ := idle.step step
    · rw [claim_unclaimed waiting.unclaimed] at refused
      cases refused
    · rw [claim_unclaimed waiting.unclaimed]
      refine ⟨rfl, .inr ⟨i, .plan (runParts ctx parts), ?_, .plan .runParts, ?_, ?_⟩⟩
      · rw [List.getElem?_set_self (List.getElem?_eq_some_iff.1 here).1]
      · exact ⟨rfl, waiting.published⟩
      · intro j P other place
        rw [List.getElem?_set_ne other.symm] at place
        exact .inl (waiting.idle P (List.mem_of_getElem? place))

/-- The run that leads goes on leading while nobody publishes anything. -/
lemma IsLed.of_same {w : World κ υ} (led : S.IsLed i first φ) (same : S.world.SamePhases w) :
    IsLed i first φ ⟨S.runs, w⟩ :=
  ⟨led.here, led.first, led.world.of_same same, led.others⟩

/-- The run that has the orchestrator goes on. -/
lemma IsLed.goOn {w : World κ υ} {ψ : Phase} {next : Performance κ υ RunOutcome}
    (led : S.IsLed i first φ) (here : next.IsAt ψ) (world : w.IsIn ψ) :
    IsLed i next ψ ⟨S.runs.set i next, w⟩ := by
  refine ⟨?_, here, world, fun j P other place => ?_⟩
  · rw [List.getElem?_set_self (List.getElem?_eq_some_iff.1 led.here).1]
  · rw [List.getElem?_set_ne other.symm] at place
    exact led.others j P other place

/-- A run that comes late is refused. -/
lemma IsLed.goOn_other {w : World κ υ} {j : Nat} {P Q : Performance κ υ RunOutcome}
    (led : S.IsLed i first φ) (other : j ≠ i) (place : S.runs[j]? = some P)
    (step : P.Step S.world Q w) : w = S.world ∧ IsLed i first φ ⟨S.runs.set j Q, w⟩ := by
  obtain idle | refused := led.others j P other place
  · obtain ⟨rfl, got⟩ := idle.step step
    rw [claim_claimed led.world.claimed] at got ⊢
    obtain ⟨-, refused⟩ | ⟨ctx, parts, got, -⟩ := got
    · refine ⟨rfl, ?_, led.first, led.world, fun k R other' place' => ?_⟩
      · rw [List.getElem?_set_ne other]
        exact led.here
      · by_cases same : j = k
        · subst same
          rw [List.getElem?_set_self (List.getElem?_eq_some_iff.1 place).1] at place'
          cases place'
          exact .inr refused
        · rw [List.getElem?_set_ne same] at place'
          exact led.others k R other' place'
    · cases got
  · exact (refused.step step).elim

/-- The run that leads goes on leading whatever step is taken, and nobody else publishes a phase. -/
lemma IsLed.step (visitors : ∀ handle t, Visitor (b handle t)) (led : S.IsLed i first φ)
    (step : S.Step b who T) :
    (∃ next ψ, T.IsLed i next ψ) ∧ (T.published ≠ S.published → who = some i) := by
  cases step with
  -- a run that begins comes last, and is one of the others
  | call =>
    refine ⟨⟨first, φ, ?_, led.first, led.world, fun j P other place => ?_⟩, fun h => absurd rfl h⟩
    · rw [List.getElem?_append_left (List.getElem?_eq_some_iff.1 led.here).1]
      exact led.here
    · by_cases old : j < S.runs.length
      · rw [List.getElem?_append_left old] at place
        exact led.others j P other place
      · rw [List.getElem?_append_right (Nat.le_of_not_lt old)] at place
        exact .inl ⟨_, List.mem_singleton.1 (List.mem_of_getElem? place)⟩
  | @register r =>
    have same := World.samePhases_registerIn (w := S.world) r
    exact ⟨⟨first, φ, led.of_same same⟩, fun changed => absurd same.published changed⟩
  | elsewhere same =>
    have same : S.world.SamePhases _ := .of_eq same
    exact ⟨⟨first, φ, led.of_same same⟩, fun changed => absurd same.published changed⟩
  | @turn j P Q place turn =>
    refine ⟨?_, fun changed => absurd rfl changed⟩
    by_cases leader : j = i
    · subst leader
      cases led.here.symm.trans place
      exact ⟨Q, φ, led.goOn (led.first.turn visitors turn) led.world⟩
    · -- the others have not begun or were refused, and a turn of either is none
      obtain idle | refused := led.others j P leader place
      · exact (idle.turn turn).elim
      · exact (refused.turn turn).elim
  | @go j P Q w place step =>
    by_cases leader : j = i
    · subst leader
      cases led.here.symm.trans place
      obtain ⟨ψ, here, world⟩ := led.first.step led.world step
      exact ⟨⟨Q, ψ, led.goOn here world⟩, fun _ => rfl⟩
    · obtain ⟨rfl, led⟩ := led.goOn_other leader place step
      exact ⟨⟨first, φ, led⟩, fun changed => absurd rfl changed⟩

/-- No run has begun, or one run has the orchestrator. -/
lemma Reaches.waiting_or_led (visitors : ∀ handle t, Visitor (b handle t)) (start : S.IsWaiting)
    (reaches : S.Reaches b T) : T.IsWaiting ∨ ∃ i first φ, T.IsLed i first φ := by
  induction reaches with
  | refl => exact .inl start
  | tail _ step ih =>
    obtain waiting | ⟨i, first, φ, led⟩ := ih
    · obtain ⟨-, waiting | ⟨i, first, led⟩⟩ := waiting.step step
      · exact .inl waiting
      · exact .inr ⟨i, first, _, led⟩
    · obtain ⟨⟨next, ψ, led⟩, -⟩ := led.step visitors step
      exact .inr ⟨i, next, ψ, led⟩

/-- Whatever runs, registrations and callbacks do, an orchestrator publishes the phases of its first
run in order, and only this run publishes any. It makes every call in the phase of the call, and
when it has ended, the phase tells how: it has failed if and only if its first error is that of a
startup, after which only rollbacks have failed, and has otherwise stopped with errors of the
teardown alone. -/
theorem phases {w : World κ υ} (visitors : ∀ handle t, Visitor (b handle t))
    (unclaimed : w.orchestrator.claimed = false)
    (fresh : w.orchestrator.published = [.configuring]) (reaches : Reaches b ⟨[], w⟩ S) :
    (S.published <+: [.configuring, .starting, .failed] ∨
      S.published <+: [.configuring, .starting, .running, .stopping, .stopped]) ∧
    (S.IsWaiting ∧ (∀ who T, S.Step b who T → T.published = S.published) ∨
      ∃ i first, S.runs[i]? = some first ∧
        (∀ j P, j ≠ i → S.runs[j]? = some P → P.IsIdle ∨ P.IsRefused) ∧
        (∀ who T, S.Step b who T → T.published ≠ S.published → who = some i) ∧
        (∀ c rest, first = .part c rest → S.world.orchestrator.phase = c.phase) ∧
        (∀ r, first = .plan (.done r) → Concludes S.world.orchestrator.phase r ∧
          (S.world.orchestrator.phase = .failed ↔
            ∃ es, r = .error es ∧ es.first.isFatalStartup = true))) := by
  have start : IsWaiting ⟨[], w⟩ := ⟨unclaimed, fresh, nofun⟩
  obtain waiting | ⟨i, first, φ, led⟩ := reaches.waiting_or_led visitors start
  · refine ⟨?_, .inl ⟨waiting, fun who T step => (waiting.step step).1⟩⟩
    rw [waiting.published]
    exact Phase.configuring.path_prefix
  · constructor
    · rw [published, led.world.published]
      exact φ.path_prefix
    · rw [led.world.phase]
      refine .inr ⟨i, first, led.here, led.others, ?_, ?_, ?_⟩
      · intro who T step
        exact (led.step visitors step).2
      · rintro c rest rfl
        cases led.first with
        | part own _ => exact own.symm
      · rintro r rfl
        cases led.first with
        | plan phased =>
          cases phased with
          | done concludes => exact ⟨concludes, concludes.failed_iff⟩

/-- A component that does not start. -/
def refusing : Orchestrator Outcome where
  components := [⟨some (.error (.text "refused")), none⟩]

/-- Two runs of an orchestrator with this component, and a registration that comes late. -/
theorem phases_refusing :
    ∃ S : System Outcome Unit, Reaches prompt ⟨[], World.around refusing⟩ S ∧
      S.runs = [.plan (.done (.error (.single (.start 0 (.text "refused"))))),
        .plan (.done (.error (.single .alreadyRun)))] ∧
      S.published = [.configuring, .starting, .failed] ∧
      Concludes S.world.orchestrator.phase (.error (.single (.start 0 (.text "refused")))) ∧
      ∀ who T, S.Step prompt who T → T.published ≠ S.published → who = some 0 := by
  obtain ⟨S, reaches, runs, published⟩ : ∃ S : System Outcome Unit,
      Reaches prompt ⟨[], World.around refusing⟩ S ∧
      S.runs = [.plan (.done (.error (.single (.start 0 (.text "refused"))))),
        .plan (.done (.error (.single .alreadyRun)))] ∧
      S.published = [.configuring, .starting, .failed] := by
    have first : Reaches prompt ⟨[], World.around refusing⟩
        ⟨[.plan (run ⟨0⟩)], World.around refusing⟩ := .tail .refl .call
    have second : Reaches prompt ⟨[], World.around refusing⟩
        ⟨[.plan (run ⟨0⟩), .plan (run ⟨1⟩)], World.around refusing⟩ := first.tail .call
    have claims := (second.tail (.go (i := 0) rfl .act)).tail (.go (i := 1) rfl .act)
    have late := claims.tail (.register (r := .hook none))
    have starts := (late.tail (.go (i := 0) rfl .act)).tail (.turn (i := 0) rfl .begins)
    have fails := (starts.tail (.turn (i := 0) rfl .ends)).tail (.go (i := 0) rfl .act)
    have undoes := fails.tail (.go (i := 0) rfl .act)
    have ends := undoes.tail (.go (i := 0) rfl .act)
    exact ⟨_, ends, rfl, rfl⟩
  obtain ⟨-, waiting | ⟨i, first, here, others, alone, -, concludes⟩⟩ :=
    phases (fun _ _ => .done) rfl rfl reaches
  · obtain ⟨ctx, idle⟩ := waiting.1.idle _ (List.mem_of_getElem? (i := 0) (by rw [runs]; rfl))
    cases idle
  · have leader : i = 0 := by
      by_cases same : i = 0
      · exact same
      · obtain ⟨ctx, idle⟩ | refused := others 0 _ (Ne.symm same) (by rw [runs]; rfl)
        · cases idle
        · cases refused
    subst leader
    rw [runs] at here
    cases here
    exact ⟨S, reaches, runs, published, (concludes _ rfl).1, alone⟩

end System

end Supervision
