import Supervision.Proofs.Phases
import Supervision.Proofs.Teardown

/-!
# Runs and the time of their cancellation

When the token of a run is cancelled makes no difference to what the run does: it may be before the
run begins, between two calls or during one, or at any time after the startup. If the calls end in
the same way, two runs with the same parts make the same calls in the same order, publish the same
phases and report the same result (`CancelledRun.agree`). Nothing is skipped if the token is
cancelled early.

The runs may take place in different settings and with different callbacks: `choice` is all that
they have in common. As it knows of no token, it stands for callbacks that do not heed theirs.
-/

namespace Supervision
open Lifecycle

variable {κ υ υ' α : Type} {choice : Call κ → Outcome} {o : Orchestrator κ}

/-! ## Phases of executions -/

/-- While a run has the orchestrator, nobody else publishes its phases. -/
structure Setting.IsCalm (S : Setting (World κ υ)) : Prop where
  between : ∀ {v v'}, S.between v v' → v.orchestrator.claimed = true → v.SamePhases v'
  meanwhile : ∀ {v v'}, S.meanwhile v v' → v.orchestrator.claimed = true → v.SamePhases v'

/-- A guest leaves the phase of the run as it is, in a setting where nobody else publishes. -/
lemma Guest.runs {Q : α → Prop} {p : Flow κ υ α} {S : Setting (World κ υ)} {φ : Phase}
    {w u : World κ υ} {r : Option α} (guest : Guest Q p) (calm : S.IsCalm)
    (run : p.Runs S w r u) (here : w.IsIn φ) : u.IsIn φ := by
  induction run with
  | done => exact here
  | act move _ ih =>
    cases guest with
    | act keeps rest =>
      have stepped := here.of_same (keeps _ here.claimed)
      have moved := stepped.of_same (calm.between move stepped.claimed)
      exact ih (rest _ here.claimed) moved
  | resumed move _ _ ih =>
    cases guest with
    | wait rest =>
      have moved := here.of_same (calm.meanwhile move here.claimed)
      exact ih (rest _ moved.claimed) moved
  | waiting move _ => exact here.of_same (calm.meanwhile move here.claimed)

/-- An execution of a plan that ends has come to a phase in which its result is one to expect. -/
lemma Plan.Phased.runs {Q : Phase → α → Prop} {p : Plan κ υ α} {S : Setting (World κ υ)}
    {b : Behaviour κ υ} {φ : Phase} {w u : World κ υ} {course : Course κ υ} {r : Option α}
    (phased : Phased Q φ p) (calm : S.IsCalm) (visitors : ∀ handle t, Visitor (b handle t))
    (run : p.Runs S b w course r u) (here : w.IsIn φ) :
    ∃ ψ, u.IsIn ψ ∧ ∀ a, r = some a → Q ψ a := by
  -- the phase moves with the own steps; between them and in calls nobody else publishes one
  induction run generalizing φ with
  | done =>
    cases phased with
    | done result =>
      refine ⟨φ, here, ?_⟩
      intro a same
      cases same
      exact result
  | act move _ ih =>
    cases phased with
    | own same next =>
      have stepped := here.of_same (.of_eq (same _))
      have moved := stepped.of_same (calm.between move stepped.claimed)
      exact ih (next _) moved
    | publish path next =>
      have stepped := here.publish path
      have moved := stepped.of_same (calm.between move stepped.claimed)
      exact ih (next _) moved
  | resumed move _ _ ih =>
    cases phased with
    | wait next =>
      have moved := here.of_same (calm.meanwhile move here.claimed)
      exact ih (next _) moved
  | waiting move _ => exact ⟨φ, here.of_same (calm.meanwhile move here.claimed), nofun⟩
  | call made _ ih =>
    cases phased with
    | call _ next =>
      have after := (Guest.flow visitors).runs calm made here
      exact ih (next _) after
  | calling made => exact ⟨φ, (Guest.flow visitors).runs calm made here, nofun⟩
  | callWithin => cases phased
  | callingWithin => cases phased

/-- The result of a run tells in which phase it has ended. -/
lemma Concludes.unique {φ ψ : Phase} {r : RunOutcome} (here : Concludes φ r)
    (there : Concludes ψ r) : φ = ψ := by
  have failed : φ = .failed ↔ ψ = .failed := by
    rw [here.failed_iff, there.failed_iff]
  cases here with
  | failed => exact (failed.1 rfl).symm
  | stopped =>
    cases there with
    | failed => cases failed.2 rfl
    | stopped => rfl

/-! ## Runs that are cancelled -/

/-- An execution of a run of an orchestrator. Its calls end as `choice` says, and its token has been
cancelled at some time before the world in which it is looked at. -/
structure CancelledRun (υ : Type) (choice : Call κ → Outcome) (o : Orchestrator κ) where
  setting : Setting (World κ υ)
  behaviour : Behaviour κ υ
  ctx : Token
  start : World κ υ
  course : Course κ υ
  result : Option RunOutcome
  world : World κ υ
  exec : (run ctx).Runs setting behaviour start course result world
  orchestrator : start.orchestrator = o
  answered : course.Answered choice
  cancelled : world.isCancelled ctx = true
  calm : setting.IsCalm
  visitors : ∀ handle t, Visitor (behaviour handle t)

namespace CancelledRun

variable (R : CancelledRun υ choice o)

/-- The phases published up to the end of a run. -/
def published : List Phase :=
  R.world.orchestrator.published

/-- A run gets the orchestrator in its first step. -/
lemma exec_taken (unclaimed : o.claimed = false) :
    ∃ t rest, R.course = .own R.start :: rest ∧
      R.setting.between { R.start with orchestrator := o.taken } t ∧
      (runParts R.ctx o.taken).Runs R.setting R.behaviour t rest R.result R.world := by
  have free : R.start.orchestrator.claimed = false := by
    rw [R.orchestrator]
    exact unclaimed
  have exec := R.exec
  rw [run_eq] at exec
  generalize R.course = course at exec
  cases exec with
  | act move exec =>
    simp only [claim_unclaimed free, R.orchestrator] at move exec
    exact ⟨_, _, rfl, move, exec⟩

/-- What the parts of a run come down to is what the run calls, and its result. -/
lemma calls_of_makes {cs : List (Call κ)} {result : RunOutcome} (unclaimed : o.claimed = false)
    (makes : ∀ {ctx}, Plan.Makes choice (runParts ctx o.taken : Plan κ υ _) cs result) :
    R.course.calls = cs ∧ R.result = some result := by
  obtain ⟨t, rest, split, -, exec⟩ := R.exec_taken unclaimed
  have answered := R.answered
  rw [split, Course.answered_own] at answered
  rw [split, Course.calls_own]
  exact makes.runs exec answered

/-- A run that has started everything does not wait for ever, and stops everything. -/
lemma calls_of_started (unclaimed : o.claimed = false)
    (started : Succeed choice (startCalls o ++ runnerCalls o)) :
    R.course.calls = startCalls o ++ runnerCalls o ++ teardownCalls o ∧
      R.result = some (Errors.outcome (failures choice (teardownCalls o))) := by
  obtain ⟨t, rest, split, -, exec⟩ := R.exec_taken unclaimed
  have answered := R.answered
  rw [split, Course.answered_own] at answered
  have starts : Plan.Makes choice (startParts R.ctx o.taken : Plan κ υ _)
      (startCalls o ++ runnerCalls o) (.ok ()) := startParts_makes started
  rcases runParts_runs exec starts answered with
    ⟨-, live, -⟩ | ⟨up, v, t, down, rfl, calls, -, down'⟩
  · have cancelled := R.cancelled
    rw [live] at cancelled
    cases cancelled
  · rw [Course.answered_append, Course.answered_own] at answered
    obtain ⟨calls', result⟩ := comeDown_makes.runs down' answered.2
    have calls' : Course.calls down = teardownCalls o := calls'
    refine ⟨?_, result⟩
    rw [split, Course.calls_own, Course.calls_append, Course.calls_own, calls, calls']

/-- A run that has ended has come to the phase that its result tells. -/
lemma exists_phase (unclaimed : o.claimed = false) (fresh : o.published = [.configuring]) :
    ∃ φ : Phase, R.published = φ.path ∧ ∀ result, R.result = some result → Concludes φ result := by
  obtain ⟨t, rest, -, move, exec⟩ := R.exec_taken unclaimed
  have taken : World.IsIn { R.start with orchestrator := o.taken } .configuring := ⟨rfl, fresh⟩
  have moved := taken.of_same (R.calm.between move taken.claimed)
  obtain ⟨φ, here, concludes⟩ := Plan.Phased.runParts.runs R.calm R.visitors exec moved
  exact ⟨φ, here.published, concludes⟩

end CancelledRun

/-- A startup that fails makes calls that are certain from the beginning. -/
lemma exists_makes_of_failed {choice : Call κ → Outcome} {o : Orchestrator κ}
    (fails : ¬Succeed choice (startCalls o ++ runnerCalls o)) :
    ∃ cs es, ∀ {υ : Type} {ctx : Token},
      Plan.Makes choice (runParts ctx o.taken : Plan κ υ _) cs (.error es) := by
  rcases succeed_or_firstFailure choice (startCalls o) with components | ⟨k, cause, first⟩
  · rcases succeed_or_firstFailure choice (runnerCalls o) with runners | ⟨k, cause, first⟩
    · exact absurd (succeed_append.2 ⟨components, runners⟩) fails
    · obtain ⟨runner, place, -, -⟩ := first.part
      refine ⟨(startCalls o ++ (runnerCalls o).take (k + 1)),
        .single (.runnerStart runner.name cause), ?_⟩
      intro υ ctx
      have first : FirstFailure choice (runnerCalls o.taken) k cause := first
      have components : Succeed choice (startCalls o.taken) := components
      obtain ⟨runner', place', makes⟩ : ∃ r, o.taken.runners[k]? = some r ∧
          Plan.Makes choice (runParts ctx o.taken : Plan κ υ _)
            (startCalls o.taken ++ (runnerCalls o.taken).take (k + 1))
            (.error (.single (.runnerStart r.name cause))) :=
        runParts_stops_short components first
      cases place.symm.trans place'
      exact makes
  · have first : FirstFailure choice (startCalls o.taken) k cause := first
    exact ⟨_, _, runParts_rolls_back first⟩

namespace CancelledRun

/-- The calls and the result depend on the parts and on how the calls end, and on nothing else. -/
lemma exists_calls (choice : Call κ → Outcome) {o : Orchestrator κ}
    (unclaimed : o.claimed = false) :
    ∃ cs result, ∀ {υ : Type} (R : CancelledRun υ choice o),
      R.course.calls = cs ∧ R.result = some result := by
  by_cases started : Succeed choice (startCalls o ++ runnerCalls o)
  · exact ⟨_, _, fun R => R.calls_of_started unclaimed started⟩
  · obtain ⟨cs, es, makes⟩ := exists_makes_of_failed started
    exact ⟨cs, .error es, fun R => R.calls_of_makes unclaimed makes⟩

/-- Two runs with the same parts, of which the calls end in the same way, come to an end with the
same calls, phases and result, whenever their tokens are cancelled. If everything starts, everything
is stopped. -/
theorem agree (first : CancelledRun υ choice o) (second : CancelledRun υ' choice o)
    (unclaimed : o.claimed = false) (fresh : o.published = [.configuring]) :
    ∃ result, first.result = some result ∧ second.result = some result ∧
      first.course.calls = second.course.calls ∧ first.published = second.published ∧
      (Succeed choice (startCalls o ++ runnerCalls o) →
        first.course.calls = startCalls o ++ runnerCalls o ++ teardownCalls o) := by
  obtain ⟨cs, result, certain⟩ := exists_calls choice unclaimed
  obtain ⟨calls, ended⟩ := certain first
  obtain ⟨calls', ended'⟩ := certain second
  obtain ⟨φ, published, concludes⟩ := first.exists_phase unclaimed fresh
  obtain ⟨ψ, published', concludes'⟩ := second.exists_phase unclaimed fresh
  have same : φ = ψ := (concludes result ended).unique (concludes' result ended')
  refine ⟨result, ended, ended', ?_, ?_, ?_⟩
  · rw [calls, calls']
  · rw [published, published', same]
  · intro started
    exact (first.calls_of_started unclaimed started).1

/-- All that happens besides is that the token is cancelled, at any time. -/
def atAnyTime (ctx : Token) : Setting (World κ υ) where
  between v v' := v' = v ∨ v' = v.cancel ctx
  meanwhile v v' := v' = v ∨ v' = v.cancel ctx

/-- To cancel a token publishes nothing. -/
lemma isCalm_atAnyTime {ctx : Token} : (atAnyTime ctx : Setting (World κ υ)).IsCalm := by
  have same {v v' : World κ υ} (move : v' = v ∨ v' = v.cancel ctx) : v.SamePhases v' := by
    rcases move with rfl | rfl
    · exact .of_eq rfl
    · exact .of_eq rfl
  exact ⟨fun move _ => same move, fun move _ => same move⟩

/-- The token is cancelled as soon as the world is ripe for it, or else during the first wait. -/
def cancellingOnce (ctx : Token) (ripe : World κ υ → Bool) :
    Strategy (atAnyTime ctx : Setting (World κ υ)) where
  after w := if ripe w then w.cancel ctx else w
  during _ w := w.cancel ctx
  between w := by
    split
    · exact .inr rfl
    · exact .inl rfl
  meanwhile _ _ := .inr rfl

/-- Two runs with a component that does not stop and a hook that fails. The first one is cancelled
while it waits, the second one between the start of the component and that of the runner. -/
theorem agree_lateFailures :
    ∃ first second : CancelledRun Unit Call.promptly lateFailures,
      first.start.isCancelled first.ctx = false ∧ second.start.isCancelled second.ctx = false ∧
      lateFailures.claimed = false ∧ lateFailures.published = [.configuring] ∧
      first.course.calls ≠ [] ∧ first.course.calls = second.course.calls ∧
      first.published = second.published ∧
      ∃ result, first.result = some result ∧ second.result = some result := by
  have exec : (run ⟨0⟩).Runs (atAnyTime ⟨0⟩) prompt (World.around lateFailures) _
      (some (.error ⟨.stop 0 (.text "stuck"), [.shutdownHook 0 (.text "late")]⟩)) _ :=
    Plan.follow_runs (cancellingOnce ⟨0⟩ fun _ => false) rfl
  have exec' : (run ⟨0⟩).Runs (atAnyTime ⟨0⟩) prompt (World.around lateFailures) _
      (some (.error ⟨.stop 0 (.text "stuck"), [.shutdownHook 0 (.text "late")]⟩)) _ :=
    -- the start of the component leaves the first sample
    Plan.follow_runs (cancellingOnce ⟨0⟩ fun w => !w.samples.isEmpty) rfl
  let first : CancelledRun Unit Call.promptly lateFailures :=
    ⟨_, _, _, _, _, _, _, exec, rfl, Course.answered_of_outcomes rfl, rfl, isCalm_atAnyTime,
      fun _ _ => .done⟩
  let second : CancelledRun Unit Call.promptly lateFailures :=
    ⟨_, _, _, _, _, _, _, exec', rfl, Course.answered_of_outcomes rfl, rfl, isCalm_atAnyTime,
      fun _ _ => .done⟩
  have started : Succeed Call.promptly (startCalls lateFailures ++ runnerCalls lateFailures) := by
    simp [Succeed, startCalls, runnerCalls, lateFailures, Orchestrator.starts, Call.promptly,
      Call.promptly?]
  obtain ⟨result, ended, ended', calls, published, all⟩ := agree first second rfl rfl
  refine ⟨first, second, rfl, rfl, rfl, rfl, ?_, calls, published, result, ended, ended'⟩
  rw [all started]
  intro same
  cases same

end CancelledRun

end Supervision
