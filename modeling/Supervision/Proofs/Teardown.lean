import Supervision.Proofs.Startup
import Supervision.Proofs.Strategies

/-!
# Teardown

What a run calls, and what it reports, if everything starts: nothing is stopped before the token is
cancelled, and everything is stopped after that, whatever fails. `run_teardown` says it for the
executions of a run.
-/

namespace Supervision.Lifecycle
open Plan

variable {κ υ : Type} {choice : Call κ → Outcome} {parts : Orchestrator κ} {ctx : Token}

/-- What a run does once its token is cancelled. -/
def comeDown (parts : Orchestrator κ) : Plan κ υ RunOutcome := do
  .ofFlow (Flow.publish .stopping)
  let result ← teardown parts
  .ofFlow (Flow.publish .stopped)
  return result

/-- All stops and hooks are called, and all of their failures are reported. -/
lemma teardown_makes :
    Makes choice (teardown parts : Plan κ υ _) (teardownCalls parts)
      (Errors.outcome (failures choice (teardownCalls parts))) :=
  Makes.step fun _ => callEach_makes.bind_nil (Makes.change .done)

/-- To come down is to make all calls of the teardown, and to report all failures. -/
lemma comeDown_makes :
    Makes choice (comeDown parts : Plan κ υ _) (teardownCalls parts)
      (Errors.outcome (failures choice (teardownCalls parts))) :=
  Makes.change (teardown_makes.bind_nil (Makes.change .done))

/-- If the parts start, the run waits for its token, and then comes down. -/
lemma runParts_runs_on {S : Setting (World κ υ)} {b : Behaviour κ υ} {w course r u cs}
    (exec : (runParts ctx parts).Runs S b w course r u)
    (started : Makes choice (startParts ctx parts : Plan κ υ _) cs (.ok ()))
    (answered : course.AnsweredOn choice cs) :
    (r = none ∧ u.isCancelled ctx = false ∧ course.calls = cs) ∨
      ∃ up wc t down, course = up ++ .own wc :: down ∧ Course.calls up = cs ∧
        wc.isCancelled ctx = true ∧ (comeDown parts).Runs S b t down r u := by
  obtain ⟨t₁, rest₁, rfl, -, exec₁⟩ := exec.of_change
  rw [Course.answeredOn_own] at answered
  obtain ⟨t₂, up, rest₂, rfl, calls, exec₂⟩ := started.of_bind_on exec₁ answered
  obtain ⟨t₃, rest₃, rfl, -, exec₃⟩ := exec₂.of_change
  obtain ⟨t₄, rest₄, rfl, -, exec₄⟩ := exec₃.of_change
  have waiting : (ofFlow (Flow.cancelled ctx) >>= fun _ => comeDown parts).Runs S b t₄ rest₄ r u :=
    exec₄
  obtain ⟨rfl, waits, rfl⟩ | ⟨idle, wc, t₅, down, rfl, quiet, cancelled, falling⟩ :=
    waiting.of_awaitLook
  · left
    rw [Trigger.ends_whenever] at waits
    exact ⟨rfl, waits, by simp [calls]⟩
  · right
    rw [Trigger.ends_whenever] at cancelled
    refine ⟨.own w :: up ++ .own t₂ :: .own t₃ :: idle, wc, t₅, down, ?_, ?_, cancelled, falling⟩
    · simp
    · simp [calls, quiet]

/-- A run that has started comes down once its token is cancelled, or is still waiting for that. -/
lemma runParts_runs {S : Setting (World κ υ)} {b : Behaviour κ υ} {w course r u cs}
    (exec : (runParts ctx parts).Runs S b w course r u)
    (started : Makes choice (startParts ctx parts : Plan κ υ _) cs (.ok ()))
    (answered : course.Answered choice) :
    (r = none ∧ u.isCancelled ctx = false ∧ course.calls = cs) ∨
      ∃ up wc t down, course = up ++ .own wc :: down ∧ Course.calls up = cs ∧
        wc.isCancelled ctx = true ∧ (comeDown parts).Runs S b t down r u :=
  runParts_runs_on exec started (answered.on cs)

/-- What a run calls and what it reports if everything starts. Before its token is cancelled, it
calls nothing else. After that, runners and components are stopped, the last one first, and then the
hooks are called, one after the other; all failures are reported. -/
theorem run_teardown {S : Setting (World κ υ)} {b : Behaviour κ υ} {w course r u}
    (exec : (run ctx).Runs S b w course r u) (unclaimed : w.orchestrator.claimed = false)
    (answered : course.Answered choice)
    (started : Succeed choice (startCalls w.orchestrator ++ runnerCalls w.orchestrator)) :
    (r = none ∧ u.isCancelled ctx = false ∧
      course.calls = startCalls w.orchestrator ++ runnerCalls w.orchestrator) ∨
    ∃ up wc down, course = up ++ .own wc :: down ∧
      Course.calls up = startCalls w.orchestrator ++ runnerCalls w.orchestrator ∧
      wc.isCancelled ctx = true ∧
      Course.events down = Course.inTurn choice (teardownCalls w.orchestrator) ∧
      r = some (Errors.outcome (failures choice (teardownCalls w.orchestrator))) := by
  obtain ⟨t, rest, rfl, exec'⟩ := run_unclaimed exec unclaimed
  rw [Course.answered_own] at answered
  have starts : Makes choice (startParts ctx w.orchestrator.taken : Plan κ υ _) _ _ :=
    startParts_makes started
  -- after the startup the run waits for its token, and makes no call until it is cancelled
  obtain waiting | ⟨up, wc, t', down, rfl, calls, cancelled, falling⟩ :=
    runParts_runs exec' starts answered
  · exact .inl waiting
  · rw [Course.answered_append, Course.answered_own] at answered
    obtain ⟨calls', result⟩ := comeDown_makes.runs falling answered.2
    refine .inr ⟨.own w :: up, wc, down, rfl, calls, cancelled, ?_, result⟩
    rw [Course.events_of_answered answered.2, calls']
    rfl

/-- A component that does not stop, a runner, and a hook that fails. -/
def lateFailures : Orchestrator Outcome where
  components := [⟨some (.ok ()), some (.error (.text "stuck"))⟩]
  runners := [.custom "worker" none none]
  hooks := [some (.error (.text "late"))]

/-- A run whose token is cancelled from the beginning. -/
theorem run_teardown_lateFailures :
    ∃ up wc down u, (run ⟨0⟩).Runs World.clockwork.setting prompt
        ((World.around lateFailures).cancel ⟨0⟩) (up ++ .own wc :: down)
        (some (.error ⟨.stop 0 (.text "stuck"), [.shutdownHook 0 (.text "late")]⟩)) u ∧
      Course.calls up = startCalls lateFailures ++ runnerCalls lateFailures ∧
      wc.isCancelled ⟨0⟩ = true ∧
      Course.events down = Course.inTurn Call.promptly
        [.stopRunner 0 (.custom "worker" none none), .stop 0 (some (.error (.text "stuck"))),
          .hook 0 (some (.error (.text "late")))] := by
  obtain ⟨course, u, exec, answered⟩ : ∃ course u, (run ⟨0⟩).Runs World.clockwork.setting prompt
      ((World.around lateFailures).cancel ⟨0⟩) course
      (some (.error ⟨.stop 0 (.text "stuck"), [.shutdownHook 0 (.text "late")]⟩)) u ∧
      course.Answered Call.promptly :=
    Plan.follow_answered (World.clockwork.leap 0) rfl rfl
  have started : Succeed Call.promptly (startCalls lateFailures ++ runnerCalls lateFailures) := by
    simp [Succeed, startCalls, runnerCalls, lateFailures, Orchestrator.starts, Call.promptly,
      Call.promptly?]
  obtain ⟨stuck, -⟩ | ⟨up, wc, down, split, calls, cancelled, events, -⟩ :=
    run_teardown exec rfl answered started
  · cases stuck
  · rw [split] at exec
    exact ⟨up, wc, down, _, exec, calls, cancelled, events⟩

end Supervision.Lifecycle
