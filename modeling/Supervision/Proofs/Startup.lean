import Supervision.Lifecycle.Run
import Supervision.Proofs.Calls

/-!
# Startup

What a run calls, and what it reports, if something does not start. `run_startup` says it for the
executions of a run; the lemmas before it say it for its parts, in the order of the definitions.
-/

namespace Supervision

/-- An orchestrator in the hands of a run. -/
def Orchestrator.taken {κ : Type} (o : Orchestrator κ) : Orchestrator κ :=
  { o with claimed := true }

namespace Lifecycle
open Plan

variable {κ υ : Type} {choice : Call κ → Outcome} {parts : Orchestrator κ} {ctx : Token}

/-- The calls that start the components. -/
def startCalls (parts : Orchestrator κ) : List (Call κ) :=
  parts.starts.mapIdx Call.start

/-- The calls that undo the start of the first `k` components, the last one first. -/
def rollbackCalls (parts : Orchestrator κ) (k : Nat) : List (Call κ) :=
  ((parts.stops.take k).mapIdx Call.rollback).reverse

/-- The calls that start the runners. -/
def runnerCalls (parts : Orchestrator κ) : List (Call κ) :=
  parts.runners.mapIdx Call.startRunner

section
variable {c : Call κ}

/-- The calls of the parts of one kind. -/
lemma mem_calls {π : Type} {f : Nat → π → Call κ} {xs : List π} :
    c ∈ xs.mapIdx f ↔ ∃ i x, xs[i]? = some x ∧ c = f i x := by
  rw [List.mem_mapIdx]
  constructor
  · rintro ⟨i, inside, rfl⟩
    exact ⟨i, _, List.getElem?_eq_getElem inside, rfl⟩
  · rintro ⟨i, x, here, rfl⟩
    obtain ⟨inside, rfl⟩ := List.getElem?_eq_some_iff.1 here
    exact ⟨i, inside, rfl⟩

/-- Every start function is called under its own index. -/
lemma mem_startCalls :
    c ∈ startCalls parts ↔ ∃ i callback, parts.starts[i]? = some callback ∧ c = .start i callback :=
  mem_calls

/-- The stop functions before place `k` are called under their own indices. -/
lemma mem_rollbackCalls {k : Nat} :
    c ∈ rollbackCalls parts k ↔
      ∃ i callback, (parts.stops.take k)[i]? = some callback ∧ c = .rollback i callback :=
  List.mem_reverse.trans mem_calls

/-- Every runner is started under its own index. -/
lemma mem_runnerCalls :
    c ∈ runnerCalls parts ↔
      ∃ i runner, parts.runners[i]? = some runner ∧ c = .startRunner i runner :=
  mem_calls

/-- Every runner and every component is stopped, and every hook called, under its own index. -/
lemma mem_teardownCalls :
    c ∈ teardownCalls parts ↔
      (∃ i runner, parts.runners[i]? = some runner ∧ c = .stopRunner i runner) ∨
      (∃ i callback, parts.stops[i]? = some callback ∧ c = .stop i callback) ∨
      ∃ i callback, parts.hooks[i]? = some callback ∧ c = .hook i callback := by
  rw [teardownCalls, List.mem_append, List.mem_append, List.mem_reverse, List.mem_reverse,
    mem_calls, mem_calls, mem_calls, or_assoc]

end

/-! ## Components -/

/-- A rollback calls every stop function, the last one first, whatever fails. -/
lemma rollback_makes {stops : List (Callback κ)} :
    Makes choice (rollback stops : Plan κ υ _) (stops.mapIdx Call.rollback).reverse
      (failures choice (stops.mapIdx Call.rollback).reverse) :=
  Makes.step fun _ => callEach_makes

/-- If all components start, then their starts are all that is called. -/
lemma startWithRollback_makes {starts stops : List (Callback κ)}
    (succeed : Succeed choice (starts.mapIdx Call.start)) :
    Makes choice (startWithRollback ctx starts stops : Plan κ υ _) (starts.mapIdx Call.start)
      (.ok ()) :=
  (tryEach_makes succeed).bind_nil (Makes.change .done)

/-- The first start that fails ends the startup, and those before it are undone. -/
lemma startWithRollback_fails {starts stops : List (Callback κ)} {k cause}
    (first : FirstFailure choice (starts.mapIdx Call.start) k cause) :
    Makes choice (startWithRollback ctx starts stops : Plan κ υ _)
      ((starts.mapIdx Call.start).take (k + 1) ++ ((stops.take k).mapIdx Call.rollback).reverse)
      (.error ⟨.start k cause, failures choice ((stops.take k).mapIdx Call.rollback).reverse⟩) := by
  obtain ⟨callback, _, here, fails⟩ := first.part
  exact (tryEach_fails here fails first.before).bind (rollback_makes.bind_nil .done)

/-! ## Runners -/

/-- If all runners start, then their starts are all that is called. -/
lemma startRunners_makes {runners : List (Runner κ)}
    (succeed : Succeed choice (runners.mapIdx Call.startRunner)) :
    Makes choice (startRunners ctx runners : Plan κ υ _) (runners.mapIdx Call.startRunner)
      (.ok ()) :=
  (tryEach_makes succeed).bind_nil .done

/-- The first runner that does not start ends the startup, and nothing is undone. -/
lemma startRunners_fails {runners : List (Runner κ)} {k cause}
    (first : FirstFailure choice (runners.mapIdx Call.startRunner) k cause) :
    ∃ runner, runners[k]? = some runner ∧
      Makes choice (startRunners ctx runners : Plan κ υ _)
        ((runners.mapIdx Call.startRunner).take (k + 1))
        (.error (.single (.runnerStart runner.name cause))) := by
  obtain ⟨runner, place, here, fails⟩ := first.part
  refine ⟨runner, place, ?_⟩
  exact (tryEach_fails here fails first.before).bind_nil .done

/-! ## All parts -/

/-- If everything starts, then nothing but starts is called. -/
lemma startParts_makes (succeed : Succeed choice (startCalls parts ++ runnerCalls parts)) :
    Makes choice (startParts ctx parts : Plan κ υ _) (startCalls parts ++ runnerCalls parts)
      (.ok ()) := by
  rw [succeed_append] at succeed
  exact (startWithRollback_makes succeed.1).bind (startRunners_makes succeed.2)

/-- If the parts do not start, the run ends as the startup does. -/
lemma runParts_of_failed {cs es}
    (failed : Makes choice (startParts ctx parts : Plan κ υ _) cs (.error es)) :
    Makes choice (runParts ctx parts : Plan κ υ _) cs (.error es) :=
  Makes.change (failed.bind_nil (Makes.change .done))

/-- If a component does not start, then those before it are stopped, the last one first, and the run
fails with all failures. -/
lemma runParts_rolls_back {k cause} (first : FirstFailure choice (startCalls parts) k cause) :
    Makes choice (runParts ctx parts : Plan κ υ _)
      ((startCalls parts).take (k + 1) ++ rollbackCalls parts k)
      (.error ⟨.start k cause, failures choice (rollbackCalls parts k)⟩) := by
  apply runParts_of_failed
  exact (startWithRollback_fails first).bind_nil .done

/-- If a runner does not start, then nothing is stopped, and the run fails with that failure
alone. -/
lemma runParts_stops_short {k cause} (started : Succeed choice (startCalls parts))
    (first : FirstFailure choice (runnerCalls parts) k cause) :
    ∃ runner, parts.runners[k]? = some runner ∧
      Makes choice (runParts ctx parts : Plan κ υ _)
        (startCalls parts ++ (runnerCalls parts).take (k + 1))
        (.error (.single (.runnerStart runner.name cause))) := by
  obtain ⟨runner, place, fails⟩ := startRunners_fails first
  refine ⟨runner, place, ?_⟩
  apply runParts_of_failed
  exact (startWithRollback_makes started).bind fails

/-! ## The run -/

/-- Two components: the second one does not start, and the first one does not stop. -/
def twoFailures : Orchestrator Outcome where
  components :=
    [⟨some (.ok ()), some (.error (.text "busy"))⟩, ⟨some (.error (.text "refused")), none⟩]

/-- A run claims the orchestrator in one step, and goes on with what it got. -/
lemma run_eq :
    (run ctx : Plan κ υ _) = .act (fun w => (claim w).2) fun w =>
      match (claim w).1 with
      | none => .done (.error (.single .alreadyRun))
      | some parts => runParts ctx parts := rfl

/-- Who asks first for the orchestrator gets its parts. -/
lemma claim_unclaimed {w : World κ υ} (unclaimed : w.orchestrator.claimed = false) :
    claim w = (some w.orchestrator.taken, { w with orchestrator := w.orchestrator.taken }) := by
  simp [claim, Orchestrator.claim?, Orchestrator.taken, unclaimed]

/-- The first run of an orchestrator goes on as the run of its parts. -/
lemma run_unclaimed {S : Setting (World κ υ)} {b : Behaviour κ υ} {w course r u}
    (exec : (run ctx).Runs S b w course r u) (unclaimed : w.orchestrator.claimed = false) :
    ∃ t rest, course = .own w :: rest ∧
      (runParts ctx w.orchestrator.taken).Runs S b t rest r u := by
  rw [run_eq] at exec
  cases exec with
  | act _ exec =>
    simp only [claim_unclaimed unclaimed] at exec
    exact ⟨_, _, rfl, exec⟩

/-- What a run calls and what it reports if something does not start. If it is a component, the
components before it are stopped again, the last one first, and nothing else is called; if it is a
runner, nothing is stopped. -/
theorem run_startup {S : Setting (World κ υ)} {b : Behaviour κ υ} {w course r u}
    (exec : (run ctx).Runs S b w course r u) (unclaimed : w.orchestrator.claimed = false)
    (answered : course.Answered choice) :
    (∀ k cause, FirstFailure choice (startCalls w.orchestrator) k cause →
      course.calls = (startCalls w.orchestrator).take (k + 1) ++ rollbackCalls w.orchestrator k ∧
      r = some (.error ⟨.start k cause, failures choice (rollbackCalls w.orchestrator k)⟩)) ∧
    (∀ k cause, Succeed choice (startCalls w.orchestrator) →
      FirstFailure choice (runnerCalls w.orchestrator) k cause →
      ∃ runner, w.orchestrator.runners[k]? = some runner ∧
        course.calls =
          startCalls w.orchestrator ++ (runnerCalls w.orchestrator).take (k + 1) ∧
        r = some (.error (.single (.runnerStart runner.name cause)))) := by
  obtain ⟨t, rest, rfl, exec'⟩ := run_unclaimed exec unclaimed
  rw [Course.answered_own] at answered
  rw [Course.calls_own]
  constructor
  · intro k cause first
    -- the run has taken the parts, and its calls are those of the orchestrator before
    have first : FirstFailure choice (startCalls w.orchestrator.taken) k cause := first
    exact (runParts_rolls_back first).runs exec' answered
  · intro k cause started first
    have started : Succeed choice (startCalls w.orchestrator.taken) := started
    obtain ⟨runner, place, makes⟩ := runParts_stops_short started first
    exact ⟨runner, place, makes.runs exec' answered⟩

/-- A run of two components: the second one does not start, and the first one does not stop. -/
theorem run_startup_twoFailures :
    ∃ course u, (run ⟨0⟩).Runs World.clockwork.setting prompt (World.around twoFailures) course
        (some (.error ⟨.start 1 (.text "refused"), [.rollback 0 (.text "busy")]⟩)) u ∧
      course.calls = [.start 0 (some (.ok ())), .start 1 (some (.error (.text "refused"))),
        .rollback 0 (some (.error (.text "busy")))] := by
  have first : FirstFailure Call.promptly (startCalls twoFailures) 1 (.text "refused") := by
    refine ⟨rfl, ?_⟩
    simp [Succeed, startCalls, twoFailures, Orchestrator.starts, Call.promptly, Call.promptly?]
  have makes : Makes Call.promptly (runParts ⟨0⟩ twoFailures.taken : Plan _ Unit _) _ _ :=
    runParts_rolls_back first
  obtain ⟨course, u, exec, answered⟩ := makes.prompt_runs rfl
  have run : (run ⟨0⟩).Runs _ _ (World.around twoFailures) _ _ _ := .act rfl exec
  exact ⟨_, _, run, ((run_startup run rfl answered).1 1 _ first).1⟩

end Lifecycle

end Supervision
