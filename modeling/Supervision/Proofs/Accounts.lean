import Supervision.Proofs.Bystanders

/-!
# Accounts

The records and samples that a first run leaves behind are those of its failures and of nothing
else. `Accounts` says what that is for each kind of record and metric, and `run_accounts` that it is
so for every run that ends.
-/

namespace Supervision
open Lifecycle

variable {κ υ : Type}

/-! ## Kinds of members -/

namespace LifecycleError

/-- The record of a member: of its kind, under its index or name, and with its cause. -/
def record? : LifecycleError → Option Record
  | start index cause => some (.componentStartFailed index cause)
  | rollback index cause => some (.rollbackFailed index cause)
  | runnerStart runner cause => some (.runnerStartFailed runner cause)
  | runnerStop runner cause => some (.runnerStopFailed runner cause)
  | stop index cause => some (.componentStopFailed index cause)
  | shutdownHook index cause => some (.hookFailed index cause)
  | _ => none

/-- The metric that counts the members of a kind. -/
def metric? : LifecycleError → Option Metric
  | start _ _ => some (.startFailure .lifecycle)
  | rollback _ _ => some (.rollback .error)
  | runnerStart _ _ => some (.startFailure .runner)
  | runnerStop _ _ => some (.teardownError .runnerStop)
  | stop _ _ => some (.teardownError .lifecycleStop)
  | shutdownHook _ _ => some (.teardownError .shutdownHook)
  | _ => none

end LifecycleError

/-- The metric counts members of results. -/
def Metric.CountsMembers : Metric → Prop
  | startFailure _ => True
  | rollback ending => ending = .error
  | teardownError _ => True
  | phaseDuration _ => False
  | runnerStop _ _ => False
  | healthCheckFailure _ _ => False

/-- How a call ended. -/
def Outcome.ending : Outcome → Ending
  | .ok () => .ok
  | .error _ => .error

namespace Call

/-- The call undoes the start of a component. -/
def isRollback : Call κ → Bool
  | rollback _ _ => true
  | _ => false

/-- The call stops a runner. -/
def isRunnerStop : Call κ → Bool
  | stopRunner _ _ => true
  | _ => false

/-- The call stops a runner of this name. -/
def stopsRunner (name : String) : Call κ → Bool
  | stopRunner _ runner => runner.name = name
  | _ => false

variable {c : Call κ} {outcome : Outcome}

/-- A failed call has its own record: that of its error. -/
lemma record?_error {cause : Cause} : (c.error cause).record? = some (c.record cause) := by
  cases c <;> rfl

/-- A call that succeeds is not counted as a member. -/
lemma count_samplesOf_ok {m : Metric} (counts : m.CountsMembers) :
    (c.samplesOf (.ok ())).count m = 0 := by
  apply List.count_eq_zero.2
  intro member
  cases c with
  | start => cases member
  | rollback =>
    rw [List.mem_singleton.1 member] at counts
    cases counts
  | startRunner => cases member
  | stopRunner =>
    rw [List.mem_singleton.1 member] at counts
    exact counts
  | stop => cases member
  | hook => cases member

/-- A call that fails is counted as the member that it leads to. -/
lemma count_samplesOf_error {m : Metric} {cause : Cause} (counts : m.CountsMembers) :
    (c.samplesOf (.error cause)).count m =
      if (c.error cause).metric? = some m then 1 else 0 := by
  have other : ∀ name, ¬ Metric.runnerStop name .error = m := by
    rintro name rfl
    exact counts
  cases c <;> simp [samplesOf, samples, error, LifecycleError.metric?, List.count_cons, other]

end Call

/-! ## Accounts of ledgers -/

/-- The part that an item measures, if it does. -/
@[simp]
def Item.part? : Item κ → Option MeasuredPhase
  | answered _ _ => none
  | measured part => some part
  | published _ => none

namespace Ledger

variable {l : Ledger κ}

/-- The parts that a ledger measures. -/
def measured (l : Ledger κ) : List MeasuredPhase :=
  l.filterMap Item.part?

/-- Every ledger has the records of its failures. -/
lemma map_records : l.records.map some = l.answers.failed.map LifecycleError.record? := by
  induction l with
  | nil => rfl
  | cons item l ih =>
    cases item with
    | answered c outcome =>
      show (c.recordsOf outcome ++ records l).map some =
        (Answers.failed ((c, outcome) :: answers l)).map LifecycleError.record?
      rw [Answers.failed_cons, List.map_append, List.map_append, ih]
      congr 1
      cases outcome with
      | ok => rfl
      | error cause => exact congrArg ([·]) Call.record?_error.symm
    | measured part => exact ih
    | published phase => exact ih

/-- A metric is counted once for each item that has a sample of it. -/
lemma count_samples {m : Metric} {p : Item κ → Bool}
    (each : ∀ item, item.samples.count m = if p item then 1 else 0) :
    l.samples.count m = l.countP p := by
  induction l with
  | nil => rfl
  | cons item l ih =>
    show (item.samples ++ samples l).count m = _
    rw [List.count_append, each, ih, List.countP_cons, Nat.add_comm]

/-- Failures are counted by their kind. -/
lemma count_members {m : Metric} (counts : m.CountsMembers) :
    l.samples.count m = (l.answers.failed.filterMap LifecycleError.metric?).count m := by
  rw [List.count, Answers.failed, answers, List.countP_filterMap, List.countP_filterMap,
    List.countP_filterMap]
  apply count_samples
  intro item
  cases item with
  | answered c outcome =>
    cases outcome with
    | ok => exact Call.count_samplesOf_ok counts
    | error cause =>
      rw [Item.samples, Call.count_samplesOf_error counts]
      cases kind : (c.error cause).metric? <;> simp [Item.answer?, Call.failure?, kind]
  | measured part =>
    cases m with
    | phaseDuration => exact counts.elim
    | _ => rfl
  | published phase => rfl

/-- Stops that undo a start are counted when they succeed. -/
lemma count_undone :
    l.samples.count (.rollback .ok) =
      l.answers.countP fun a => a.1.isRollback && a.2.ending = .ok := by
  rw [answers, List.countP_filterMap]
  apply count_samples
  intro item
  cases item with
  | answered c outcome => cases c <;> cases outcome <;> rfl
  | measured part => rfl
  | published phase => rfl

/-- Stops of runners are counted by name and ending. -/
lemma count_runnerStop {name : String} {ending : Ending} :
    l.samples.count (.runnerStop name ending) =
      l.answers.countP fun a => a.1.stopsRunner name && a.2.ending = ending := by
  rw [answers, List.countP_filterMap]
  apply count_samples
  intro item
  cases item with
  | answered c outcome =>
    cases c with
    | stopRunner _ runner =>
      cases outcome <;> cases ending <;>
        simp [Item.samples, Call.samplesOf, Call.samples, Item.answer?, Call.stopsRunner,
          Outcome.ending, List.count_cons]
    | _ => cases outcome <;> rfl
  | measured part => rfl
  | published phase => rfl

/-- Each measurement is counted. -/
lemma count_phaseDuration {part : MeasuredPhase} :
    l.samples.count (.phaseDuration part) = l.measured.count part := by
  rw [List.count, List.count, measured, List.countP_filterMap]
  apply count_samples
  intro item
  cases item with
  | answered c outcome => cases c <;> cases outcome <;> rfl
  | measured => simp [Item.samples, Item.part?, List.count_singleton]
  | published phase => rfl

end Ledger

/-! ## Accounts of runs -/

/-- There is one if something holds, and none otherwise. -/
def OnceIf (p : Prop) (n : Nat) : Prop :=
  (p ∧ n = 1) ∨ (¬ p ∧ n = 0)

namespace Ledger

variable {l l' : Ledger κ} {item : Item κ} {answers : Answers κ}

/-- The empty ledger publishes nothing. -/
@[simp] lemma phases_nil : phases ([] : Ledger κ) = [] := rfl

/-- The phases of a ledger are those of its first item and those of the rest. -/
@[simp] lemma phases_cons : phases (item :: l) = item.phases ++ phases l := rfl

/-- Answers publish no phase. -/
@[simp] lemma phases_told : phases answers.told = [] := by
  induction answers with
  | nil => rfl
  | cons a answers ih => exact ih

/-- The empty ledger measures nothing. -/
@[simp] lemma measured_nil : measured ([] : Ledger κ) = [] := rfl

/-- The parts that a ledger measures are the one of its first item, if it is one, and those of the
rest. -/
@[simp] lemma measured_cons : measured (item :: l) = item.part?.toList ++ measured l := by
  cases item <;> rfl

/-- The parts that two ledgers measure stand one after the other. -/
@[simp] lemma measured_append : measured (l ++ l') = measured l ++ measured l' :=
  List.filterMap_append

/-- Answers measure no part. -/
@[simp] lemma measured_told : measured answers.told = [] := by
  induction answers with
  | nil => rfl
  | cons a answers ih => exact ih

end Ledger

namespace Lifecycle

variable {parts : Orchestrator κ} {k : Nat} {c : Call κ}

/-- The start of a component is called once. -/
lemma notMem_take_startCalls (here : (startCalls parts)[k]? = some c) :
    c ∉ (startCalls parts).take k := by
  intro member
  obtain ⟨j, place⟩ := List.mem_iff_getElem?.1 member
  rw [List.getElem?_take] at place
  split at place
  case isFalse => cases place
  case isTrue before =>
    rw [startCalls, List.getElem?_mapIdx] at here place
    obtain ⟨_, -, rfl⟩ := Option.map_eq_some_iff.1 here
    obtain ⟨_, -, same⟩ := Option.map_eq_some_iff.1 place
    cases same
    exact Nat.lt_irrefl _ before

/-- A start of components stops no runner. -/
lemma filter_isRunnerStop_startCalls : (startCalls parts).filter Call.isRunnerStop = [] := by
  rw [List.filter_eq_nil_iff]
  intro c member
  obtain ⟨i, callback, -, rfl⟩ := mem_startCalls.1 member
  exact Bool.false_ne_true

/-- A start of runners stops no runner. -/
lemma filter_isRunnerStop_runnerCalls : (runnerCalls parts).filter Call.isRunnerStop = [] := by
  rw [List.filter_eq_nil_iff]
  intro c member
  obtain ⟨i, runner, -, rfl⟩ := mem_runnerCalls.1 member
  exact Bool.false_ne_true

/-- Undoing a start stops no runner. -/
lemma filter_isRunnerStop_rollbackCalls :
    (rollbackCalls parts k).filter Call.isRunnerStop = [] := by
  rw [List.filter_eq_nil_iff]
  intro c member
  obtain ⟨i, callback, -, rfl⟩ := mem_rollbackCalls.1 member
  exact Bool.false_ne_true

/-- A teardown stops each runner once. -/
lemma filter_isRunnerStop_teardownCalls :
    (teardownCalls parts).filter Call.isRunnerStop =
      (parts.runners.mapIdx Call.stopRunner).reverse := by
  have runners : ∀ c ∈ (parts.runners.mapIdx Call.stopRunner).reverse, c.isRunnerStop := by
    intro c member
    obtain ⟨i, before, rfl⟩ := List.mem_mapIdx.1 (List.mem_reverse.1 member)
    rfl
  have others : ∀ c ∈ (parts.stops.mapIdx Call.stop).reverse ++ parts.hooks.mapIdx Call.hook,
      ¬ c.isRunnerStop := by
    intro c member
    rcases List.mem_append.1 member with member | member
    · obtain ⟨i, before, rfl⟩ := List.mem_mapIdx.1 (List.mem_reverse.1 member)
      exact Bool.false_ne_true
    · obtain ⟨i, before, rfl⟩ := List.mem_mapIdx.1 member
      exact Bool.false_ne_true
  rw [teardownCalls, List.append_assoc, List.filter_append, List.filter_eq_self.2 runners,
    List.filter_eq_nil_iff.2 others, List.append_nil]

end Lifecycle

namespace Transcript

variable {parts : Orchestrator κ} {l : Ledger κ} {r : RunOutcome}

/-- The startup is measured once if the run has got as far as running, and not at all otherwise. -/
lemma startup_iff (transcript : Transcript parts l r) :
    OnceIf (.running ∈ l.phases) (l.measured.count .startup) := by
  cases transcript with
  | rolledBack => right; simp
  | stoppedShort => right; simp
  | cameDown => left; simp

/-- The teardown is measured once if the run has got as far as stopping, and not at all
otherwise. -/
lemma teardown_iff (transcript : Transcript parts l r) :
    OnceIf (.stopping ∈ l.phases) (l.measured.count .teardown) := by
  cases transcript with
  | rolledBack => right; simp
  | stoppedShort => right; simp
  | cameDown => left; simp

/-- The start of components is measured if all of them have started. -/
lemma lifecycleStart_iff (transcript : Transcript parts l r) :
    OnceIf (∀ c ∈ startCalls parts, (c, .ok ()) ∈ l.answers)
      (l.measured.count .lifecycleStart) := by
  have all : ∀ {c}, c ∈ startCalls parts → (c, .ok ()) ∈ Answers.succeeded (startCalls parts) :=
    fun member => Answers.mem_succeeded.2 ⟨member, rfl⟩
  cases transcript with
  | @rolledBack k c cause undone here calls =>
    right
    refine ⟨fun started => ?_, by simp⟩
    have once := started c (List.mem_of_getElem? here)
    simp only [Ledger.answers_append, Ledger.answers_told, List.mem_append] at once
    -- the call that fails is made only once
    rcases once with (((once | once) | once) | once) | once
    · cases once
    · exact notMem_take_startCalls here (Answers.mem_succeeded.1 once).1
    · cases List.mem_singleton.1 once
    · have member : c ∈ undone.map Prod.fst := List.mem_map_of_mem once
      rw [calls] at member
      obtain ⟨_, _, -, rfl⟩ := mem_rollbackCalls.1 member
      obtain ⟨_, _, -, same⟩ := mem_startCalls.1 (List.mem_of_getElem? here)
      cases same
    · cases once
  | stoppedShort =>
    left
    refine ⟨fun c member => ?_, by simp⟩
    simp [all member]
  | cameDown =>
    left
    refine ⟨fun c member => ?_, by simp⟩
    simp [all member]

/-- Runners are stopped if the run comes down, each one once. -/
lemma runnerStops_eq (transcript : Transcript parts l r) :
    (l.answers.map Prod.fst).filter Call.isRunnerStop =
      if .stopping ∈ l.phases then (parts.runners.mapIdx Call.stopRunner).reverse else [] := by
  cases transcript with
  | @rolledBack k c cause undone here calls =>
    obtain ⟨_, _, -, rfl⟩ := mem_startCalls.1 (List.mem_of_getElem? here)
    have before : ((startCalls parts).take k).filter Call.isRunnerStop = [] :=
      List.filter_eq_nil_iff.2 fun c member =>
        List.filter_eq_nil_iff.1 filter_isRunnerStop_startCalls c (List.mem_of_mem_take member)
    simp [calls, before, filter_isRunnerStop_rollbackCalls, Call.isRunnerStop]
  | @stoppedShort k c cause here =>
    obtain ⟨_, _, -, rfl⟩ := mem_runnerCalls.1 (List.mem_of_getElem? here)
    have before : ((runnerCalls parts).take k).filter Call.isRunnerStop = [] :=
      List.filter_eq_nil_iff.2 fun c member =>
        List.filter_eq_nil_iff.1 filter_isRunnerStop_runnerCalls c (List.mem_of_mem_take member)
    simp [before, filter_isRunnerStop_startCalls, Call.isRunnerStop]
  | cameDown calls =>
    simp [calls, filter_isRunnerStop_startCalls, filter_isRunnerStop_runnerCalls,
      filter_isRunnerStop_teardownCalls]

end Transcript

/-- What a run leaves behind, by its calls with their answers and by its result. -/
structure Accounts (o : Orchestrator κ) (steps : Steps κ υ) (answers : Answers κ)
    (result : RunOutcome) : Prop where
  /-- The members are the failures of the calls, in order. -/
  failed : members result = answers.failed
  /-- One record for each member, in order. -/
  records : steps.records.map some = (members result).map LifecycleError.record?
  counted : ∀ m : Metric, m.CountsMembers →
    steps.samples.count m = ((members result).filterMap LifecycleError.metric?).count m
  undone : steps.samples.count (.rollback .ok) =
    answers.countP fun a => a.1.isRollback && a.2.ending = .ok
  /-- Runners are counted by name, and several may have the same one. -/
  runnerStops : ∀ name ending, steps.samples.count (.runnerStop name ending) =
    answers.countP fun a => a.1.stopsRunner name && a.2.ending = ending
  /-- Every runner is stopped once if the run comes down. -/
  stoppedOnce : (answers.map Prod.fst).filter Call.isRunnerStop =
    if .stopping ∈ steps.phases then (o.runners.mapIdx Call.stopRunner).reverse else []
  lifecycleStart : OnceIf (∀ c ∈ startCalls o, (c, .ok ()) ∈ answers)
    (steps.samples.count (.phaseDuration .lifecycleStart))
  startup : OnceIf (.running ∈ steps.phases) (steps.samples.count (.phaseDuration .startup))
  teardown : OnceIf (.stopping ∈ steps.phases) (steps.samples.count (.phaseDuration .teardown))
  others : ∀ m : Metric, m.isOfRun = false → steps.samples.count m = 0

/-- The accounts of a run follow from its transcript and from the steps that tell it. -/
lemma Transcript.accounts {o : Orchestrator κ} {l : Ledger κ} {steps : Steps κ υ}
    {result : RunOutcome} (transcript : Transcript o l result) (tell : steps.Tell l) :
    Accounts o steps l.answers result where
  failed := transcript.members_eq
  records := by rw [tell.records_eq, transcript.members_eq, Ledger.map_records]
  counted m counts := by rw [tell.samples_eq, transcript.members_eq, Ledger.count_members counts]
  undone := by rw [tell.samples_eq, Ledger.count_undone]
  runnerStops name ending := by rw [tell.samples_eq, Ledger.count_runnerStop]
  stoppedOnce := by rw [tell.phases_eq, transcript.runnerStops_eq]
  lifecycleStart := by
    rw [tell.samples_eq, Ledger.count_phaseDuration]
    exact transcript.lifecycleStart_iff
  startup := by
    rw [tell.samples_eq, tell.phases_eq, Ledger.count_phaseDuration]
    exact transcript.startup_iff
  teardown := by
    rw [tell.samples_eq, tell.phases_eq, Ledger.count_phaseDuration]
    exact transcript.teardown_iff
  others m foreign := by
    rw [tell.samples_eq, List.count_eq_zero]
    intro member
    rw [Ledger.isOfRun_samples m member] at foreign
    cases foreign

/-- A metric of runs grows by the samples of the ledger. -/
lemma World.Grows.count {w u : World κ υ} {l : Ledger κ} {m : Metric} (grows : w.Grows l u)
    (isOfRun : m.isOfRun) : u.samples.count m = w.samples.count m + l.samples.count m := by
  have filtered := congrArg (List.count m) grows.samples
  rw [List.count_append, World.runSamples, World.runSamples, List.count_filter isOfRun,
    List.count_filter isOfRun] at filtered
  exact filtered

/-- The accounts of a first run that ends: what it leaves behind, step by step, corresponds to its
calls and to its result. The journal and the metrics of the world grow by exactly this, unless
somebody else makes records and samples of runs. -/
theorem run_accounts {S : Setting (World κ υ)} {b : Behaviour κ υ} {ctx w course result u}
    (exec : (run ctx).Runs S b w course (some result) u)
    (unclaimed : w.orchestrator.claimed = false) :
    Accounts w.orchestrator ((run ctx).ownSteps course) course.answers result ∧
      (S.SparesBooks b →
        u.runRecords = w.runRecords ++ ((run ctx).ownSteps course).records ∧
        ∀ m : Metric, m.isOfRun →
          u.samples.count m = w.samples.count m + ((run ctx).ownSteps course).samples.count m) := by
  obtain ⟨l, tell, answers, ends⟩ := run_transcript exec unclaimed
  rw [answers]
  refine ⟨(ends result rfl).accounts tell, fun spares => ?_⟩
  have grows := exec.books tell spares
  rw [tell.records_eq, tell.samples_eq]
  exact ⟨grows.records, fun m isOfRun => grows.count isOfRun⟩

/-- Two runners with one name, of which one does not stop, and a component and a hook that fail. -/
def namesakes : Orchestrator Outcome where
  components := [⟨none, some (.error (.text "stuck"))⟩]
  runners := [.custom "worker" none (some (.error (.text "late"))), .custom "worker" none none]
  hooks := [some (.error (.text "lost"))]

/-- A run whose token is cancelled from the beginning: one stop under the name has succeeded, and
one has failed. -/
theorem run_accounts_namesakes :
    ∃ course u, (run ⟨0⟩).Runs World.clockwork.setting prompt ((World.around namesakes).cancel ⟨0⟩)
        course (some (.error ⟨.runnerStop "worker" (.text "late"),
          [.stop 0 (.text "stuck"), .shutdownHook 0 (.text "lost")]⟩)) u ∧
      u.runRecords = [.runnerStopFailed "worker" (.text "late"),
        .componentStopFailed 0 (.text "stuck"), .hookFailed 0 (.text "lost")] ∧
      u.samples.count (.runnerStop "worker" .ok) = 1 ∧
      u.samples.count (.runnerStop "worker" .error) = 1 ∧
      u.samples.count (.teardownError .lifecycleStop) = 1 ∧
      u.samples.count (.startFailure .runner) = 0 := by
  obtain ⟨course, u, exec, answers⟩ : ∃ course u, (run ⟨0⟩).Runs World.clockwork.setting prompt
      ((World.around namesakes).cancel ⟨0⟩) course
      (some (.error ⟨.runnerStop "worker" (.text "late"),
        [.stop 0 (.text "stuck"), .shutdownHook 0 (.text "lost")]⟩)) u ∧
      course.answers = [(.start 0 none, .ok ()),
        (.startRunner 0 (.custom "worker" none (some (.error (.text "late")))), .ok ()),
        (.startRunner 1 (.custom "worker" none none), .ok ()),
        (.stopRunner 1 (.custom "worker" none none), .ok ()),
        (.stopRunner 0 (.custom "worker" none (some (.error (.text "late")))),
          .error (.text "late")),
        (.stop 0 (some (.error (.text "stuck"))), .error (.text "stuck")),
        (.hook 0 (some (.error (.text "lost"))), .error (.text "lost"))] :=
    ⟨_, _, Plan.follow_runs (World.clockwork.leap 0) rfl, rfl⟩
  obtain ⟨accounts, grows⟩ := run_accounts exec rfl
  obtain ⟨records, samples⟩ := grows (sparesBooks_clockwork fun _ _ => .done)
  refine ⟨course, u, exec, ?_, ?_, ?_, ?_, ?_⟩
  · rw [records]
    exact (List.map_inj_right fun _ _ => Option.some.inj).1 accounts.records
  · rw [samples _ rfl, accounts.runnerStops, answers]
    rfl
  · rw [samples _ rfl, accounts.runnerStops, answers]
    rfl
  · rw [samples _ rfl, accounts.counted (.teardownError .lifecycleStop) trivial]
    rfl
  · rw [samples _ rfl, accounts.counted (.startFailure .runner) trivial]
    rfl

end Supervision
