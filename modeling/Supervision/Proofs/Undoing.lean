import Supervision.Proofs.Accounts
import Supervision.Proofs.Service

/-!
# Startups that are undone

What the startup of a service without an orchestrator calls, returns and records, for components and
stops of any number. A failure is returned or recorded, and the first one is both: `start_undoes`.
`Plan.Books.records_of_answered` says of any plan that its records are those of its failures.
-/

namespace Supervision

variable {κ υ α : Type} {choice : Call κ → Outcome}

/-! ## Records of answered calls -/

/-- The answers of a course are those that were chosen for its calls. -/
lemma Course.answers_of_answered {course : Course κ υ} (answered : course.Answered choice) :
    course.answers = course.calls.map fun c => (c, choice c) := by
  rw [Course.answers, Course.calls, List.map_map, ← List.filterMap_eq_map]
  refine List.filterMap_congr fun m member => ?_
  rw [Made.answer?, answered m member]
  rfl

/-- The failures among chosen answers are the failures of the calls. -/
lemma Answers.failed_map {cs : List (Call κ)} :
    Answers.failed (cs.map fun c => (c, choice c)) = failures choice cs := by
  rw [Answers.failed, List.filterMap_map]
  rfl

/-- A plan that keeps a ledger has a record for each of its failures, in order. -/
lemma Plan.Books.records_of_answered {Q : Ledger κ → α → Prop} {S : Setting (World κ υ)}
    {b : Behaviour κ υ} {w u : World κ υ} {course : Course κ υ} {r : Option α} {p : Plan κ υ α}
    (books : Books Q [] p) (run : p.Runs S b w course r u) (answered : course.Answered choice) :
    ∃ l : Ledger κ, (p.ownSteps course).Tell l ∧
      (p.ownSteps course).records.map some =
        (failures choice course.calls).map LifecycleError.record? := by
  obtain ⟨l, tell, answers, -⟩ := books.runs run
  refine ⟨l, tell, ?_⟩
  rw [tell.records_eq, Ledger.map_records, ← answers, Course.answers_of_answered answered,
    Answers.failed_map]

/-- The failures of two lists of calls are those of the one and those of the other. -/
lemma failures_append {cs cs' : List (Call κ)} :
    failures choice (cs ++ cs') = failures choice cs ++ failures choice cs' :=
  List.filterMap_append

/-- Calls that succeed have no failures. -/
lemma failures_of_succeed {cs : List (Call κ)} (succeed : Succeed choice cs) :
    failures choice cs = [] := by
  rw [failures, List.filterMap_eq_nil_iff]
  intro c member
  rw [succeed c member]
  rfl

/-- Up to the first failure, there is no other. -/
lemma FirstFailure.failures_take {cs : List (Call κ)} {k : Nat} {cause : Cause} {c : Call κ}
    (first : FirstFailure choice cs k cause) (here : cs[k]? = some c) :
    failures choice (cs.take (k + 1)) = [c.error cause] := by
  have fails : choice c = .error cause := by
    have fails := first.fails
    rw [here] at fails
    exact Option.some.inj fails
  rw [List.take_add_one, here, failures_append, failures_of_succeed first.before, List.nil_append,
    Option.toList_some, failures_cons, failures_nil, List.append_nil, fails]
  rfl

namespace Lifecycle
open Plan Plan.Books

variable {starts stops : List (Callback κ)} {ctx : Token} {S : Setting (World κ υ)}
  {b : Behaviour κ υ} {w u : World κ υ} {course : Course κ υ} {k : Nat} {cause : Cause}
  {r : Option (Except LifecycleError Unit)}

/-- The calls that stop the first `k` components again, as far as there are stops, the last one
first. -/
def undoCalls (stops : List (Callback κ)) (k : Nat) : List (Call κ) :=
  ((stops.take k).mapIdx Call.rollback).reverse

/-- Undoing stops the components with a stop among the first `k`, in descending order. -/
lemma map_index_undoCalls :
    (undoCalls stops k).map Call.index = (List.range (min k stops.length)).reverse := by
  rw [undoCalls, List.map_reverse, List.mapIdx_eq_zipIdx_map, List.map_map, ← List.length_take,
    List.range_eq_range', ← List.zipIdx_map_snd 0 (stops.take k)]
  rfl

/-- A start keeps its books from the empty ledger on. -/
lemma start_books :
    Books (fun _ _ => True) [] (start ctx starts stops : Plan κ υ _) := by
  have undoes {stops : List (Callback κ)} {l : Ledger κ} :
      Books (fun _ _ => True) l (rollback stops : Plan κ υ _) :=
    rollback_books.mono fun _ _ _ => trivial
  have starting : Books (fun _ _ => True) [] (startWithRollback ctx starts stops : Plan κ υ _) := by
    apply tryEach.bind
    rintro l (_ | ⟨c, cause⟩) -
    · exact count_bind (.done trivial)
    · exact undoes.bind fun _ _ _ => .done trivial
  exact starting.bind fun _ _ _ => .done trivial

/-- A startup is one that reports all failures, of which it hands on the first. -/
lemma startWithRollback_of_start {result}
    (exec : (start ctx starts stops).Runs S b w course (some result) u) :
    ∃ outcome, (startWithRollback ctx starts stops).Runs S b w course (some outcome) u := by
  obtain ⟨⟨⟩, -⟩ | ⟨outcome, t, first, rest, rfl, here, final⟩ := Runs.of_bind exec
  cases final
  rw [List.append_nil]
  exact ⟨outcome, here⟩

/-- What a startup calls and reports if everything starts. -/
lemma start_succeeds (exec : (start ctx starts stops).Runs S b w course r u)
    (answered : course.Answered choice) (succeed : Succeed choice (starts.mapIdx Call.start)) :
    course.calls = starts.mapIdx Call.start ∧ r = some (.ok ()) :=
  (start_makes succeed).runs exec answered

/-- What it calls and reports otherwise. -/
lemma start_fails_at (exec : (start ctx starts stops).Runs S b w course r u)
    (answered : course.Answered choice)
    (first : FirstFailure choice (starts.mapIdx Call.start) k cause) :
    course.calls = (starts.mapIdx Call.start).take (k + 1) ++ undoCalls stops k ∧
      r = some (.error (.start k cause)) ∧
      failures choice course.calls = .start k cause :: failures choice (undoCalls stops k) := by
  obtain ⟨calls, result⟩ := (start_fails first).runs exec answered
  obtain ⟨callback, -, here, -⟩ := first.part
  refine ⟨calls, result, ?_⟩
  rw [calls, failures_append, first.failures_take here]
  rfl

/-- What is returned of several errors: the first. Without any, it would be a success. -/
def firstOf : List LifecycleError → Except LifecycleError Unit
  | [] => .ok ()
  | e :: _ => .error e

/-- A start returns the first failure of its calls. -/
lemma start_first (exec : (start ctx starts stops).Runs S b w course r u)
    (answered : course.Answered choice) : r = some (firstOf (failures choice course.calls)) := by
  rcases succeed_or_firstFailure choice (starts.mapIdx Call.start) with
    succeed | ⟨k, cause, first⟩
  · obtain ⟨calls, rfl⟩ := start_succeeds exec answered succeed
    rw [calls, failures_of_succeed succeed]
    rfl
  · obtain ⟨-, rfl, all⟩ := start_fails_at exec answered first
    rw [all]
    rfl

/-- The startup with all its failures reports those of its calls, without exception. -/
lemma startWithRollback_outcome (exec : (start ctx starts stops).Runs S b w course r u)
    (answered : course.Answered choice) :
    (startWithRollback ctx starts stops).Runs S b w course
      (some (Errors.outcome (failures choice course.calls))) u := by
  rcases succeed_or_firstFailure choice (starts.mapIdx Call.start) with
    succeed | ⟨k, cause, first⟩
  · obtain ⟨calls, rfl⟩ := start_succeeds exec answered succeed
    obtain ⟨outcome, here⟩ := startWithRollback_of_start exec
    cases ((startWithRollback_makes succeed).runs here answered).2
    rwa [calls, failures_of_succeed succeed]
  · obtain ⟨-, rfl, all⟩ := start_fails_at exec answered first
    obtain ⟨outcome, here⟩ := startWithRollback_of_start exec
    cases ((startWithRollback_fails first).runs here answered).2
    rwa [all]

/-- No record of an error is a warning. -/
lemma isWarning_of_record? {e : LifecycleError} {record : Record} (here : e.record? = some record) :
    record.isWarning = false := by
  cases e <;> cases here <;> rfl

/-- A startup succeeds if and only if every component starts, and then nothing is stopped. Otherwise
the components before the first failure are stopped again, as far as there are stops, the last one
first and whatever fails, and the first failure is returned. It is the first member of an aggregate
of all failures, which is therefore never empty; and each failure leaves an error in the journal. -/
theorem start_undoes (exec : (start ctx starts stops).Runs S b w course r u)
    (answered : course.Answered choice) :
    (r = some (.ok ()) ↔ Succeed choice (starts.mapIdx Call.start)) ∧
      (Succeed choice (starts.mapIdx Call.start) →
        course.events = Course.inTurn choice (starts.mapIdx Call.start)) ∧
      (∀ k cause, FirstFailure choice (starts.mapIdx Call.start) k cause →
        course.events = Course.inTurn choice
          ((starts.mapIdx Call.start).take (k + 1) ++ undoCalls stops k) ∧
        (undoCalls stops k).map Call.index = (List.range (min k stops.length)).reverse ∧
        r = some (.error (.start k cause)) ∧
        failures choice course.calls = .start k cause :: failures choice (undoCalls stops k)) ∧
      (startWithRollback ctx starts stops).Runs S b w course
        (some (Errors.outcome (failures choice course.calls))) u ∧
      r = some (firstOf (failures choice course.calls)) ∧
      ((start ctx starts stops).ownSteps course).records.map some =
        (failures choice course.calls).map LifecycleError.record? ∧
      (∀ record ∈ ((start ctx starts stops).ownSteps course).records, record.isWarning = false) ∧
      (S.SparesBooks b →
        u.runRecords = w.runRecords ++ ((start ctx starts stops).ownSteps course).records) := by
  obtain ⟨l, tell, records⟩ := start_books.records_of_answered exec answered
  refine ⟨⟨?_, fun succeed => (start_succeeds exec answered succeed).2⟩, ?_, ?_,
    startWithRollback_outcome exec answered, start_first exec answered, records, ?_, ?_⟩
  · -- a start that fails would have given an error
    rintro rfl
    rcases succeed_or_firstFailure choice (starts.mapIdx Call.start) with
      succeed | ⟨k, cause, first⟩
    · exact succeed
    · cases (start_fails_at exec answered first).2.1
  · intro succeed
    rw [Course.events_of_answered answered, (start_succeeds exec answered succeed).1]
  · intro k cause first
    obtain ⟨calls, result, all⟩ := start_fails_at exec answered first
    refine ⟨?_, map_index_undoCalls, result, all⟩
    rw [Course.events_of_answered answered, calls]
  · intro record member
    have made : some record ∈ (failures choice course.calls).map LifecycleError.record? := by
      rw [← records]
      exact List.mem_map_of_mem member
    obtain ⟨e, -, here⟩ := List.mem_map.1 made
    exact isWarning_of_record? here
  · intro spares
    rw [tell.records_eq]
    exact (exec.books tell spares).records

/-- Three components of which the last one does not start, and a single stop, which fails. -/
theorem start_undoes_unpaired :
    let starts : List (Callback Outcome) := [none, some (.ok ()), some (.error (.text "refused"))]
    let stops : List (Callback Outcome) := [some (.error (.text "busy"))]
    ∃ course u, (start ⟨0⟩ starts stops).Runs World.clockwork.setting prompt (World.around {})
        course (some (.error (.start 2 (.text "refused")))) u ∧
      course.events = Course.inTurn Call.promptly
        [.start 0 none, .start 1 (some (.ok ())), .start 2 (some (.error (.text "refused"))),
          .rollback 0 (some (.error (.text "busy")))] ∧
      u.runRecords =
        [.componentStartFailed 2 (.text "refused"), .rollbackFailed 0 (.text "busy")] := by
  intro starts stops
  have first : FirstFailure Call.promptly (starts.mapIdx Call.start) 2 (.text "refused") := by
    refine ⟨rfl, ?_⟩
    simp [Succeed, starts, Call.promptly, Call.promptly?]
  have makes : Makes Call.promptly (start ⟨0⟩ starts stops : Plan _ Unit _) _ _ := start_fails first
  obtain ⟨course, u, exec, answered⟩ := makes.prompt_runs (w := World.around {}) rfl
  obtain ⟨-, -, undone, -, -, records, -, journal⟩ := start_undoes exec answered
  obtain ⟨events, -, -, all⟩ := undone 2 _ first
  refine ⟨course, u, exec, events, ?_⟩
  rw [journal (sparesBooks_clockwork fun _ _ => .done)]
  rw [all] at records
  exact (List.map_inj_right fun _ _ => Option.some.inj).1 records

end Lifecycle

end Supervision
