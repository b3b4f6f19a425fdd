import Supervision.Proofs.Teardown

/-!
# Ledgers

A ledger says in order what a plan lets others know: the answers to its calls, the parts whose
duration it measures, and the phases that it publishes. `Plan.Books` says that a plan leaves behind
the records and samples of a ledger, and nothing else, and `Plan.Books.runs` says so of the
executions. `Transcript` says which ledgers there are of a run, and with which results
(`run_transcript`).
-/

namespace Supervision
open Lifecycle

variable {κ υ α β : Type}

/-! ## Ledgers -/

/-- Answers to calls, in order. -/
abbrev Answers (κ : Type) := List (Call κ × Outcome)

/-- What a plan lets others know. -/
inductive Item (κ : Type) where
  | answered (c : Call κ) (outcome : Outcome)
  | measured (part : MeasuredPhase)
  | published (phase : Phase)

/-- What a plan lets others know, in order. -/
abbrev Ledger (κ : Type) := List (Item κ)

namespace Call

/-- The records that an answer calls for. -/
def recordsOf (c : Call κ) : Outcome → List Record
  | .ok () => []
  | .error cause => [c.record cause]

/-- The samples that an answer calls for. -/
def samplesOf (c : Call κ) : Outcome → List Metric
  | .ok () => c.samples .ok
  | .error _ => c.samples .error

end Call

namespace Item

/-- The records of an item. -/
def records : Item κ → List Record
  | answered c outcome => c.recordsOf outcome
  | measured _ => []
  | published _ => []

/-- The samples of an item. -/
def samples : Item κ → List Metric
  | answered c outcome => c.samplesOf outcome
  | measured part => [.phaseDuration part]
  | published _ => []

/-- The phases of an item. -/
@[simp]
def phases : Item κ → List Phase
  | answered _ _ => []
  | measured _ => []
  | published phase => [phase]

/-- The answer that an item is, if it is one. -/
@[simp]
def answer? : Item κ → Option (Call κ × Outcome)
  | answered c outcome => some (c, outcome)
  | measured _ => none
  | published _ => none

end Item

namespace Answers

/-- The answers of calls that all succeed. -/
def succeeded (cs : List (Call κ)) : Answers κ :=
  cs.map fun c => (c, .ok ())

/-- The failures among answers. -/
def failed (answers : Answers κ) : List LifecycleError :=
  answers.filterMap fun a => a.1.failure? a.2

/-- Answers as they stand in a ledger. -/
def told (answers : Answers κ) : Ledger κ :=
  answers.map fun a => .answered a.1 a.2

variable {answers answers' : Answers κ} {cs : List (Call κ)}

/-- There is no failure among no answers. -/
@[simp] lemma failed_nil : failed ([] : Answers κ) = [] := rfl

/-- The failures among answers are the one of the first answer, if it is one, and those of the
rest. -/
lemma failed_cons {c : Call κ} {outcome : Outcome} :
    failed ((c, outcome) :: answers) = (c.failure? outcome).toList ++ failed answers := by
  rw [failed, failed, List.filterMap_cons]
  cases c.failure? outcome <;> rfl

/-- The failures among two lists of answers are those of the one and those of the other. -/
@[simp] lemma failed_append :
    failed (answers ++ answers') = failed answers ++ failed answers' :=
  List.filterMap_append

/-- There is no failure among successes. -/
@[simp] lemma failed_succeeded : failed (succeeded cs) = [] := by
  induction cs with
  | nil => rfl
  | cons c cs ih => exact ih

/-- The calls of these answers are the ones they were made from. -/
@[simp] lemma map_succeeded : (succeeded cs).map Prod.fst = cs := by
  rw [succeeded, List.map_map]
  exact List.map_id cs

/-- These answers are the successes of the calls. -/
lemma mem_succeeded {c : Call κ} {outcome : Outcome} :
    (c, outcome) ∈ succeeded cs ↔ c ∈ cs ∧ outcome = .ok () := by
  simp [succeeded, eq_comm]

end Answers

namespace Ledger

/-- The records of a ledger. -/
def records (l : Ledger κ) : List Record :=
  l.flatMap Item.records

/-- The samples of a ledger. -/
def samples (l : Ledger κ) : List Metric :=
  l.flatMap Item.samples

/-- The phases of a ledger. -/
def phases (l : Ledger κ) : List Phase :=
  l.flatMap Item.phases

/-- The answers of a ledger. -/
def answers (l : Ledger κ) : Answers κ :=
  l.filterMap Item.answer?

variable {l l' : Ledger κ} {item : Item κ}

/-- The records of two ledgers stand one after the other. -/
@[simp] lemma records_append : records (l ++ l') = records l ++ records l' :=
  List.flatMap_append

/-- The samples of two ledgers stand one after the other. -/
@[simp] lemma samples_append : samples (l ++ l') = samples l ++ samples l' :=
  List.flatMap_append

/-- The phases of two ledgers stand one after the other. -/
@[simp] lemma phases_append : phases (l ++ l') = phases l ++ phases l' :=
  List.flatMap_append

/-- The answers of two ledgers stand one after the other. -/
@[simp] lemma answers_append : answers (l ++ l') = answers l ++ answers l' :=
  List.filterMap_append

/-- The empty ledger has no answers. -/
@[simp] lemma answers_nil : Ledger.answers ([] : Ledger κ) = [] := rfl

/-- The answers of a ledger are its first item, if it is one, and those of the rest. -/
@[simp] lemma answers_cons :
    Ledger.answers (item :: l) = item.answer?.toList ++ Ledger.answers l := by
  cases item <;> rfl

/-- What is told of answers are these answers. -/
@[simp] lemma answers_told {answers : Answers κ} : Ledger.answers answers.told = answers := by
  rw [Answers.told, Ledger.answers, List.filterMap_map]
  exact List.filterMap_some

end Ledger

/-! ## What steps leave behind -/

/-- A step leaves behind the records, samples and phases of a ledger, and nothing else. -/
structure World.Writes (w : World κ υ) (l : Ledger κ) (w' : World κ υ) : Prop where
  journal : w'.journal = w.journal ++ l.records
  samples : w'.samples = w.samples ++ l.samples
  published : w'.orchestrator.published = w.orchestrator.published ++ l.phases

namespace World.Writes

variable {w w' : World κ υ}

/-- A step that changes no book writes the empty ledger. -/
lemma nothing (journal : w'.journal = w.journal) (samples : w'.samples = w.samples)
    (orchestrator : w'.orchestrator = w.orchestrator) : w.Writes [] w' := by
  refine ⟨?_, ?_, ?_⟩
  · rw [journal]
    exact (List.append_nil _).symm
  · rw [samples]
    exact (List.append_nil _).symm
  · rw [orchestrator]
    exact (List.append_nil _).symm

/-- Measuring a part writes just that. -/
lemma count {part : MeasuredPhase} : w.Writes [.measured part] (w.count (.phaseDuration part)) :=
  ⟨(List.append_nil _).symm, rfl, (List.append_nil _).symm⟩

/-- Publishing a phase writes just that. -/
lemma publish {phase : Phase} :
    w.Writes [.published phase] (w.changeOrchestrator fun o => o.publish phase) :=
  ⟨(List.append_nil _).symm, (List.append_nil _).symm, rfl⟩

/-- Noting what a call answered writes just that answer. -/
lemma note {c : Call κ} {outcome : Outcome} :
    w.Writes [.answered c outcome] (c.note outcome w) := by
  cases outcome with
  | ok =>
    refine ⟨(List.append_nil _).symm, ?_, (List.append_nil _).symm⟩
    show _ ++ _ = _ ++ Ledger.samples _
    simp [Ledger.samples, Item.samples, Call.samplesOf]
  | error cause =>
    refine ⟨rfl, ?_, (List.append_nil _).symm⟩
    show _ ++ _ = _ ++ Ledger.samples _
    simp [Ledger.samples, Item.samples, Call.samplesOf, World.log]

end World.Writes

/-- Steps, each with the worlds before and after it. -/
abbrev Steps (κ υ : Type) := List (World κ υ × World κ υ)

namespace Steps

/-- The records that steps add to the journal. -/
def records (steps : Steps κ υ) : List Record :=
  steps.flatMap fun s => s.2.journal.drop s.1.journal.length

/-- The samples that steps add. -/
def samples (steps : Steps κ υ) : List Metric :=
  steps.flatMap fun s => s.2.samples.drop s.1.samples.length

/-- The phases that steps publish. -/
def phases (steps : Steps κ υ) : List Phase :=
  steps.flatMap fun s =>
    s.2.orchestrator.published.drop s.1.orchestrator.published.length

/-- Steps leave behind the records, samples and phases of a ledger, and nothing else. -/
inductive Tell : Steps κ υ → Ledger κ → Prop where
  | nil :
    Tell [] []
  | cons {w w' steps items l} :
    World.Writes w items w' →
    Tell steps l →
    Tell ((w, w') :: steps) (items ++ l)

variable {steps : Steps κ υ} {l : Ledger κ}

/-- Steps that tell a ledger add its records. -/
lemma Tell.records_eq (tell : steps.Tell l) : steps.records = l.records := by
  induction tell with
  | nil => rfl
  | cons writes _ ih =>
    rw [Steps.records, List.flatMap_cons, writes.journal, List.drop_left, Ledger.records_append,
      ← ih]
    rfl

/-- Steps that tell a ledger add its samples. -/
lemma Tell.samples_eq (tell : steps.Tell l) : steps.samples = l.samples := by
  induction tell with
  | nil => rfl
  | cons writes _ ih =>
    rw [Steps.samples, List.flatMap_cons, writes.samples, List.drop_left, Ledger.samples_append,
      ← ih]
    rfl

/-- Steps that tell a ledger publish its phases. -/
lemma Tell.phases_eq (tell : steps.Tell l) : steps.phases = l.phases := by
  induction tell with
  | nil => rfl
  | cons writes _ ih =>
    rw [Steps.phases, List.flatMap_cons, writes.published, List.drop_left, Ledger.phases_append,
      ← ih]
    rfl

end Steps

/-- The answer to a call, if it has returned. -/
def Made.answer? (m : Made κ υ) : Option (Call κ × Outcome) :=
  m.outcome.map fun outcome => (m.call, outcome)

/-- The answers to the calls of a course. -/
def Course.answers (course : Course κ υ) : Answers κ :=
  course.made.filterMap Made.answer?

namespace Plan

/-- The steps that a plan itself takes in a course. -/
def ownSteps : Plan κ υ α → Course κ υ → Steps κ υ
  | act change next, .own w :: rest => (w, change w) :: (next w).ownSteps rest
  | wait _ next, .own w :: rest => (next w).ownSteps rest
  | call _ _ next, .called m :: rest =>
    match m.outcome with
    | none => []
    | some outcome => (next outcome).ownSteps rest
  | callWithin _ _ _ next, .called m :: rest => (next m.outcome).ownSteps rest
  | _, _ => []

/-! ## Plans that keep a ledger -/

/-- From a ledger on, a plan tells what each call answers, what it measures and what it publishes,
and nothing else. If it ends with a ledger and a result, then `Q` holds of them. -/
inductive Books (Q : Ledger κ → α → Prop) : Ledger κ → Plan κ υ α → Prop where
  | done {l a} :
    Q l a →
    Books Q l (.done a)
  | act {l items change next} :
    items.answers = [] →
    (∀ w : World κ υ, w.Writes items (change w)) →
    (∀ w, Books Q (l ++ items) (next w)) →
    Books Q l (.act change next)
  | wait {l trigger next} :
    (∀ w, Books Q l (next w)) →
    Books Q l (.wait trigger next)
  | attempt {l c ctx} {next : Outcome → Plan κ υ α} :
    (∀ outcome, Books Q (l ++ [.answered c outcome]) (next outcome)) →
    Books Q l (.call c ctx fun outcome => .act (c.note outcome) fun _ => next outcome)

namespace Books

variable {P : Ledger κ → α → Prop} {Q : Ledger κ → β → Prop} {l : Ledger κ}

/-- The ledger of an execution: its own steps tell it, and its answers are those of its calls. -/
theorem runs {S : Setting (World κ υ)} {b w course r u} {p : Plan κ υ α} (books : Books P l p)
    (run : p.Runs S b w course r u) :
    ∃ more : Ledger κ, (p.ownSteps course).Tell more ∧ course.answers = more.answers ∧
      ∀ a, r = some a → P (l ++ more) a := by
  induction books generalizing w course with
  | done holds =>
    cases run
    refine ⟨[], .nil, rfl, ?_⟩
    rintro _ ⟨⟩
    rw [List.append_nil]
    exact holds
  | @act l items change next silent writes _ ih =>
    cases run with
    | act _ run =>
      obtain ⟨more, tell, answers, holds⟩ := ih w run
      refine ⟨items ++ more, .cons (writes w) tell, ?_, ?_⟩
      · rw [Ledger.answers_append, silent, List.nil_append]
        exact answers
      · rw [← List.append_assoc]
        exact holds
  | wait _ ih =>
    cases run with
    | resumed _ _ run => exact ih _ run
    | waiting => exact ⟨[], .nil, rfl, nofun⟩
  | @attempt l c ctx next _ ih =>
    cases run with
    | call _ run =>
      -- the answer is noted at once
      cases run with
      | act _ run =>
        obtain ⟨more, tell, answers, holds⟩ := ih _ run
        refine ⟨_ :: more, .cons .note tell, ?_, ?_⟩
        · exact congrArg (_ :: ·) answers
        · rw [List.append_cons]
          exact holds
    | calling => exact ⟨[], .nil, rfl, nofun⟩

/-- What one plan tells, the next one goes on telling. -/
lemma bind {p : Plan κ υ α} {f : α → Plan κ υ β} (first : Books P l p)
    (rest : ∀ l a, P l a → Books Q l (f a)) : Books Q l (p >>= f) := by
  show Books Q l (Plan.bind p f)
  induction first with
  | done holds => exact rest _ _ holds
  | act silent writes _ ih => exact .act silent writes ih
  | wait _ ih => exact .wait ih
  | attempt _ ih => exact .attempt ih

/-- A weaker fact holds of the same books. -/
lemma mono {P' : Ledger κ → α → Prop} {p : Plan κ υ α} (books : Books P l p)
    (weaker : ∀ l a, P l a → P' l a) : Books P' l p := by
  induction books with
  | done holds => exact .done (weaker _ _ holds)
  | act silent writes _ ih => exact .act silent writes ih
  | wait _ ih => exact .wait ih
  | attempt _ ih => exact .attempt ih

/-- A step that leaves nothing behind. -/
lemma silent {change} {next : World κ υ → Plan κ υ β}
    (writes : ∀ w : World κ υ, w.Writes [] (change w)) (rest : ∀ w, Books Q l (next w)) :
    Books Q l (.act change next) := by
  have nothing : Ledger.answers ([] : Ledger κ) = [] := rfl
  apply act nothing writes
  rw [List.append_nil]
  exact rest

/-- Making a token tells nothing. -/
lemma freshToken_bind {rest : Token → Plan κ υ β} (next : ∀ t, Books Q l (rest t)) :
    Books Q l (.ofFlow Flow.freshToken >>= rest) :=
  silent (fun _ => .nothing rfl rfl rfl) fun _ => next _

/-- Measuring a part tells just that. -/
lemma count_bind {part : MeasuredPhase} {rest : Unit → Plan κ υ β}
    (next : Books Q (l ++ [.measured part]) (rest ())) :
    Books Q l (.ofFlow (Flow.count (.phaseDuration part)) >>= rest) :=
  .act rfl (fun _ => .count) fun _ => next

/-- Publishing a phase tells just that. -/
lemma publish_bind {phase : Phase} {rest : Unit → Plan κ υ β}
    (next : Books Q (l ++ [.published phase]) (rest ())) :
    Books Q l (.ofFlow (Flow.publish phase) >>= rest) :=
  .act rfl (fun _ => .publish) fun _ => next

/-- Waiting for a token tells nothing. -/
lemma cancelled_bind {t : Token} {rest : Unit → Plan κ υ β} (next : Books Q l (rest ())) :
    Books Q l (.ofFlow (Flow.cancelled t) >>= rest) := by
  apply silent (fun _ => .nothing rfl rfl rfl)
  intro w
  dsimp only
  split
  · exact next
  · exact .wait fun _ => next

/-! ## Calls in order -/

variable {ctx : Token} {cs : List (Call κ)}

/-- All calls are made until one fails. -/
def TriesEach (l : Ledger κ) (cs : List (Call κ)) (l' : Ledger κ) (r : Option (Call κ × Cause)) :
    Prop :=
  (r = none ∧ l' = l ++ (Answers.succeeded cs).told) ∨
    ∃ k c cause, cs[k]? = some c ∧ r = some (c, cause) ∧
      l' = l ++ (Answers.succeeded (cs.take k)).told ++ [.answered c (.error cause)]

/-- All calls are made, whatever fails. -/
def CallsEach (l : Ledger κ) (cs : List (Call κ)) (l' : Ledger κ) (failed : List LifecycleError) :
    Prop :=
  ∃ answers : Answers κ, answers.map Prod.fst = cs ∧ l' = l ++ answers.told ∧
    failed = answers.failed

/-- Calls that are tried one by one are told up to the first that fails. -/
lemma tryEach : Books (TriesEach l cs) l (tryEach ctx cs : Plan κ υ _) := by
  induction cs generalizing l with
  | nil => exact .done (.inl ⟨rfl, (List.append_nil l).symm⟩)
  | cons c rest ih =>
    apply Books.attempt
    rintro (cause | _)
    · refine .done (.inr ⟨0, c, cause, rfl, rfl, ?_⟩)
      rw [List.take_zero]
      exact congrArg (· ++ _) (List.append_nil l).symm
    · apply ih.mono
      rintro l' r (⟨rfl, rfl⟩ | ⟨k, d, cause, here, rfl, rfl⟩)
      · exact .inl ⟨rfl, List.append_assoc ..⟩
      · refine .inr ⟨k + 1, d, cause, here, rfl, ?_⟩
        rw [List.take_succ_cons, List.append_assoc l]
        rfl

/-- Calls that are made whatever fails are all told. -/
lemma callEach : Books (CallsEach l cs) l (callEach Call.note ctx cs : Plan κ υ _) := by
  induction cs generalizing l with
  | nil => exact .done ⟨[], rfl, (List.append_nil l).symm, rfl⟩
  | cons c rest ih =>
    apply Books.attempt
    intro outcome
    apply ih.bind
    rintro l' _ ⟨answers, rfl, rfl, rfl⟩
    exact .done ⟨(c, outcome) :: answers, rfl, List.append_assoc .., Answers.failed_cons.symm⟩

end Books

end Plan

/-! ## Runs -/

/-- The ledgers of a run that has got the parts of an orchestrator, with its results. -/
inductive Transcript (parts : Orchestrator κ) : Ledger κ → RunOutcome → Prop where
  /-- A component does not start, and those before it are stopped again. -/
  | rolledBack {k c cause} {undone : Answers κ} :
    (startCalls parts)[k]? = some c →
    undone.map Prod.fst = rollbackCalls parts k →
    Transcript parts
      ([.published .starting] ++ (Answers.succeeded ((startCalls parts).take k)).told ++
        [.answered c (.error cause)] ++ undone.told ++ [.published .failed])
      (.error ⟨c.error cause, undone.failed⟩)
  /-- A runner does not start, and nothing is stopped. -/
  | stoppedShort {k c cause} :
    (runnerCalls parts)[k]? = some c →
    Transcript parts
      ([.published .starting] ++ (Answers.succeeded (startCalls parts)).told ++
        [.measured .lifecycleStart] ++ (Answers.succeeded ((runnerCalls parts).take k)).told ++
        [.answered c (.error cause)] ++ [.published .failed])
      (.error (.single (c.error cause)))
  /-- Everything starts, and everything is stopped after the token is cancelled. -/
  | cameDown {answers : Answers κ} :
    answers.map Prod.fst = teardownCalls parts →
    Transcript parts
      ([.published .starting] ++ (Answers.succeeded (startCalls parts)).told ++
        [.measured .lifecycleStart] ++ (Answers.succeeded (runnerCalls parts)).told ++
        [.measured .startup] ++ [.published .running] ++ [.published .stopping] ++
        answers.told ++ [.measured .teardown] ++ [.published .stopped])
      (Errors.outcome answers.failed)

/-- The members of a result. -/
def members : RunOutcome → List LifecycleError
  | .ok () => []
  | .error es => es.toList

/-- The members of an outcome are the errors it was made from. -/
@[simp]
lemma members_outcome {es : List LifecycleError} : members (Errors.outcome es) = es := by
  cases es <;> rfl

/-- The members of a result are the failures among the answers, in their order. -/
lemma Transcript.members_eq {parts : Orchestrator κ} {l : Ledger κ} {r : RunOutcome}
    (transcript : Transcript parts l r) : members r = l.answers.failed := by
  cases transcript with
  | rolledBack => simp [members, Errors.toList, Answers.failed_cons, Call.failure?]
  | stoppedShort => simp [members, Errors.toList, Errors.single, Answers.failed_cons, Call.failure?]
  | cameDown => simp

namespace Lifecycle
open Plan Plan.Books

variable {ctx : Token} {parts : Orchestrator κ} {l : Ledger κ}

/-- How components start, from a ledger on. -/
inductive StartsComponents (parts : Orchestrator κ) (l : Ledger κ) : Ledger κ → RunOutcome → Prop
    where
  | started :
    StartsComponents parts l
      (l ++ (Answers.succeeded (startCalls parts)).told ++ [.measured .lifecycleStart]) (.ok ())
  | rolledBack {k c cause} {undone : Answers κ} :
    (startCalls parts)[k]? = some c →
    undone.map Prod.fst = rollbackCalls parts k →
    StartsComponents parts l
      (l ++ (Answers.succeeded ((startCalls parts).take k)).told ++
        [.answered c (.error cause)] ++ undone.told)
      (.error ⟨c.error cause, undone.failed⟩)

/-- How runners start, from a ledger on. -/
inductive StartsRunners (parts : Orchestrator κ) (l : Ledger κ) : Ledger κ → RunOutcome → Prop
    where
  | started :
    StartsRunners parts l (l ++ (Answers.succeeded (runnerCalls parts)).told) (.ok ())
  | stoppedShort {k c cause} :
    (runnerCalls parts)[k]? = some c →
    StartsRunners parts l
      (l ++ (Answers.succeeded ((runnerCalls parts).take k)).told ++ [.answered c (.error cause)])
      (.error (.single (c.error cause)))

/-- Undoing a start tells the answers to all its calls. -/
lemma rollback_books {stops : List (Callback κ)} :
    Books (CallsEach l (stops.mapIdx Call.rollback).reverse) l (rollback stops : Plan κ υ _) :=
  freshToken_bind fun _ => callEach

/-- What the start of components tells. -/
lemma startWithRollback_books :
    Books (StartsComponents parts l) l
      (startWithRollback ctx parts.starts parts.stops : Plan κ υ _) := by
  apply tryEach.bind
  rintro l' r (⟨rfl, rfl⟩ | ⟨k, c, cause, here, rfl, rfl⟩)
  · exact count_bind (.done .started)
  · have place : c.index = k := by
      rw [List.getElem?_mapIdx] at here
      obtain ⟨callback, -, rfl⟩ := Option.map_eq_some_iff.1 here
      rfl
    subst place
    apply rollback_books.bind
    rintro l' _ ⟨undone, calls, rfl, rfl⟩
    exact .done (.rolledBack here calls)

/-- What the start of runners tells. -/
lemma startRunners_books :
    Books (StartsRunners parts l) l (startRunners ctx parts.runners : Plan κ υ _) := by
  apply tryEach.bind
  rintro l' r (⟨rfl, rfl⟩ | ⟨k, c, cause, here, rfl, rfl⟩)
  · exact .done .started
  · exact .done (.stoppedShort here)

/-- A teardown tells the answers to all its calls and that it was measured. Its result are the
failures among them. -/
lemma teardown_books :
    Books (fun l' r => ∃ answers : Answers κ, answers.map Prod.fst = teardownCalls parts ∧
        l' = l ++ answers.told ++ [.measured .teardown] ∧ r = Errors.outcome answers.failed)
      l (teardown parts : Plan κ υ _) := by
  apply freshToken_bind
  intro t
  apply callEach.bind
  rintro l' _ ⟨answers, calls, rfl, rfl⟩
  exact count_bind (.done ⟨answers, calls, rfl, rfl⟩)

/-- What a startup tells: either the start of the components failed, or the runners were started
after them. -/
lemma startParts_books :
    Books (fun l' r => (StartsComponents parts l l' r ∧ r ≠ .ok ()) ∨
        StartsRunners parts (l ++ (Answers.succeeded (startCalls parts)).told ++
          [.measured .lifecycleStart]) l' r)
      l (startParts ctx parts : Plan κ υ _) := by
  apply startWithRollback_books.bind
  rintro l' r components
  cases components with
  | started => exact startRunners_books.mono fun _ _ runners => .inr runners
  | rolledBack here calls => exact .done (.inl ⟨.rolledBack here calls, nofun⟩)

/-- The ledger of a run that has got its parts. -/
theorem runParts_books : Books (Transcript parts) [] (runParts ctx parts : Plan κ υ _) := by
  apply publish_bind
  apply startParts_books.bind
  rintro l r (⟨components, failed⟩ | runners)
  · cases components with
    | started => exact absurd rfl failed
    | rolledBack here calls => exact publish_bind (.done (.rolledBack here calls))
  · cases runners with
    | stoppedShort here => exact publish_bind (.done (.stoppedShort here))
    | started =>
      apply count_bind
      apply publish_bind
      apply cancelled_bind
      apply publish_bind
      apply teardown_books.bind
      rintro l _ ⟨answers, calls, rfl, rfl⟩
      exact publish_bind (.done (.cameDown calls))

/-- The ledger of a run. Its answers are those of the calls that were made, and its records, samples
and phases are what the steps of the run itself have added. -/
theorem run_transcript {S : Setting (World κ υ)} {b : Behaviour κ υ} {w course r u}
    (exec : (run ctx).Runs S b w course r u) (unclaimed : w.orchestrator.claimed = false) :
    ∃ l : Ledger κ, ((run ctx).ownSteps course).Tell l ∧ course.answers = l.answers ∧
      ∀ result, r = some result → Transcript w.orchestrator l result := by
  obtain ⟨t, rest, rfl, exec'⟩ := run_unclaimed exec unclaimed
  obtain ⟨l, tell, answers, ends⟩ := runParts_books.runs exec'
  have steps : (run ctx).ownSteps (.own w :: rest) =
      (w, (claim w).2) :: (runParts ctx w.orchestrator.taken).ownSteps rest := by
    rw [run_eq, ownSteps, claim_unclaimed unclaimed]
  have claims : w.Writes [] (claim w).2 := by
    rw [claim_unclaimed unclaimed]
    exact ⟨(List.append_nil _).symm, (List.append_nil _).symm, (List.append_nil _).symm⟩
  refine ⟨l, ?_, answers, fun result ended => ?_⟩
  · rw [steps]
    exact .cons claims tell
  · cases ends result ended with
    | rolledBack here calls => exact .rolledBack here calls
    | stoppedShort here => exact .stoppedShort here
    | cameDown calls => exact .cameDown calls

end Lifecycle

end Supervision
