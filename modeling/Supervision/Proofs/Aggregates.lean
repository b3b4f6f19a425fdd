import Mathlib.Data.List.Basic
import Supervision.Proofs.Ledger
import Supervision.Proofs.Linearization

/-!
# Aggregates of errors

Where aggregates of errors come from, and what their texts tell. `Built` makes them as lists that
could be empty, and are not; `run_reports` and its like say which list each operation reports. An
error can have an aggregate inside, to any depth: `Failure.standsAt_place` finds the text of each
failure in the text of the outermost one, and `Failure.place_lt` keeps them in order.
-/

namespace Supervision

/-! ## Building -/

section
variable {ε : Type}

/-- A list of failures, as an error if there is one. -/
def collect (failures : List ε) : Except (List ε) Unit :=
  if failures.isEmpty then .ok () else .error failures

/-- The members of an aggregate, built from a single error or from a list of failures. -/
inductive Built : List ε → Prop where
  | single {e} :
    Built [e]
  | collected {failures members} :
    collect failures = .error members →
    Built members

/-- Collecting fails with just these failures, if there are any. -/
lemma collect_eq_error_iff {failures members : List ε} :
    collect failures = .error members ↔ failures = members ∧ members ≠ [] := by
  rw [collect]
  cases failures with
  | nil => simp [eq_comm]
  | cons e es => simpa using fun same => same ▸ List.cons_ne_nil e es

/-- What is built has at least one member. -/
lemma Built.ne_nil {members : List ε} (built : Built members) : members ≠ [] := by
  cases built with
  | single => exact List.cons_ne_nil _ _
  | collected failed => exact (collect_eq_error_iff.1 failed).2

/-- What is built has a first member, as the type of aggregates says. -/
lemma built_iff {members : List ε} : Built members ↔ ∃ es : Errors ε, es.toList = members := by
  constructor
  · intro built
    obtain ⟨e, others, rfl⟩ := List.exists_cons_of_ne_nil built.ne_nil
    exact ⟨⟨e, others⟩, rfl⟩
  · rintro ⟨es, rfl⟩
    exact .collected (collect_eq_error_iff.2 ⟨rfl, List.cons_ne_nil _ _⟩)

/-- Collecting and the outcome of failures are the same, up to the kind of aggregate. -/
lemma collect_eq_outcome (failures : List ε) :
    collect failures = (Errors.outcome failures).mapError Errors.toList := by
  cases failures <;> rfl

/-- The outcome is a success if there is no failure, and only then. -/
lemma outcome_eq_ok_iff {failures : List ε} : Errors.outcome failures = .ok () ↔ failures = [] := by
  cases failures <;> simp [Errors.outcome]

end

/-! ## Operations that report -/

/-- An activity that ends gives a result for which `Q` holds. -/
inductive Activity.Gives {σ α : Type} (Q : α → Prop) : Activity σ α → Prop where
  | done {a} :
    Q a →
    Gives Q (.done a)
  | act {change next} :
    (∀ s, Gives Q (next s)) →
    Gives Q (.act change next)
  | wait {trigger next} :
    (∀ s, Gives Q (next s)) →
    Gives Q (.wait trigger next)

namespace Activity.Gives

variable {σ α β : Type} {P : α → Prop} {Q : β → Prop} {p : Activity σ α} {f : α → Activity σ β}

/-- A run that ends has given a result of the kind the activity gives. -/
lemma runs {S : Setting σ} {s u : σ} {a : α} (gives : p.Gives P) (run : p.Runs S s (some a) u) :
    P a := by
  induction gives generalizing s with
  | done holds =>
    cases run
    exact holds
  | act _ ih =>
    cases run with
    | act _ run => exact ih _ run
  | wait _ ih =>
    cases run with
    | resumed _ _ run => exact ih _ run

/-- What comes second gives the result. -/
lemma bind (first : p.Gives P) (rest : ∀ a, P a → (f a).Gives Q) : (p.bind f).Gives Q := by
  induction first with
  | done holds => exact rest _ holds
  | act _ ih => exact .act ih
  | wait _ ih => exact .wait ih

/-- Any activity gives some result. -/
lemma any (p : Activity σ α) : p.Gives fun _ => True := by
  induction p with
  | done => exact .done trivial
  | act _ _ ih => exact .act ih
  | wait _ _ ih => exact .wait ih

/-- What an activity does first has no influence. -/
lemma of_rest (rest : ∀ a, (f a).Gives Q) : (p.bind f).Gives Q :=
  (any p).bind fun a _ => rest a

/-- A step gives what it makes of some world. -/
lemma step (f : σ → α × σ) : (step f).Gives fun a => ∃ s, a = (f s).1 :=
  .act fun s => .done ⟨s, rfl⟩

/-- A look gives what is seen in some world. -/
lemma look (f : σ → α) : (look f).Gives fun a => ∃ s, a = f s :=
  .act fun s => .done ⟨s, rfl⟩

/-- A look after a wait gives what is seen in some world. -/
lemma awaitLook (trigger : Trigger σ) (f : σ → α) :
    (awaitLook trigger f).Gives fun a => ∃ s, a = f s := by
  refine .act fun s => ?_
  split
  · exact .done ⟨s, rfl⟩
  · exact .wait fun s => .done ⟨s, rfl⟩

end Activity.Gives

namespace Server
open Activity

variable {κ υ : Type} {S : Setting (World κ υ)} {w u : World κ υ} {task id ms : Nat} {ctx : Token}

/-- What a stop reports joins what the race says, as it is decided in one world, and the error of
the task, if one waits in its slot in another. -/
def Joins (κ υ : Type) (task ms : Nat) (ctx : Token) (r : Except (Errors ServerError) Unit) :
    Prop :=
  ∃ start decided drained : World κ υ,
    r = Errors.outcome
      ((raceIn task (start.now + ms) ctx decided).toList.flatMap (raceFailure ms) ++
        (drainSlot task drained).1.toList)

/-- The stop of a task gives what the race says, joined with the error of the task. -/
lemma stopTask_gives : (stopTask task ms ctx : Flow κ υ _).Gives (Joins κ υ task ms ctx) := by
  refine .of_rest fun _ => (Gives.look _).bind ?_
  rintro _ ⟨start, rfl⟩
  refine (Gives.awaitLook _ _).bind ?_
  rintro _ ⟨decided, rfl⟩
  have ends : (Activity.step (drainSlot task) >>= fun reported =>
      (pure (Errors.outcome
        ((raceIn task (start.now + ms) ctx decided).toList.flatMap (raceFailure ms) ++
          reported.toList)) : Flow κ υ _)).Gives (Joins κ υ task ms ctx) := by
    refine (Gives.step _).bind ?_
    rintro _ ⟨drained, rfl⟩
    exact .done ⟨start, decided, drained, rfl⟩
  dsimp only
  split
  · exact ends
  · exact .of_rest fun _ => ends

/-- The shutdown of a server gives a success, or what the stop of its task gives. -/
lemma shutdown_gives :
    (shutdown id ctx : Flow κ υ _).Gives fun r =>
      r = .ok () ∨ ∃ task ms, Joins κ υ task ms ctx r := by
  refine .of_rest fun taken => ?_
  cases taken with
  | none => exact .done (.inl rfl)
  | some taken =>
    refine stopTask_gives.bind fun r joins => .of_rest fun _ => ?_
    have ends : (pure r : Flow κ υ _).Gives fun r =>
        r = .ok () ∨ ∃ task ms, Joins κ υ task ms ctx r :=
      .done (.inr ⟨_, _, joins⟩)
    dsimp only
    split
    · exact .of_rest fun _ => ends
    · exact ends

end Server

namespace Lifecycle
open Plan Plan.Books

variable {κ υ : Type} {S : Setting (World κ υ)} {b : Behaviour κ υ} {w u : World κ υ}
  {course : Course κ υ} {ctx : Token} {starts stops : List (Callback κ)} {parts : Orchestrator κ}
  {r : RunOutcome}

/-- A result has these members again. -/
lemma outcome_members : Errors.outcome (members r) = r := by
  cases r <;> rfl

/-- A run reports the failures of its calls, unless another one has claimed the orchestrator. -/
lemma run_reports (exec : (run ctx).Runs S b w course (some r) u) :
    w.orchestrator.claimed = true ∧ r = .error (.single .alreadyRun) ∨
      r = Errors.outcome course.answers.failed := by
  cases claimed : w.orchestrator.claimed with
  | true =>
    rw [run_eq] at exec
    cases exec with
    | act _ exec =>
      simp only [claim_claimed claimed] at exec
      cases exec
      exact .inl ⟨rfl, rfl⟩
  | false =>
    obtain ⟨l, -, answers, ends⟩ := run_transcript exec claimed
    rw [answers, ← (ends r rfl).members_eq, outcome_members]
    exact .inr rfl

/-- A start reports the failures of its calls. -/
lemma startWithRollback_reports
    (exec : (startWithRollback ctx starts stops).Runs S b w course (some r) u) :
    r = Errors.outcome course.answers.failed := by
  have books : Books (fun l r => r = Errors.outcome l.answers.failed) []
      (startWithRollback ctx starts stops : Plan κ υ _) := by
    apply tryEach.bind
    rintro _ _ (⟨rfl, rfl⟩ | ⟨k, c, cause, -, rfl, rfl⟩)
    · have none : [] = (Ledger.answers (([] ++ (Answers.succeeded (starts.mapIdx .start)).told) ++
          [.measured .lifecycleStart] : Ledger κ)).failed := by simp
      exact count_bind (.done (congrArg Errors.outcome none))
    · apply rollback_books.bind
      rintro _ _ ⟨undone, -, rfl, rfl⟩
      have all : c.error cause :: undone.failed = (Ledger.answers
          (([] ++ (Answers.succeeded ((starts.mapIdx .start).take k)).told ++
            [.answered c (.error cause)]) ++ undone.told : Ledger κ)).failed := by
        simp [Answers.failed_cons, Call.failure?]
      exact .done (congrArg Errors.outcome all)
  obtain ⟨l, -, answers, holds⟩ := books.runs exec
  rw [holds r rfl, answers]
  rfl

/-- A teardown reports the failures of its calls. -/
lemma teardown_reports (exec : (teardown parts).Runs S b w course (some r) u) :
    r = Errors.outcome course.answers.failed := by
  obtain ⟨_, -, answers, holds⟩ := (teardown_books (l := [])).runs exec
  obtain ⟨told, -, rfl, rfl⟩ := holds r rfl
  rw [answers]
  simp

end Lifecycle

/-! ## Texts -/

/-- A text stands in another one, from a place on. -/
def StandsAt (place : Nat) (text whole : String) : Prop :=
  ∃ before after, whole = before ++ text ++ after ∧ before.length = place

namespace StandsAt

variable {text middle whole : String} {place place' : Nat}

/-- A text stands in itself, from its beginning on. -/
lemma refl : StandsAt 0 text text :=
  ⟨"", "", by simp, rfl⟩

/-- What stands in an inner text stands in the outer one, further on. -/
lemma trans (inner : StandsAt place text middle) (outer : StandsAt place' middle whole) :
    StandsAt (place' + place) text whole := by
  obtain ⟨before, after, rfl, rfl⟩ := inner
  obtain ⟨before', after', rfl, rfl⟩ := outer
  refine ⟨before' ++ before, after ++ after', ?_, String.length_append before' before⟩
  simp only [String.append_assoc]

/-- A text ends in the text in which it stands. -/
lemma length_le (stands : StandsAt place text whole) : place + text.length ≤ whole.length := by
  obtain ⟨before, after, rfl, rfl⟩ := stands
  simp only [String.length_append]
  omega

end StandsAt

/-- Where the text of number `i` begins among several, each on a line of its own. -/
def lineStart : List String → Nat → Nat
  | [], _ => 0
  | _, 0 => 0
  | text :: texts, i + 1 => text.length + 1 + lineStart texts i

section
variable {texts : List String} {text text' : String} {i j : Nat}

/-- Each text stands on a line of its own. -/
lemma standsAt_line (here : texts[i]? = some text) :
    StandsAt (lineStart texts i) text ("\n".intercalate texts) := by
  induction texts generalizing i with
  | nil => cases here
  | cons first texts ih =>
    -- no line ends after the last text
    by_cases last : texts = []
    · subst last
      cases i with
      | zero =>
        cases here
        rw [String.intercalate_singleton]
        exact .refl
      | succ i => cases here
    · rw [String.intercalate_cons_of_ne_nil last]
      cases i with
      | zero =>
        cases here
        exact ⟨"", "\n" ++ "\n".intercalate texts, by simp [String.append_assoc], rfl⟩
      | succ i =>
        have later : StandsAt (first.length + 1) ("\n".intercalate texts)
            (first ++ "\n" ++ "\n".intercalate texts) :=
          ⟨first ++ "\n", "", by simp, String.length_append first "\n"⟩
        exact (ih here).trans later

/-- Texts on different lines are apart, and in order. -/
lemma lineStart_lt (before : i < j) (here : texts[i]? = some text)
    (there : texts[j]? = some text') : lineStart texts i + text.length < lineStart texts j := by
  induction texts generalizing i j with
  | nil => cases here
  | cons first texts ih =>
    cases j with
    | zero => exact absurd before (Nat.not_lt_zero i)
    | succ j =>
      cases i with
      | zero =>
        cases here
        simp only [lineStart]
        omega
      | succ i =>
        have later := ih (Nat.lt_of_succ_lt_succ before) here there
        simp only [lineStart]
        omega

end

/-- The text of joined aggregates: that of the one, a line break, and that of the other. -/
lemma Errors.text_append {ε : Type} {message : ε → String} {es es' both : Errors ε}
    (joined : both.toList = es.toList ++ es'.toList) :
    both.text message = es.text message ++ "\n" ++ es'.text message := by
  have some (es : Errors ε) : es.toList.map message ≠ [] := List.cons_ne_nil _ _
  rw [Errors.text, joined, List.map_append,
    String.intercalate_append_of_ne_nil (some es) (some es')]
  rfl

/-! ## Failures inside failures -/

/-- A failure of any kind: a reason, or what a server or a run reports. -/
inductive Failure where
  | cause (c : Cause)
  | server (e : ServerError)
  | lifecycle (e : LifecycleError)

/-- The texts of an aggregate of a server are the messages of its members. -/
lemma serverTexts_eq (es : Errors ServerError) :
    serverTexts es = es.toList.map ServerError.message := by
  have list (es : List ServerError) : serverListTexts es = es.map ServerError.message := by
    induction es with
    | nil => rfl
    | cons e es ih => exact congrArg (e.message :: ·) ih
  obtain ⟨e, others⟩ := es
  exact congrArg (e.message :: ·) (list others)

/-- The texts of an aggregate of a run are the messages of its members. -/
lemma lifecycleTexts_eq (es : Errors LifecycleError) :
    lifecycleTexts es = es.toList.map LifecycleError.message := by
  have list (es : List LifecycleError) : lifecycleListTexts es = es.map LifecycleError.message := by
    induction es with
    | nil => rfl
    | cons e es ih => exact congrArg (e.message :: ·) ih
  obtain ⟨e, others⟩ := es
  exact congrArg (e.message :: ·) (list others)

namespace Failure

/-- The text of a failure. -/
def text : Failure → String
  | cause c => c.message
  | server e => e.message
  | lifecycle e => e.message

/-- What the text of a failure says before it comes to what is inside. -/
def words : Failure → String
  | cause (.text message) => message
  | cause (.server _) => ""
  | cause (.lifecycle _) => ""
  | server (.bind address _) => "failed to listen on " ++ address ++ ": "
  | server (.serve _) => "serve loop failed: "
  | server (.reflection _) => "grpc reflection: "
  | server e => e.message
  | lifecycle (.start index _) => "lifecycle start [" ++ toString index ++ "]: "
  | lifecycle (.rollback index _) => "lifecycle rollback [" ++ toString index ++ "]: "
  | lifecycle (.runnerStart runner _) => "runner start (" ++ runner ++ "): "
  | lifecycle (.runnerStop runner _) => "runner stop (" ++ runner ++ "): "
  | lifecycle (.stop index _) => "lifecycle stop [" ++ toString index ++ "]: "
  | lifecycle (.shutdownHook index _) => "shutdown hook [" ++ toString index ++ "]: "
  | lifecycle e => e.message

/-- The failures on the next level: the members of an aggregate, or what lies behind an error. -/
def inner : Failure → List Failure
  | cause (.text _) => []
  | cause (.server es) => es.toList.map server
  | cause (.lifecycle es) => es.toList.map lifecycle
  | server (.bind _ reason) => [cause (.text reason)]
  | server (.serve c) => [cause c]
  | server (.reflection reason) => [cause (.text reason)]
  | server _ => []
  | lifecycle e => (e.cause?.map cause).toList

/-- The failure inside at the end of a path, which has a number for each level. -/
def at? : Failure → List Nat → Option Failure
  | f, [] => some f
  | f, i :: path => f.inner[i]?.bind fun g => g.at? path

/-- Where the text of the failure at the end of a path begins. -/
def place : Failure → List Nat → Nat
  | _, [] => 0
  | f, i :: path =>
    f.words.length + lineStart (f.inner.map text) i +
      f.inner[i]?.elim 0 fun g => g.place path

variable {f g h : Failure} {path path' common rest : List Nat} {i j : Nat}

/-- The text of a failure is its own words and then the texts inside, each one on a line of its
own. -/
lemma text_eq (f : Failure) : f.text = f.words ++ "\n".intercalate (f.inner.map text) := by
  -- an error has nothing inside, or one cause after its words, or is a list
  have alone (words : String) : words = words ++ "\n".intercalate [] := by simp
  have ahead (words : String) (c : Cause) :
      words ++ c.message = words ++ "\n".intercalate [(cause c).text] := by
    rw [String.intercalate_singleton]
    rfl
  cases f with
  | cause c =>
    cases c with
    | text message => exact alone message
    | server es =>
      have members : serverTexts es = (es.toList.map server).map text := by
        rw [serverTexts_eq, List.map_map]
        rfl
      exact (congrArg ("\n".intercalate ·) members).trans String.empty_append.symm
    | lifecycle es =>
      have members : lifecycleTexts es = (es.toList.map lifecycle).map text := by
        rw [lifecycleTexts_eq, List.map_map]
        rfl
      exact (congrArg ("\n".intercalate ·) members).trans String.empty_append.symm
  | server e =>
    cases e with
    | bind address reason => exact ahead _ (.text reason)
    | serve c => exact ahead _ c
    | reflection reason => exact ahead _ (.text reason)
    | _ => exact alone _
  | lifecycle e =>
    cases e with
    | alreadyRun => exact alone _
    | httpAlreadyConfigured => exact alone _
    | healthCheckNameRequired => exact alone _
    | _ => exact ahead _ _

/-- The texts inside stand in the order of the failures inside. -/
lemma getElem?_texts (here : f.inner[i]? = some g) : (f.inner.map text)[i]? = some g.text := by
  rw [List.getElem?_map, here, Option.map_some]

/-- The text of a failure one level below stands after the words and the lines before it. -/
lemma standsAt_inner (here : f.inner[i]? = some g) :
    StandsAt (f.words.length + lineStart (f.inner.map text) i) g.text f.text := by
  rw [text_eq f]
  exact (standsAt_line (getElem?_texts here)).trans ⟨f.words, "", by simp, rfl⟩

/-- The first number of a path leads to the next level, and the rest goes on from there. -/
lemma at?_cons : f.at? (i :: path) = f.inner[i]?.bind (·.at? path) := rfl

/-- The place of a failure further inside is counted from the place of the one around it. -/
lemma place_cons (here : f.inner[i]? = some g) :
    f.place (i :: path) =
      f.words.length + lineStart (f.inner.map text) i + g.place path := by
  rw [place, here, Option.elim_some]

/-- The text of a failure on any level stands at its place in the text of the outermost one. -/
lemma standsAt_place (here : f.at? path = some g) : StandsAt (f.place path) g.text f.text := by
  induction path generalizing f with
  | nil =>
    cases here
    exact .refl
  | cons i path ih =>
    obtain ⟨h, below, here⟩ := Option.bind_eq_some_iff.1 here
    rw [place_cons below]
    exact (ih here).trans (standsAt_inner below)

/-- A path may be followed in two parts. -/
lemma at?_append (path rest : List Nat) (f : Failure) :
    f.at? (path ++ rest) = (f.at? path).bind (·.at? rest) := by
  induction path generalizing f with
  | nil => rfl
  | cons i path ih =>
    rw [List.cons_append, at?_cons, at?_cons]
    cases f.inner[i]? with
    | none => rfl
    | some g => exact ih g

/-- The places along two parts of a path add up. -/
lemma place_append (here : f.at? path = some g) :
    f.place (path ++ rest) = f.place path + g.place rest := by
  induction path generalizing f with
  | nil =>
    cases here
    exact (Nat.zero_add _).symm
  | cons i path ih =>
    obtain ⟨h, below, here⟩ := Option.bind_eq_some_iff.1 here
    rw [List.cons_append, place_cons below, place_cons below, ih here]
    exact (Nat.add_assoc _ _ _).symm

/-- What is inside of a failure stands inside of its text. -/
lemma place_within (here : f.at? path = some g) (inside : f.at? (path ++ rest) = some h) :
    f.place path ≤ f.place (path ++ rest) ∧
      f.place (path ++ rest) + h.text.length ≤ f.place path + g.text.length := by
  rw [at?_append, here, Option.bind_some] at inside
  rw [place_append here]
  have short := (standsAt_place inside).length_le
  omega

/-- Failures that are not inside of one another stand in order, and apart. -/
lemma place_lt (before : i < j) (here : f.at? (common ++ i :: path) = some g)
    (there : f.at? (common ++ j :: path') = some h) :
    f.place (common ++ i :: path) + g.text.length < f.place (common ++ j :: path') := by
  rw [at?_append] at here there
  obtain ⟨o, outer, here⟩ := Option.bind_eq_some_iff.1 here
  rw [outer, Option.bind_some] at there
  obtain ⟨g', left, here⟩ := Option.bind_eq_some_iff.1 here
  obtain ⟨h', right, there⟩ := Option.bind_eq_some_iff.1 there
  rw [place_append outer, place_append outer, place_cons left, place_cons right]
  have apart := lineStart_lt before (getElem?_texts left) (getElem?_texts right)
  have short := (standsAt_place here).length_le
  omega

/-- The text of a failure is made of words of its own and of the texts one level below. It has the
texts of all failures inside, on every level: each one at its place, within the text of the failure
around it, and after the texts of all that come before it. -/
structure Displays (f : Failure) : Prop where
  parts : f.text = f.words ++ "\n".intercalate (f.inner.map text)
  stands : ∀ path g, f.at? path = some g → StandsAt (f.place path) g.text f.text
  within : ∀ path rest g h, f.at? path = some g → f.at? (path ++ rest) = some h →
    f.place path ≤ f.place (path ++ rest) ∧
      f.place (path ++ rest) + h.text.length ≤ f.place path + g.text.length
  apart : ∀ common path path' i j g h, i < j → f.at? (common ++ i :: path) = some g →
    f.at? (common ++ j :: path') = some h →
    f.place (common ++ i :: path) + g.text.length < f.place (common ++ j :: path')

/-- By induction on the path, every failure inside has its text at its place. -/
lemma displays (f : Failure) : f.Displays where
  parts := f.text_eq
  stands _ _ := standsAt_place
  within _ _ _ _ := place_within
  apart _ _ _ _ _ _ _ := place_lt

end Failure

/-! ## All aggregates -/

variable {κ υ : Type}

/-- What the operations that report errors report: the failures of their calls, and of the race and
the task of a server. -/
structure Reporting (S : Setting (World κ υ)) (b : Behaviour κ υ) (w u : World κ υ)
    (course : Course κ υ) : Prop where
  run : ∀ ctx r, (Lifecycle.run ctx).Runs S b w course (some r) u →
    w.orchestrator.claimed = true ∧ r = .error (.single .alreadyRun) ∨
      r = Errors.outcome course.answers.failed
  startWithRollback : ∀ ctx starts stops r,
    (Lifecycle.startWithRollback ctx starts stops).Runs S b w course (some r) u →
      r = Errors.outcome course.answers.failed
  teardown : ∀ parts r, (Lifecycle.teardown parts).Runs S b w course (some r) u →
    r = Errors.outcome course.answers.failed
  stopTask : ∀ task ms ctx r, (Server.stopTask task ms ctx).Runs S w (some r) u →
    Server.Joins κ υ task ms ctx r
  shutdown : ∀ id ctx r, (Server.shutdown id ctx).Runs S w (some r) u →
    r = .ok () ∨ ∃ task ms, Server.Joins κ υ task ms ctx r

/-- All operations report the failures of their calls, whatever the setting is. -/
lemma reporting (S : Setting (World κ υ)) (b : Behaviour κ υ) (w u : World κ υ)
    (course : Course κ υ) : Reporting S b w u course where
  run _ _ := Lifecycle.run_reports
  startWithRollback _ _ _ _ := Lifecycle.startWithRollback_reports
  teardown _ _ := Lifecycle.teardown_reports
  stopTask _ _ _ _ := Server.stopTask_gives.runs
  shutdown _ _ _ := Server.shutdown_gives.runs

/-- Aggregates are never empty, and lose no text. However one is built, it has a first member, and
what reports a list of failures fails if and only if there is one. The text of joined aggregates is
that of the one, a line break, and that of the other. The text of an aggregate has the texts of all
failures in it, to any depth and in order. -/
theorem aggregates_lose_nothing :
    (∀ (ε : Type) (members : List ε),
      (Built members ↔ ∃ es : Errors ε, es.toList = members) ∧ (Built members → members ≠ [])) ∧
      (∀ (ε : Type) (es : Errors ε),
        es.toList[0]? = some es.first ∧ es.toList.isEmpty = false ∧ es.size ≠ 0) ∧
      (∀ (ε : Type) (failures : List ε),
        collect failures = (Errors.outcome failures).mapError Errors.toList ∧
          (Errors.outcome failures = .ok () ↔ failures = [])) ∧
      (∀ (S : Setting (World κ υ)) b w u course, Reporting S b w u course) ∧
      (∀ (ε : Type) (message : ε → String) (es es' both : Errors ε),
        both.toList = es.toList ++ es'.toList →
        both.text message = es.text message ++ "\n" ++ es'.text message) ∧
      (∀ es : Errors LifecycleError,
        es.text LifecycleError.message = (Failure.cause (.lifecycle es)).text) ∧
      (∀ es : Errors ServerError,
        es.text ServerError.message = (Failure.cause (.server es)).text) ∧
      ∀ f : Failure, f.Displays := by
  refine ⟨fun ε members => ⟨built_iff, Built.ne_nil⟩, fun ε es => ⟨rfl, rfl, nofun⟩,
    fun ε failures => ⟨collect_eq_outcome failures, outcome_eq_ok_iff⟩, reporting,
    fun ε message es es' both => Errors.text_append, fun es => ?_, fun es => ?_,
    Failure.displays⟩
  · exact congrArg ("\n".intercalate ·) (lifecycleTexts_eq es).symm
  · exact congrArg ("\n".intercalate ·) (serverTexts_eq es).symm

/-- A server that has failed is forced down, and a hook fails with what another run reports. -/
theorem aggregates_lose_nothing_nested :
    let forced : Errors ServerError := ⟨.shutdownCancelled, [.serve (.text "broken pipe")]⟩
    let again : Errors LifecycleError := .single .alreadyRun
    let es : Errors LifecycleError :=
      ⟨.runnerStop "http" (.server forced), [.shutdownHook 0 (.lifecycle again)]⟩
    let f : Failure := .cause (.lifecycle es)
    Built es.toList ∧ es.toList ≠ [] ∧
      es.text LifecycleError.message = f.text ∧
      f.text = "runner stop (http): graceful shutdown interrupted by cancellation\n" ++
        "serve loop failed: broken pipe\nshutdown hook [0]: orchestrator has already been run" ∧
      StandsAt 66 "serve loop failed: broken pipe" f.text ∧
      StandsAt 116 "orchestrator has already been run" f.text ∧
      f.place [0, 0, 1] + "serve loop failed: broken pipe".length < f.place [1, 0, 0] := by
  intro forced again es f
  obtain ⟨built, -, -, -, -, texts, -, displays⟩ :=
    aggregates_lose_nothing (κ := Unit) (υ := Unit)
  have made : Built es.toList := (built _ _).1.2 ⟨es, rfl⟩
  let broken : Failure := .server (.serve (.text "broken pipe"))
  let rerun : Failure := .lifecycle .alreadyRun
  have brokenText : broken.text = "serve loop failed: broken pipe" := by decide +kernel
  have rerunText : rerun.text = "orchestrator has already been run" := by decide +kernel
  have brokenPlace : f.place [0, 0, 1] = 66 := by decide +kernel
  have rerunPlace : f.place [1, 0, 0] = 116 := by decide +kernel
  rw [← brokenText, ← rerunText, ← brokenPlace, ← rerunPlace]
  refine ⟨made, (built _ _).2 made, texts es, by decide +kernel, ?_, ?_, ?_⟩
  · exact (displays f).stands [0, 0, 1] broken rfl
  · exact (displays f).stands [1, 0, 0] rerun rfl
  · exact (displays f).apart [] [0, 1] [0, 0] 0 1 broken rerun Nat.zero_lt_one rfl rfl

end Supervision
