import Supervision.Proofs.Course

/-!
# The calls of plans

`Plan.Makes` is what most plans come down to: if calls end as `choice` says, then the plan makes
these calls, in this order, and ends with this result. `Plan.Makes.runs` says so of the executions,
and `Plan.Makes.exists_runs` finds one. `Plan.callEach_makes` is for calls of which all are made,
`Plan.tryEach_makes` and `Plan.tryEach_fails` are for calls that end with the first failure.
-/

namespace Supervision

variable {κ υ α β : Type} {choice : Call κ → Outcome}

/-- The failures among calls, in order. -/
def failures (choice : Call κ → Outcome) (cs : List (Call κ)) : List LifecycleError :=
  cs.filterMap fun c => c.failure? (choice c)

/-- Every call succeeds. -/
def Succeed (choice : Call κ → Outcome) (cs : List (Call κ)) : Prop :=
  ∀ c ∈ cs, choice c = .ok ()

/-- The call at place `k` fails, and every call before it succeeds. -/
structure FirstFailure (choice : Call κ → Outcome) (cs : List (Call κ)) (k : Nat)
    (cause : Cause) : Prop where
  fails : (cs[k]?).map choice = some (.error cause)
  before : Succeed choice (cs.take k)

/-- No call fails among none. -/
@[simp] lemma failures_nil : failures choice [] = [] := rfl

/-- The failures are that of the first call, if there is one, and those of the rest. -/
@[simp] lemma failures_cons {c cs} :
    failures choice (c :: cs) = (c.failure? (choice c)).toList ++ failures choice cs := by
  rw [failures, failures, List.filterMap_cons]
  cases c.failure? (choice c) <;> rfl

/-- All of no calls succeed. -/
@[simp] lemma succeed_nil : Succeed choice [] := nofun

/-- All calls succeed if the first one and the rest do. -/
@[simp] lemma succeed_cons {c cs} :
    Succeed choice (c :: cs) ↔ choice c = .ok () ∧ Succeed choice cs := by
  simp [Succeed]

/-- All of two lists of calls succeed if those of each do. -/
lemma succeed_append {cs cs'} :
    Succeed choice (cs ++ cs') ↔ Succeed choice cs ∧ Succeed choice cs' := by
  simp [Succeed, or_imp, forall_and]

/-- Calls succeed up to a first failure, or all of them do. -/
lemma succeed_or_firstFailure (choice : Call κ → Outcome) (cs : List (Call κ)) :
    Succeed choice cs ∨ ∃ k cause, FirstFailure choice cs k cause := by
  induction cs with
  | nil => exact .inl succeed_nil
  | cons c rest ih =>
    cases here : choice c with
    | error cause => exact .inr ⟨0, cause, by simp [here], nofun⟩
    | ok =>
      obtain succeed | ⟨k, cause, fails, before⟩ := ih
      · exact .inl (succeed_cons.2 ⟨here, succeed⟩)
      · exact .inr ⟨k + 1, cause, fails, succeed_cons.2 ⟨here, before⟩⟩

/-- The call that fails first is the one of the part at that place. -/
lemma FirstFailure.part {π : Type} {parts : List π} {f : Nat → π → Call κ} {k cause}
    (first : FirstFailure choice (parts.mapIdx f) k cause) :
    ∃ part, parts[k]? = some part ∧ (parts.mapIdx f)[k]? = some (f k part) ∧
      choice (f k part) = .error cause := by
  have fails := first.fails
  rw [List.getElem?_mapIdx] at fails ⊢
  cases place : parts[k]? with
  | none =>
    rw [place] at fails
    cases fails
  | some part =>
    rw [place] at fails
    exact ⟨part, rfl, rfl, Option.some.inj fails⟩

namespace Plan

/-- If calls end as `choice` says, the plan makes these calls and ends with this result. -/
inductive Makes (choice : Call κ → Outcome) : Plan κ υ α → List (Call κ) → α → Prop where
  | done {a} :
    Makes choice (.done a) [] a
  | act {change next cs a} :
    (∀ w, Makes choice (next w) cs a) →
    Makes choice (.act change next) cs a
  | call {c ctx next cs a} :
    Makes choice (next (choice c)) cs a →
    Makes choice (.call c ctx next) (c :: cs) a

/-- The calls and the result of an execution in which these calls have returned. -/
theorem Makes.runs_of_answeredOn {S : Setting (World κ υ)} {b w p cs course r u} {a : α}
    (makes : Makes choice p cs a) (run : p.Runs S b w course r u)
    (answered : course.AnsweredOn choice cs) : course.calls = cs ∧ r = some a := by
  induction makes generalizing w course with
  | done =>
    cases run
    exact ⟨rfl, rfl⟩
  | act _ ih =>
    cases run with
    | act _ run =>
      rw [Course.answeredOn_own] at answered
      rw [Course.calls_own]
      exact ih _ run answered
  | call _ ih =>
    cases run with
    | call _ run =>
      rw [Course.answeredOn_called] at answered
      rw [Course.calls_called]
      obtain ⟨outcome, answered⟩ := answered
      have same := Option.some.inj (outcome List.mem_cons_self)
      dsimp only at same
      subst same
      obtain ⟨rfl, result⟩ := ih run answered.cons
      exact ⟨rfl, result⟩
    | calling _ =>
      -- a call that has not returned has no outcome
      rw [Course.answeredOn_called] at answered
      cases answered.1 List.mem_cons_self

/-- The calls and the result of an execution in which all calls have returned. -/
theorem Makes.runs {S : Setting (World κ υ)} {b w p cs course r u} {a : α}
    (makes : Makes choice p cs a) (run : p.Runs S b w course r u)
    (answered : course.Answered choice) : course.calls = cs ∧ r = some a :=
  makes.runs_of_answeredOn run (answered.on cs)

/-- An execution comes to the end of a first plan that makes calls, and goes on. -/
lemma Makes.of_bind_on {S : Setting (World κ υ)} {b w p cs course r u} {a : α}
    {f : α → Plan κ υ β} (makes : Makes choice p cs a) (run : (p >>= f).Runs S b w course r u)
    (answered : course.AnsweredOn choice cs) :
    ∃ t up rest, course = up ++ rest ∧ Course.calls up = cs ∧ (f a).Runs S b t rest r u := by
  obtain ⟨rfl, here⟩ | ⟨a', t, up, rest, rfl, here, next⟩ := Runs.of_bind run
  · cases (makes.runs_of_answeredOn here answered).2
  · rw [Course.answeredOn_append] at answered
    obtain ⟨calls, same⟩ := makes.runs_of_answeredOn here answered.1
    cases same
    exact ⟨t, up, rest, rfl, calls, next⟩

/-- An execution of a plan and of what follows it makes the calls of the first plan first. -/
lemma Makes.of_bind {S : Setting (World κ υ)} {b w p cs course r u} {a : α} {f : α → Plan κ υ β}
    (makes : Makes choice p cs a) (run : (p >>= f).Runs S b w course r u)
    (answered : course.Answered choice) :
    ∃ t up rest, course = up ++ rest ∧ Course.calls up = cs ∧ Course.Answered choice rest ∧
      (f a).Runs S b t rest r u := by
  obtain ⟨t, up, rest, rfl, calls, next⟩ := makes.of_bind_on run (answered.on cs)
  exact ⟨t, up, rest, rfl, calls, (Course.answered_append.1 answered).2, next⟩

/-- There is such an execution if the calls can return. -/
theorem Makes.exists_runs {S : Setting (World κ υ)} {b w p cs} {a : α}
    (makes : Makes choice p cs a) (quiet : ∀ w, S.between w w)
    (returns : ∀ c ∈ cs, ∀ ctx w, ∃ t, (c.flow b ctx).Runs S w (some (choice c)) t) :
    ∃ course u, p.Runs S b w course (some a) u ∧ course.Answered choice := by
  induction makes generalizing w with
  | done => exact ⟨[], w, .done, by simp [Course.Answered]⟩
  | act _ ih =>
    obtain ⟨course, u, run, answered⟩ := ih w returns
    exact ⟨_, u, .act (quiet _) run, by simpa using answered⟩
  | @call c ctx _ _ _ _ ih =>
    rw [List.forall_mem_cons] at returns
    obtain ⟨t, here⟩ := returns.1 ctx w
    obtain ⟨course, u, run, answered⟩ := ih returns.2
    exact ⟨_, u, .call here run, by simpa using answered⟩

/-- One plan after another makes the calls of both, in order. -/
lemma Makes.bind {p : Plan κ υ α} {f : α → Plan κ υ β} {cs cs' a b}
    (first : Makes choice p cs a) (rest : Makes choice (f a) cs' b) :
    Makes choice (p >>= f) (cs ++ cs') b := by
  induction first with
  | done => exact rest
  | act _ ih => exact .act fun w => ih w rest
  | call _ ih => exact .call (ih rest)

/-- What follows without calls changes the result alone. -/
lemma Makes.bind_nil {p : Plan κ υ α} {f : α → Plan κ υ β} {cs a b}
    (first : Makes choice p cs a) (rest : Makes choice (f a) [] b) :
    Makes choice (p >>= f) cs b := by
  rw [← List.append_nil cs]
  exact first.bind rest

/-- A step before a plan adds no calls, whatever it yields. -/
lemma Makes.step {g : World κ υ → β × World κ υ} {f : β → Plan κ υ α} {cs a}
    (rest : ∀ x, Makes choice (f x) cs a) :
    Makes choice (.ofFlow (Activity.step g) >>= f) cs a :=
  .act fun w => rest (g w).1

/-- A change before a plan adds no calls. -/
lemma Makes.change {g : World κ υ → World κ υ} {f : Unit → Plan κ υ α} {cs a}
    (rest : Makes choice (f ()) cs a) :
    Makes choice (.ofFlow (Activity.change g) >>= f) cs a :=
  .act fun _ => rest

/-- An attempt makes its one call. -/
lemma attempt_makes {note : Note κ υ} {ctx c} :
    Makes choice (attempt note ctx c) [c] (choice c) :=
  .call (.act fun _ => .done)

/-- Every call is made, whatever fails. -/
theorem callEach_makes {note : Note κ υ} {ctx cs} :
    Makes choice (callEach note ctx cs) cs (failures choice cs) := by
  induction cs with
  | nil => exact .done
  | cons c rest ih =>
    rw [failures_cons]
    exact attempt_makes.bind (ih.bind_nil .done)

/-- If all calls succeed, all are made. -/
theorem tryEach_makes {ctx cs} (succeed : Succeed choice cs) :
    Makes choice (tryEach ctx cs : Plan κ υ _) cs none := by
  induction cs with
  | nil => exact .done
  | cons c rest ih =>
    rw [succeed_cons] at succeed
    show Makes choice _ ([c] ++ rest) none
    refine attempt_makes.bind ?_
    rw [succeed.1]
    exact ih succeed.2

/-- No call is made after the first one that fails. -/
theorem tryEach_fails {ctx cs k c cause} (here : cs[k]? = some c) (fails : choice c = .error cause)
    (before : Succeed choice (cs.take k)) :
    Makes choice (tryEach ctx cs : Plan κ υ _) (cs.take (k + 1)) (some (c, cause)) := by
  induction cs generalizing k with
  | nil => cases here
  | cons first rest ih =>
    show Makes choice _ ([first] ++ rest.take k) _
    refine attempt_makes.bind ?_
    cases k with
    | zero =>
      cases here
      rw [fails]
      exact .done
    | succ k =>
      rw [List.take_succ_cons, succeed_cons] at before
      rw [before.1]
      exact ih here before.2

end Plan

/-! ## Callbacks that return at once -/

/-- The callbacks return at once what their handles say. -/
def prompt {υ : Type} : Behaviour Outcome υ :=
  fun outcome _ => .done outcome

/-- What a call of such a callback returns. A server is none. -/
def Call.promptly? : Call Outcome → Option Outcome
  | .start _ callback => callback.getD (.ok ())
  | .rollback _ callback => callback.getD (.ok ())
  | .startRunner _ (.custom _ starting _) => starting.getD (.ok ())
  | .stopRunner _ (.custom _ _ stopping) => stopping.getD (.ok ())
  | .stop _ callback => callback.getD (.ok ())
  | .hook _ callback => callback.getD (.ok ())
  | _ => none

/-- What calls of such callbacks return. -/
def Call.promptly (c : Call Outcome) : Outcome :=
  c.promptly?.getD (.ok ())

/-- A callback that is missing succeeds at once, and any other returns what its handle says. -/
lemma Callback.call_prompt {callback : Callback Outcome} {ctx} :
    callback.call (prompt : Behaviour Outcome υ) ctx = .done (callback.getD (.ok ())) := by
  cases callback <;> rfl

/-- The flow of such a call is over at once. -/
lemma Call.flow_prompt {c : Call Outcome} {ctx} (custom : c.promptly?.isSome) :
    c.flow (prompt : Behaviour Outcome υ) ctx = .done c.promptly := by
  unfold promptly promptly? at *
  split at custom
  case h_7 => cases custom
  all_goals exact Callback.call_prompt

/-- Calls of such callbacks have an execution by the clock. -/
lemma Plan.Makes.prompt_runs {w : World Outcome υ} {p cs} {a : α}
    (makes : Makes Call.promptly p cs a) (custom : cs.all (·.promptly?.isSome)) :
    ∃ course u, p.Runs World.clockwork.setting prompt w course (some a) u ∧
      course.Answered Call.promptly := by
  refine makes.exists_runs (fun _ => rfl) fun c member ctx t => ⟨t, ?_⟩
  rw [Call.flow_prompt (List.all_eq_true.1 custom c member)]
  exact .done

/-- The world around an orchestrator, with nothing else in it. -/
def World.around {κ : Type} (o : Orchestrator κ) : World κ Unit where
  orchestrator := o
  host := Net.isolatedHost
  user := ()

end Supervision
