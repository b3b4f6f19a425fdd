import Mathlib.Data.List.Basic
import Supervision.Lifecycle.Plan
import Supervision.Proofs.Execution

/-!
# Courses of plans

The course of a plan is what happens while it is performed: its own steps and the calls that it
makes, each with the worlds before and after it. `Plan.Runs` relates a plan and a world to a course
and to what comes of it, and `Plan.perform_runs_iff` says that these are the executions of the
performed plan.
-/

namespace Supervision

variable {κ υ α β : Type}

/-- What a call does is up to the callbacks, unless it calls a server. -/
lemma Call.flow_cases {C : Flow κ υ Outcome → Prop} {b : Behaviour κ υ} {ctx : Token} {c : Call κ}
    (nothing : C (.done (.ok ()))) (callbacks : ∀ handle, C (b handle ctx))
    (start : ∀ id, C (Server.start id)) (stop : ∀ id, C (Server.stop id ctx)) :
    C (c.flow b ctx) := by
  have callback : ∀ {callback : Callback κ}, C (callback.call b ctx) := by
    intro callback
    cases callback with
    | none => exact nothing
    | some handle => exact callbacks handle
  cases c with
  | start => exact callback
  | rollback => exact callback
  | startRunner _ runner =>
    cases runner with
    | custom => exact callback
    | server _ id => exact start id
  | stopRunner _ runner =>
    cases runner with
    | custom => exact callback
    | server _ id => exact stop id
  | stop => exact callback
  | hook => exact callback

/-- A call that was made. There is no outcome if it has not returned, or was given up. -/
structure Made (κ υ : Type) where
  call : Call κ
  ctx : Token
  before : World κ υ
  outcome : Option Outcome
  after : World κ υ

/-- A moment of a course. -/
inductive Moment (κ υ : Type) where
  /-- A step of the plan itself, taken in a world. -/
  | own (w : World κ υ)
  | called (made : Made κ υ)

/-- What happens while a plan is performed. -/
abbrev Course (κ υ : Type) := List (Moment κ υ)

namespace Course

/-- The calls of a course with their worlds. -/
def made : Course κ υ → List (Made κ υ)
  | [] => []
  | .own _ :: rest => made rest
  | .called m :: rest => m :: made rest

/-- The calls of a course. -/
def calls (course : Course κ υ) : List (Call κ) :=
  course.made.map Made.call

/-- Every call has returned with the outcome that `choice` has for it. -/
def Answered (choice : Call κ → Outcome) (course : Course κ υ) : Prop :=
  ∀ m ∈ course.made, m.outcome = some (choice m.call)

/-- So have those that are among these calls. -/
def AnsweredOn (choice : Call κ → Outcome) (cs : List (Call κ)) (course : Course κ υ) : Prop :=
  ∀ m ∈ course.made, m.call ∈ cs → m.outcome = some (choice m.call)

/-- There are no calls in the empty course. -/
@[simp] lemma made_nil : made ([] : Course κ υ) = [] := rfl

/-- A step of the plan itself is no call. -/
@[simp] lemma made_own {w : World κ υ} {rest} : made (.own w :: rest) = made rest := rfl

/-- A call comes before those of the rest. -/
@[simp] lemma made_called {m : Made κ υ} {rest} : made (.called m :: rest) = m :: made rest := rfl

/-- The calls of two courses, one after the other, are those of both in order. -/
@[simp] lemma made_append {first rest : Course κ υ} :
    made (first ++ rest) = made first ++ made rest := by
  induction first with
  | nil => rfl
  | cons moment first ih => cases moment <;> simp [ih]

/-- There is nothing to call in the empty course. -/
@[simp] lemma calls_nil : calls ([] : Course κ υ) = [] := rfl

/-- A step of the plan itself calls nothing. -/
@[simp] lemma calls_own {w : World κ υ} {rest} : calls (.own w :: rest) = calls rest := rfl

/-- What is called first comes first. -/
@[simp] lemma calls_called {m : Made κ υ} {rest} :
    calls (.called m :: rest) = m.call :: calls rest := rfl

/-- What two courses call, one after the other, is what both call in order. -/
@[simp] lemma calls_append {first rest : Course κ υ} :
    calls (first ++ rest) = calls first ++ calls rest := by
  simp [calls]

/-- Nothing is left unanswered in the empty course. -/
@[simp] lemma answered_nil {choice} : Answered choice ([] : Course κ υ) :=
  fun _ member => nomatch member

/-- A step of the plan itself needs no answer. -/
@[simp] lemma answered_own {choice} {w : World κ υ} {rest} :
    Answered choice (.own w :: rest) ↔ Answered choice rest := Iff.rfl

/-- A course is answered if its first call and the rest are. -/
@[simp] lemma answered_called {choice} {m : Made κ υ} {rest} :
    Answered choice (.called m :: rest) ↔
      m.outcome = some (choice m.call) ∧ Answered choice rest := by
  simp [Answered]

/-- Two courses, one after the other, are answered if both are. -/
@[simp] lemma answered_append {choice} {first rest : Course κ υ} :
    Answered choice (first ++ rest) ↔ Answered choice first ∧ Answered choice rest := by
  simp [Answered, or_imp, forall_and]

/-- A course is answered if its calls have returned what was chosen for them. -/
lemma answered_of_outcomes {choice} {course : Course κ υ}
    (same : course.made.map Made.outcome = course.calls.map fun c => some (choice c)) :
    course.Answered choice := by
  rw [calls, List.map_map] at same
  exact List.map_inj_left.1 same

/-- What is answered throughout is answered on any calls. -/
lemma Answered.on {choice} {course : Course κ υ} (answered : course.Answered choice)
    (cs : List (Call κ)) : course.AnsweredOn choice cs :=
  fun m member _ => answered m member

/-- A step of the plan itself needs no answer, whichever calls count. -/
@[simp] lemma answeredOn_own {choice cs} {w : World κ υ} {rest} :
    AnsweredOn choice cs (.own w :: rest) ↔ AnsweredOn choice cs rest := Iff.rfl

/-- A course is answered on some calls if the first one is, where it counts, and the rest is. -/
@[simp] lemma answeredOn_called {choice cs} {m : Made κ υ} {rest} :
    AnsweredOn choice cs (.called m :: rest) ↔
      (m.call ∈ cs → m.outcome = some (choice m.call)) ∧ AnsweredOn choice cs rest := by
  simp [AnsweredOn]

/-- Two courses, one after the other, are answered on some calls if both are. -/
@[simp] lemma answeredOn_append {choice cs} {first rest : Course κ υ} :
    AnsweredOn choice cs (first ++ rest) ↔
      AnsweredOn choice cs first ∧ AnsweredOn choice cs rest := by
  simp [AnsweredOn, or_imp, forall_and]

/-- What is answered on more calls is answered on fewer. -/
lemma AnsweredOn.cons {choice c cs} {course : Course κ υ}
    (answered : course.AnsweredOn choice (c :: cs)) : course.AnsweredOn choice cs :=
  fun m member here => answered m member (List.mem_cons_of_mem c here)

end Course

/-! ## Events -/

/-- What a part of a service and its caller notice. -/
inductive Event (κ : Type) where
  | begins (c : Call κ)
  | ends (c : Call κ) (outcome : Outcome)

namespace Course

/-- The events of a course. -/
def events (course : Course κ υ) : List (Event κ) :=
  course.made.flatMap fun m => .begins m.call :: (m.outcome.map (.ends m.call)).toList

/-- Calls that begin and end one after the other. -/
def inTurn (choice : Call κ → Outcome) (cs : List (Call κ)) : List (Event κ) :=
  cs.flatMap fun c => [.begins c, .ends c (choice c)]

/-- Every call ends before the next one begins. -/
lemma events_of_answered {choice} {course : Course κ υ} (answered : Answered choice course) :
    course.events = inTurn choice course.calls := by
  rw [events, inTurn, calls, List.flatMap_map]
  apply List.flatMap_congr
  intro m member
  rw [answered m member]
  rfl

end Course

/-! ## Executions -/

namespace Plan

/-- An execution of a plan, up to its result or up to a world in which it has to wait. -/
inductive Runs (S : Setting (World κ υ)) (b : Behaviour κ υ) :
    Plan κ υ α → World κ υ → Course κ υ → Option α → World κ υ → Prop where
  | done {a w} :
    Runs S b (.done a) w [] (some a) w
  | act {change next w t course r u} :
    S.between (change w) t →
    Runs S b (next w) t course r u →
    Runs S b (.act change next) w (.own w :: course) r u
  | resumed {trigger next w t course r u} :
    S.meanwhile w t →
    trigger.ends t = true →
    Runs S b (next t) t course r u →
    Runs S b (.wait trigger next) w (.own t :: course) r u
  | waiting {trigger next w t} :
    S.meanwhile w t →
    trigger.ends t = false →
    Runs S b (.wait trigger next) w [] none t
  | call {c ctx next w outcome t course r u} :
    (c.flow b ctx).Runs S w (some outcome) t →
    Runs S b (next outcome) t course r u →
    Runs S b (.call c ctx next) w (.called ⟨c, ctx, w, some outcome, t⟩ :: course) r u
  | calling {c ctx next w t} :
    (c.flow b ctx).Runs S w none t →
    Runs S b (.call c ctx next) w [.called ⟨c, ctx, w, none, t⟩] none t
  | callWithin {ms c ctx next w outcome t course r u} :
    (Flow.within ms (c.flow b ctx)).Runs S w (some outcome) t →
    Runs S b (next outcome) t course r u →
    Runs S b (.callWithin ms c ctx next) w (.called ⟨c, ctx, w, outcome, t⟩ :: course) r u
  | callingWithin {ms c ctx next w t} :
    (Flow.within ms (c.flow b ctx)).Runs S w none t →
    Runs S b (.callWithin ms c ctx next) w [.called ⟨c, ctx, w, none, t⟩] none t

variable {S : Setting (World κ υ)} {b : Behaviour κ υ} {w u : World κ υ} {course : Course κ υ}

/-- To perform one plan after another is to perform the first and then the second. -/
lemma perform_bind {p : Plan κ υ α} {f : α → Plan κ υ β} :
    (p.bind f).perform b = (p.perform b).bind fun a => (f a).perform b := by
  induction p with
  | done a => rfl
  | act change next ih => simp only [bind, perform, Activity.bind, ih]
  | wait trigger next ih => simp only [bind, perform, Activity.bind, ih]
  | call c ctx next ih => simp only [bind, perform, Activity.bind_assoc, ih]
  | callWithin ms c ctx next ih => simp only [bind, perform, Activity.bind_assoc, ih]

/-- The executions of a performed plan are the executions of the plan. -/
theorem perform_runs_iff {p : Plan κ υ α} {r} :
    (p.perform b).Runs S w r u ↔ ∃ course, p.Runs S b w course r u := by
  constructor
  · -- by induction on the plan, since the performed one forgets where its calls are
    intro run
    induction p generalizing w with
    | done a =>
      cases run
      exact ⟨[], .done⟩
    | act change next ih =>
      cases run with
      | act move run =>
        obtain ⟨course, rest⟩ := ih _ run
        exact ⟨_, .act move rest⟩
    | wait trigger next ih =>
      cases run with
      | resumed move ends run =>
        obtain ⟨course, rest⟩ := ih _ run
        exact ⟨_, .resumed move ends rest⟩
      | waiting move ends => exact ⟨_, .waiting move ends⟩
    | call c ctx next ih =>
      obtain ⟨rfl, here⟩ | ⟨outcome, t, here, run⟩ := Activity.runs_bind_iff.1 run
      · exact ⟨_, .calling here⟩
      · obtain ⟨course, rest⟩ := ih _ run
        exact ⟨_, .call here rest⟩
    | callWithin ms c ctx next ih =>
      obtain ⟨rfl, here⟩ | ⟨outcome, t, here, run⟩ := Activity.runs_bind_iff.1 run
      · exact ⟨_, .callingWithin here⟩
      · obtain ⟨course, rest⟩ := ih _ run
        exact ⟨_, .callWithin here rest⟩
  · -- by induction on the execution
    rintro ⟨course, run⟩
    induction run with
    | done => exact .done
    | act move _ ih => exact .act move ih
    | resumed move ends _ ih => exact .resumed move ends ih
    | waiting move ends => exact .waiting move ends
    | call here _ ih => exact Activity.runs_bind_iff.2 (.inr ⟨_, _, here, ih⟩)
    | calling here => exact Activity.runs_bind_iff.2 (.inl ⟨rfl, here⟩)
    | callWithin here _ ih => exact Activity.runs_bind_iff.2 (.inr ⟨_, _, here, ih⟩)
    | callingWithin here => exact Activity.runs_bind_iff.2 (.inl ⟨rfl, here⟩)

/-- An execution of one plan after another ends in the first one, or goes on with the second. -/
lemma Runs.of_bind {p : Plan κ υ α} {f : α → Plan κ υ β} {r}
    (run : (p.bind f).Runs S b w course r u) :
    (r = none ∧ p.Runs S b w course none u) ∨
      ∃ a t first rest, course = first ++ rest ∧
        p.Runs S b w first (some a) t ∧ (f a).Runs S b t rest r u := by
  induction p generalizing w course with
  | done a => exact .inr ⟨a, w, [], course, rfl, .done, run⟩
  | act change next ih =>
    cases run with
    | act move run =>
      obtain ⟨rfl, here⟩ | ⟨a, t, first, rest, rfl, here, next⟩ := ih _ run
      · exact .inl ⟨rfl, .act move here⟩
      · exact .inr ⟨a, t, _, rest, rfl, .act move here, next⟩
  | wait trigger next ih =>
    cases run with
    | resumed move ends run =>
      obtain ⟨rfl, here⟩ | ⟨a, t, first, rest, rfl, here, next⟩ := ih _ run
      · exact .inl ⟨rfl, .resumed move ends here⟩
      · exact .inr ⟨a, t, _, rest, rfl, .resumed move ends here, next⟩
    | waiting move ends => exact .inl ⟨rfl, .waiting move ends⟩
  | call c ctx next ih =>
    cases run with
    | call made run =>
      obtain ⟨rfl, here⟩ | ⟨a, t, first, rest, rfl, here, next⟩ := ih _ run
      · exact .inl ⟨rfl, .call made here⟩
      · exact .inr ⟨a, t, _, rest, rfl, .call made here, next⟩
    | calling made => exact .inl ⟨rfl, .calling made⟩
  | callWithin ms c ctx next ih =>
    cases run with
    | callWithin made run =>
      obtain ⟨rfl, here⟩ | ⟨a, t, first, rest, rfl, here, next⟩ := ih _ run
      · exact .inl ⟨rfl, .callWithin made here⟩
      · exact .inr ⟨a, t, _, rest, rfl, .callWithin made here, next⟩
    | callingWithin made => exact .inl ⟨rfl, .callingWithin made⟩

/-- An execution of a first plan and one of what follows it make one of both. -/
lemma Runs.bind {p : Plan κ υ α} {f : α → Plan κ υ β} {a t first rest r}
    (here : p.Runs S b w first (some a) t) (next : (f a).Runs S b t rest r u) :
    (p.bind f).Runs S b w (first ++ rest) r u := by
  generalize e : some a = q at here
  induction here with
  | done =>
    cases e
    exact next
  | act move _ ih => exact .act move (ih next e)
  | resumed move ends _ ih => exact .resumed move ends (ih next e)
  | waiting => cases e
  | call made _ ih => exact .call made (ih next e)
  | calling => cases e
  | callWithin made _ ih => exact .callWithin made (ih next e)
  | callingWithin => cases e

/-- An execution of a flow is one of the plan, without calls. -/
lemma Runs.of_flow {flow : Flow κ υ α} {r} (run : (ofFlow flow).Runs S b w course r u) :
    course.made = [] ∧ flow.Runs S w r u := by
  induction flow generalizing w course with
  | done a =>
    cases run
    exact ⟨rfl, .done⟩
  | act change next ih =>
    cases run with
    | act move run =>
      obtain ⟨none, here⟩ := ih _ run
      exact ⟨none, .act move here⟩
  | wait trigger next ih =>
    cases run with
    | resumed move ends run =>
      obtain ⟨none, here⟩ := ih _ run
      exact ⟨none, .resumed move ends here⟩
    | waiting move ends => exact ⟨rfl, .waiting move ends⟩

/-- An execution that begins with a change goes on from what comes after it. -/
lemma Runs.of_change {change : World κ υ → World κ υ} {f : Unit → Plan κ υ α} {r}
    (run : (ofFlow (Activity.change change) >>= f).Runs S b w course r u) :
    ∃ t rest, course = .own w :: rest ∧ S.between (change w) t ∧ (f ()).Runs S b t rest r u := by
  cases run with
  | act move run => exact ⟨_, _, rfl, move, run⟩

/-- An execution that begins with a fresh token goes on with the number that was next. -/
lemma Runs.of_freshToken {f : Token → Plan κ υ α} {r}
    (run : (ofFlow Flow.freshToken >>= f).Runs S b w course r u) :
    ∃ t rest, course = .own w :: rest ∧ S.between w.freshToken.2 t ∧
      (f ⟨w.tokens.issued⟩).Runs S b t rest r u := by
  cases run with
  | act move run => exact ⟨_, _, rfl, move, run⟩

/-- An execution that begins with a wait is still in it, or goes on from a world in which it could
end. -/
lemma Runs.of_awaitLook {trigger : Trigger (World κ υ)} {look : World κ υ → α} {f : α → Plan κ υ β}
    {r} (run : (ofFlow (Activity.awaitLook trigger look) >>= f).Runs S b w course r u) :
    (r = none ∧ trigger.ends u = false ∧ course = [.own w]) ∨
      ∃ up wc t down, course = up ++ .own wc :: down ∧ Course.calls up = [] ∧
        trigger.ends wc = true ∧ (f (look wc)).Runs S b t down r u := by
  cases run with
  | @act _ _ _ t rest _ _ _ run =>
    dsimp only at run
    cases ready : trigger.ready w with
    | true =>
      rw [if_pos ready] at run
      exact .inr ⟨[], w, t, rest, rfl, rfl, by simp [Trigger.ends, ready], run⟩
    | false =>
      rw [if_neg (by simp [ready])] at run
      cases run with
      | resumed _ ends run => exact .inr ⟨[.own w], _, _, _, rfl, rfl, ends, run⟩
      | waiting _ ends => exact .inl ⟨rfl, ends, rfl⟩

end Plan

end Supervision
