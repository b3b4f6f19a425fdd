import Supervision.Proofs.Course

/-!
# Strategies

A setting leaves it open what happens after a step and while an activity waits. A strategy settles
this by computation, so that an activity has one execution under it, which can be computed as well:
`Activity.follow` for activities, and `Plan.follow` with the course for plans. `Clockwork.leap` is
the strategy of a clock that is watched at one instant.
-/

namespace Supervision

variable {κ υ σ α : Type}

/-- A way through a setting. -/
structure Strategy (S : Setting σ) where
  /-- What comes after a step. -/
  after : σ → σ
  /-- Where a wait for a trigger leads. -/
  during : Trigger σ → σ → σ
  between : ∀ s, S.between s (after s)
  meanwhile : ∀ trigger s, S.meanwhile s (during trigger s)

/-- The execution of an activity under a strategy: its result, and its last state. -/
def Activity.follow {S : Setting σ} (go : Strategy S) : Activity σ α → σ → Option α × σ
  | .done a, s => (some a, s)
  | .act change next, s => (next s).follow go (go.after (change s))
  | .wait trigger next, s =>
    let t := go.during trigger s
    if trigger.ends t then (next t).follow go t else (none, t)

/-- What a strategy leads to is an execution. -/
theorem Activity.follow_runs {S : Setting σ} (go : Strategy S) {p : Activity σ α} {s : σ} {r u}
    (follows : p.follow go s = (r, u)) : p.Runs S s r u := by
  induction p generalizing s with
  | done a =>
    cases follows
    exact .done
  | act change next ih => exact .act (go.between _) (ih s follows)
  | wait trigger next ih =>
    rw [follow] at follows
    split at follows
    next ends => exact .resumed (go.meanwhile trigger s) ends (ih _ follows)
    next stays =>
      cases follows
      exact .waiting (go.meanwhile trigger s) (Bool.eq_false_iff.2 stays)

/-- The execution of a plan under a strategy: its course, its result, and the last world. -/
def Plan.follow {S : Setting (World κ υ)} (go : Strategy S) (b : Behaviour κ υ) :
    Plan κ υ α → World κ υ → Course κ υ × Option α × World κ υ
  | .done a, w => ([], some a, w)
  | .act change next, w =>
    let rest := (next w).follow go b (go.after (change w))
    (.own w :: rest.1, rest.2)
  | .wait trigger next, w =>
    let t := go.during trigger w
    if trigger.ends t then
      let rest := (next t).follow go b t
      (.own t :: rest.1, rest.2)
    else ([], none, t)
  | .call c ctx next, w =>
    match (c.flow b ctx).follow go w with
    | (some outcome, t) =>
      let rest := (next outcome).follow go b t
      (.called ⟨c, ctx, w, some outcome, t⟩ :: rest.1, rest.2)
    | (none, t) => ([.called ⟨c, ctx, w, none, t⟩], none, t)
  | .callWithin ms c ctx next, w =>
    match (Flow.within ms (c.flow b ctx)).follow go w with
    | (some outcome, t) =>
      let rest := (next outcome).follow go b t
      (.called ⟨c, ctx, w, outcome, t⟩ :: rest.1, rest.2)
    | (none, t) => ([.called ⟨c, ctx, w, none, t⟩], none, t)

/-- What a strategy leads to is an execution with this course. -/
theorem Plan.follow_runs {S : Setting (World κ υ)} (go : Strategy S) {b : Behaviour κ υ}
    {p : Plan κ υ α} {w : World κ υ} {r} (ends : (p.follow go b w).2.1 = r) :
    p.Runs S b w (p.follow go b w).1 r (p.follow go b w).2.2 := by
  induction p generalizing w with
  | done a =>
    cases ends
    exact .done
  | act change next ih => exact .act (go.between _) (ih w ends)
  -- the strategy decides what the world is like when the wait is looked at
  | wait trigger next ih =>
    rw [follow] at ends ⊢
    cases ready : trigger.ends (go.during trigger w) with
    | true =>
      simp only [ready, if_true] at ends ⊢
      exact .resumed (go.meanwhile trigger w) ready (ih _ ends)
    | false =>
      simp only [ready, Bool.false_eq_true, if_false] at ends ⊢
      cases ends
      exact .waiting (go.meanwhile trigger w) ready
  | call c ctx next ih =>
    rw [follow] at ends ⊢
    split at ends
    next outcome t made => exact .call (Activity.follow_runs go made) (ih outcome ends)
    -- a call that does not return is the last thing of its course
    next t made =>
      cases ends
      exact .calling (Activity.follow_runs go made)
  | callWithin ms c ctx next ih =>
    rw [follow] at ends ⊢
    split at ends
    next outcome t made => exact .callWithin (Activity.follow_runs go made) (ih outcome ends)
    next t made =>
      cases ends
      exact .callingWithin (Activity.follow_runs go made)

/-- This execution is answered if its calls have returned what was chosen for them. -/
lemma Plan.follow_answered {S : Setting (World κ υ)} (go : Strategy S) {b : Behaviour κ υ}
    {p : Plan κ υ α} {w : World κ υ} {r} {choice : Call κ → Outcome}
    (ends : (p.follow go b w).2.1 = r)
    (same : (p.follow go b w).1.made.map Made.outcome =
      (p.follow go b w).1.calls.map fun c => some (choice c)) :
    ∃ course u, p.Runs S b w course r u ∧ course.Answered choice :=
  ⟨_, _, follow_runs go ends, Course.answered_of_outcomes same⟩

/-- Nothing comes after a step, and a wait that is not over at once lasts until an instant. -/
def Clockwork.leap (c : Clockwork σ) (instant : Nat) : Strategy c.setting where
  after := id
  during trigger s :=
    if trigger.ends s then s
    else if c.now s < instant then c.settle (c.advanceTo instant s)
    else s
  between _ := rfl
  meanwhile trigger s := by
    split
    · exact .refl
    · split
      next early => exact .until early
      next => exact .refl

end Supervision
