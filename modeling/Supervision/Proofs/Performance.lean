import Mathlib.Logic.Relation
import Supervision.Proofs.Course

/-!
# Performances

A performance is a plan in the middle of being performed, with the call that it is making, if it is
making one. It goes on step by step, and others may take steps in between. `Performance.advance_iff`
says that these steps are those of the performed plan.
-/

namespace Supervision

variable {κ υ α β : Type}

namespace Activity

variable {σ : Type} {f : α → Activity σ β} {s s' : σ}

/-- A step of the first part is a step of the whole. -/
lemma Advance.bind {p p' : Activity σ α} (step : p.Advance s p' s') :
    (p.bind f).Advance s (p'.bind f) s' := by
  cases step with
  | act => exact .act
  | resume ends => exact .resume ends

/-- One activity after another goes on in the first one until that is over. -/
lemma Advance.of_bind {p : Activity σ α} {q : Activity σ β} (step : (p.bind f).Advance s q s') :
    (∃ a, p = .done a ∧ (f a).Advance s q s') ∨ ∃ p', p.Advance s p' s' ∧ q = p'.bind f := by
  cases p with
  | done a => exact .inl ⟨a, rfl, step⟩
  | act change next =>
    cases step with
    | act => exact .inr ⟨_, .act, rfl⟩
  | wait trigger next =>
    cases step with
    | resume ends => exact .inr ⟨_, .resume ends, rfl⟩

end Activity

/-- A plan of which something remains to be done, or a call of it with what follows. -/
inductive Performance (κ υ α : Type) where
  | plan (p : Plan κ υ α)
  | part (c : Call κ) (rest : Flow κ υ (Plan κ υ α))

namespace Performance

/-- What remains to be done, with all calls made as the behaviour says. -/
def flow (b : Behaviour κ υ) : Performance κ υ α → Flow κ υ α
  | plan p => p.perform b
  | part _ rest => rest.bind (Plan.perform b)

/-- A call begins or ends. -/
inductive Turn (b : Behaviour κ υ) : Performance κ υ α → Performance κ υ α → Prop where
  | begins {c ctx next} :
    Turn b (.plan (.call c ctx next))
      (.part c ((c.flow b ctx).bind fun outcome => .done (next outcome)))
  | beginsWithin {ms c ctx next} :
    Turn b (.plan (.callWithin ms c ctx next))
      (.part c ((Flow.within ms (c.flow b ctx)).bind fun outcome => .done (next outcome)))
  | ends {c p} :
    Turn b (.part c (.done p)) (.plan p)

/-- The plan takes a step, or the part that it calls. -/
inductive Step : Performance κ υ α → World κ υ → Performance κ υ α → World κ υ → Prop where
  | act {change next w} :
    Step (.plan (.act change next)) w (.plan (next w)) (change w)
  | resume {trigger next w} :
    trigger.ends w = true →
    Step (.plan (.wait trigger next)) w (.plan (next w)) w
  | part {c p q w w'} :
    p.Advance w q w' →
    Step (.part c p) w (.part c q) w'

variable {b : Behaviour κ υ} {P Q : Performance κ υ α} {w w' : World κ υ} {q : Flow κ υ α}

/-- When a call begins or ends, what remains to be done is the same. -/
lemma Turn.flow_eq (turn : P.Turn b Q) : Q.flow b = P.flow b := by
  cases turn with
  | begins => exact Activity.bind_assoc
  | beginsWithin => exact Activity.bind_assoc
  | ends => rfl

/-- Whatever calls begin or end, what remains to be done is the same. -/
lemma turns_flow_eq (turns : Relation.ReflTransGen (Turn b) P Q) : Q.flow b = P.flow b := by
  induction turns with
  | refl => rfl
  | tail _ turn ih => exact turn.flow_eq.trans ih

/-- A step of a plan is a step of what remains to be done. -/
lemma Step.advance (step : P.Step w Q w') : (P.flow b).Advance w (Q.flow b) w' := by
  cases step with
  | act => exact .act
  | resume ends => exact .resume ends
  | part step => exact step.bind

/-- A call takes the next step, or is over at once. -/
lemma exists_step_part {γ : Type} {c : Call κ} {p : Flow κ υ γ} {next : γ → Plan κ υ α}
    (step : ((p.bind fun a => .done (next a)).bind (Plan.perform b)).Advance w q w')
    (ih : ∀ a, ((next a).perform b).Advance w q w' → ∃ R Q,
      Relation.ReflTransGen (Turn b) (.plan (next a)) R ∧ R.Step w Q w' ∧ Q.flow b = q) :
    ∃ R Q, Relation.ReflTransGen (Turn b) (.part c (p.bind fun a => .done (next a))) R ∧
      R.Step w Q w' ∧ Q.flow b = q := by
  obtain ⟨rest, ended, step⟩ | ⟨p', goes, rfl⟩ := step.of_bind
  · cases p with
    | done a =>
      cases ended
      obtain ⟨R, Q, turns, step, same⟩ := ih a step
      exact ⟨R, Q, .head .ends turns, step, same⟩
    | act change next => cases ended
    | wait trigger next => cases ended
  · exact ⟨_, _, .refl, .part goes, rfl⟩

/-- Every step of what remains to be done is a step of the plan, after some calls have begun or
ended. -/
lemma exists_step_plan {p : Plan κ υ α} (step : (p.perform b).Advance w q w') :
    ∃ R Q, Relation.ReflTransGen (Turn b) (.plan p) R ∧ R.Step w Q w' ∧ Q.flow b = q := by
  induction p with
  | done a => cases step
  | act change next _ =>
    cases step with
    | act => exact ⟨_, _, .refl, .act, rfl⟩
  | wait trigger next _ =>
    cases step with
    | resume ends => exact ⟨_, _, .refl, .resume ends, rfl⟩
  -- the call begins first, and then its flow or what comes after it takes the step
  | call c ctx next ih =>
    have step : (((c.flow b ctx).bind fun outcome => .done (next outcome)).bind
        (Plan.perform b)).Advance w q w' := by
      rw [Activity.bind_assoc]
      exact step
    obtain ⟨R, Q, turns, step, same⟩ := exists_step_part (c := c) step ih
    exact ⟨R, Q, .head .begins turns, step, same⟩
  | callWithin ms c ctx next ih =>
    have step : (((Flow.within ms (c.flow b ctx)).bind fun outcome => .done (next outcome)).bind
        (Plan.perform b)).Advance w q w' := by
      rw [Activity.bind_assoc]
      exact step
    obtain ⟨R, Q, turns, step, same⟩ := exists_step_part (c := c) step ih
    exact ⟨R, Q, .head .beginsWithin turns, step, same⟩

/-- The steps of a performance, after calls that begin and end at once, are the steps of the
performed plan. -/
theorem advance_iff {p : Plan κ υ α} :
    (p.perform b).Advance w q w' ↔
      ∃ R Q, Relation.ReflTransGen (Turn b) (.plan p) R ∧ R.Step w Q w' ∧ Q.flow b = q := by
  constructor
  · exact exists_step_plan
  · rintro ⟨R, Q, turns, step, rfl⟩
    have same : R.flow b = p.perform b := turns_flow_eq turns
    rw [← same]
    exact step.advance

end Performance

end Supervision
