import Supervision.Proofs.Course

/-!
# Assertions about plans

`Plan.Ensures` says what holds of the calls of a plan and of its result if something holds of the
world in which it begins. There is one rule for each way in which plans are put together. The rules
for calls in order (`Ensures.tryEach`, `Ensures.callEach`) take an assertion for each place between
two of them: it knows the calls that were made, and those that are still to be made.
-/

namespace Supervision

variable {κ υ α β : Type}

namespace Plan

/-- From a world of which `P` holds, a plan makes calls of which `Q` holds, if `A` does, and comes
to results and worlds of which `R` holds. It does not go on after a call that has not returned. -/
def Ensures (S : Setting (World κ υ)) (b : Behaviour κ υ) (A Q : Made κ υ → Prop)
    (P : World κ υ → Prop) (p : Plan κ υ α) (R : α → World κ υ → Prop) : Prop :=
  ∀ ⦃w course r u⦄, p.Runs S b w course r u → (∀ m ∈ course.made, A m) → P w →
    (∀ m ∈ course.made, Q m ∧ (m.outcome = none → r = none ∧ m.after = u)) ∧
      ∀ a, r = some a → R a u

namespace Ensures

variable {S : Setting (World κ υ)} {b : Behaviour κ υ} {A Q : Made κ υ → Prop}
  {P : World κ υ → Prop} {ctx : Token} {cs : List (Call κ)}

/-- A plan that is done ensures of its result what held of its world. -/
lemma done {a : α} {R : α → World κ υ → Prop} (holds : ∀ w, P w → R a w) :
    Ensures S b A Q P (.done a) R := by
  intro w course r u run _ before
  cases run
  refine ⟨by simp, ?_⟩
  rintro _ ⟨⟩
  exact holds w before

/-- What is ensured may be assumed of less and weakened afterwards. -/
lemma weaken {p : Plan κ υ α} {P' : World κ υ → Prop} {R R' : α → World κ υ → Prop}
    (ensures : Ensures S b A Q P p R) (before : ∀ w, P' w → P w) (after : ∀ a w, R a w → R' a w) :
    Ensures S b A Q P' p R' := by
  intro w course r u run assumed holds
  obtain ⟨calls, result⟩ := ensures run assumed (before w holds)
  exact ⟨calls, fun a returned => after a u (result a returned)⟩

/-- What the first plan ensures may be assumed by the next one. -/
lemma bind {p : Plan κ υ α} {f : α → Plan κ υ β} {R : α → World κ υ → Prop}
    {R' : β → World κ υ → Prop} (first : Ensures S b A Q P p R)
    (rest : ∀ a, Ensures S b A Q (R a) (f a) R') : Ensures S b A Q P (p >>= f) R' := by
  intro w course r u run assumed before
  obtain ⟨rfl, here⟩ | ⟨a, t, up, down, rfl, here, next⟩ := Runs.of_bind run
  · obtain ⟨calls, -⟩ := first here assumed before
    refine ⟨fun m member => ⟨(calls m member).1, fun pending => ⟨rfl, ?_⟩⟩, nofun⟩
    exact ((calls m member).2 pending).2
  · rw [Course.made_append, List.forall_mem_append] at assumed
    obtain ⟨calls, result⟩ := first here assumed.1 before
    obtain ⟨calls', result'⟩ := rest a next assumed.2 (result a rfl)
    refine ⟨?_, result'⟩
    rw [Course.made_append, List.forall_mem_append]
    refine ⟨fun m member => ⟨(calls m member).1, fun pending => ?_⟩, calls'⟩
    -- the first plan has a result
    cases ((calls m member).2 pending).1

/-- A step of the plan itself ensures what all its runs come to. -/
lemma ofFlow {flow : Flow κ υ α} {R : α → World κ υ → Prop}
    (holds : ∀ {w a u}, flow.Runs S w (some a) u → P w → R a u) :
    Ensures S b A Q P (.ofFlow flow) R := by
  intro w course r u run _ before
  obtain ⟨none, run⟩ := Runs.of_flow run
  constructor
  · rw [none]
    simp
  · rintro a rfl
    exact holds run before

/-- A call is made, and its outcome is noted. -/
lemma attempt {note : Note κ υ} {c : Call κ} {R : Outcome → World κ υ → Prop}
    (calls : ∀ {w r u}, (c.flow b ctx).Runs S w r u → A ⟨c, ctx, w, r, u⟩ → P w →
      Q ⟨c, ctx, w, r, u⟩ ∧ ∀ outcome, r = some outcome → R outcome u)
    (notes : ∀ {outcome w t}, S.between (note c outcome w) t → R outcome w → R outcome t) :
    Ensures S b A Q P (attempt note ctx c) R := by
  intro w course r u run assumed before
  cases run with
  | call made run =>
    cases run with
    | act move run =>
      cases run
      obtain ⟨shown, result⟩ := calls made (assumed _ List.mem_cons_self) before
      refine ⟨?_, ?_⟩
      · rintro m member
        cases List.mem_singleton.1 member
        exact ⟨shown, nofun⟩
      · rintro _ ⟨⟩
        exact notes move (result _ rfl)
  | calling made =>
    obtain ⟨shown, -⟩ := calls made (assumed _ List.mem_cons_self) before
    refine ⟨?_, nofun⟩
    intro m member
    cases List.mem_singleton.1 member
    exact ⟨shown, fun _ => ⟨rfl, rfl⟩⟩

/-- Calls that end with the first failure. -/
theorem tryEach {J : List (Call κ) → List (Call κ) → World κ υ → Prop}
    (each : ∀ first c rest, cs = first ++ c :: rest →
      Ensures S b A Q (J first (c :: rest)) (Plan.attempt Call.note ctx c)
        fun outcome w => outcome = .ok () → J (first ++ [c]) rest w) :
    Ensures S b A Q (J [] cs) (tryEach ctx cs) fun failed w => failed = none → J cs [] w := by
  -- the calls that were made come from the front, one after the other
  have from' (first rest : List (Call κ)) (split : cs = first ++ rest) :
      Ensures S b A Q (J first rest) (Plan.tryEach ctx rest)
        fun failed w => failed = none → J cs [] w := by
    induction rest generalizing first with
    | nil =>
      rw [split, List.append_nil]
      exact done fun w holds _ => holds
    | cons c rest ih =>
      refine (each first c rest split).bind fun outcome => ?_
      cases outcome with
      | error => exact done fun _ _ => nofun
      | ok =>
        refine (ih (first ++ [c]) ?_).weaken (fun w holds => holds rfl) fun _ _ => id
        rw [split, List.append_assoc, List.singleton_append]
  exact from' [] cs rfl

/-- Calls that are all made. -/
theorem callEach {note : Note κ υ} {J : List (Call κ) → List (Call κ) → World κ υ → Prop}
    (each : ∀ first c rest, cs = first ++ c :: rest →
      Ensures S b A Q (J first (c :: rest)) (Plan.attempt note ctx c)
        fun _ => J (first ++ [c]) rest) :
    Ensures S b A Q (J [] cs) (callEach note ctx cs) fun _ => J cs [] := by
  have from' (first rest : List (Call κ)) (split : cs = first ++ rest) :
      Ensures S b A Q (J first rest) (Plan.callEach note ctx rest) fun _ => J cs [] := by
    induction rest generalizing first with
    | nil =>
      rw [split, List.append_nil]
      exact done fun w holds => holds
    | cons c rest ih =>
      refine (each first c rest split).bind fun outcome => ?_
      refine (ih (first ++ [c]) ?_).bind fun _ => done fun w holds => holds
      rw [split, List.append_assoc, List.singleton_append]
  exact from' [] cs rfl

end Ensures

end Plan

end Supervision
