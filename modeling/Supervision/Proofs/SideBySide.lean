import Mathlib.Algebra.Group.Basic
import Mathlib.Algebra.Group.PUnit
import Mathlib.Data.List.Forall2
import Supervision.Proofs.Execution

/-!
# Activities side by side

What several activities come to that go on side by side, in terms of each alone. They add up what
each of them adds to a measure of the state, and each of them comes to a result of its own
(`Activity.Adds.all`). If each of them takes a time of its own, all of them take as long as the one
that takes longest (`Activity.Lasts.all`).
-/

namespace Supervision

variable {σ α β γ ι M : Type}

/-- A trigger waits for an instant of the clock, and for nothing else. -/
structure Trigger.IsInstant (clock : σ → Nat) (instant : Nat) (trigger : Trigger σ) : Prop where
  busy : trigger.idle = false
  ready : ∀ s, trigger.ready s = true ↔ instant ≤ clock s
  alarm : ∀ s, clock s < instant → trigger.alarm s = some instant

/-- Of two instants, a trigger for either waits for the earlier one. -/
lemma Trigger.IsInstant.or {clock : σ → Nat} {n m : Nat} {a b : Trigger σ}
    (left : a.IsInstant clock n) (right : b.IsInstant clock m) :
    (a.or b).IsInstant clock (min n m) where
  busy := by simp only [Trigger.or, left.busy, right.busy, Bool.or_false]
  ready s := by
    rw [Trigger.or, Bool.or_eq_true, left.ready, right.ready]
    omega
  alarm s before := by
    have first : a.alarm s = some n := left.alarm s (by omega)
    have second : b.alarm s = some m := right.alarm s (by omega)
    simp only [Trigger.or, first, second, earliest]

namespace Activity

/-- An activity can come to this result, whatever happens to the state besides. -/
inductive MayEnd : Activity σ α → α → Prop where
  | done {a} :
    MayEnd (.done a) a
  | act {change next s a} :
    MayEnd (next s) a →
    MayEnd (.act change next) a
  | wait {trigger next s a} :
    MayEnd (next s) a →
    MayEnd (.wait trigger next) a

/-! ## What activities add -/

section
variable [AddCommMonoid M] {m : σ → M} {P : M → α → Prop} {Q : M → β → Prop} {R : M → γ → Prop}

/-- The steps of an activity add to what `m` measures. It has added `x` so far, and what it has
added at its end is as `Q` says. -/
inductive Adds (m : σ → M) (Q : M → α → Prop) : M → Activity σ α → Prop where
  | done {x a} :
    Q x a →
    Adds m Q x (.done a)
  | act {x change next} {gain : σ → M} :
    (∀ s, m (change s) = m s + gain s) →
    (∀ s, Adds m Q (x + gain s) (next s)) →
    Adds m Q x (.act change next)
  | wait {x trigger next} :
    (∀ s, Adds m Q x (next s)) →
    Adds m Q x (.wait trigger next)

namespace Adds

/-- A weaker fact holds of what is added. -/
lemma mono {P' : M → α → Prop} {x : M} {p : Activity σ α} (adds : Adds m P x p)
    (weaker : ∀ x a, P x a → P' x a) : Adds m P' x p := by
  induction adds with
  | done result => exact .done (weaker _ _ result)
  | act gains _ ih => exact .act gains ih
  | wait _ ih => exact .wait ih

/-- What is added first is there when the rest is added. -/
lemma bind {x : M} {p : Activity σ α} {f : α → Activity σ β} (first : Adds m P x p)
    (rest : ∀ x a, P x a → Adds m Q x (f a)) : Adds m Q x (p.bind f) := by
  induction first with
  | done result => exact rest _ _ result
  | act gains _ ih => exact .act gains ih
  | wait _ ih => exact .wait ih

/-- A step that adds nothing. -/
lemma nothing {x : M} {change : σ → σ} {next : σ → Activity σ α}
    (same : ∀ s, m (change s) = m s) (rest : ∀ s, Adds m P x (next s)) :
    Adds m P x (.act change next) := by
  have zero : ∀ s, m (change s) = m s + 0 := fun s => by rw [same, add_zero]
  refine .act zero fun s => ?_
  rw [add_zero]
  exact rest s

/-- What was added before counts as well. -/
lemma shift (z : M) {x : M} {p : Activity σ α} (adds : Adds m P x p) :
    Adds m (fun y a => ∃ x, y = z + x ∧ P x a) (z + x) p := by
  induction adds with
  | done result => exact .done ⟨_, rfl, result⟩
  | act gains _ ih =>
    refine .act gains fun s => ?_
    rw [add_assoc]
    exact ih s
  | wait _ ih => exact .wait ih

/-- The result is one to which the activity can come. -/
lemma mayEnd {x : M} {p : Activity σ α} (adds : Adds m P x p) :
    Adds m (fun x a => P x a ∧ p.MayEnd a) x p := by
  induction adds with
  | done result => exact .done ⟨result, .done⟩
  | act gains _ ih =>
    refine .act gains fun s => ?_
    exact (ih s).mono fun _ _ ⟨result, here⟩ => ⟨result, .act here⟩
  | wait _ ih =>
    refine .wait fun s => ?_
    exact (ih s).mono fun _ _ ⟨result, here⟩ => ⟨result, .wait here⟩

/-- While the left side waits, the right one goes on, by induction on it: both add their parts. -/
lemma behind {x y : M} {trigger : Trigger σ} {resume : σ → Activity σ β → Activity σ γ}
    {ended : β → Activity σ γ} {q : Activity σ β} (right : Adds m Q y q)
    (resumes : ∀ s y q, Adds m Q y q → Adds m R (x + y) (resume s q))
    (ends : ∀ y b, Q y b → Adds m R (x + y) (ended b)) :
    Adds m R (x + y) (Activity.behind trigger resume ended q) := by
  induction right with
  | done result => exact ends _ _ result
  | act gains _ ih =>
    refine .act gains fun s => ?_
    rw [add_assoc]
    exact ih s
  | wait next ih =>
    refine .wait fun s => ?_
    split
    · exact resumes s _ _ (.wait next)
    · exact ih s

/-- Whichever side ends first, both have added their parts. -/
lemma merge {x y : M} {leftEnded : α → Activity σ β → Activity σ γ}
    {rightEnded : Activity σ α → β → Activity σ γ} {p : Activity σ α} {q : Activity σ β}
    (left : Adds m P x p) (right : Adds m Q y q)
    (leftEnds : ∀ x y a q, P x a → Adds m Q y q → Adds m R (x + y) (leftEnded a q))
    (rightEnds : ∀ x y p b, Adds m P x p → Q y b → Adds m R (x + y) (rightEnded p b)) :
    Adds m R (x + y) (Activity.merge leftEnded rightEnded p q) := by
  induction left generalizing y q with
  | done result => exact leftEnds _ _ _ _ result right
  | act gains _ ih =>
    refine .act gains fun s => ?_
    rw [add_right_comm]
    exact ih s right
  | wait next ih =>
    refine right.behind (fun s y q right => ih s right) fun y b result => ?_
    exact rightEnds _ _ _ _ (.wait next) result

/-- Two activities side by side add what both of them add. -/
lemma pair {x y : M} {p : Activity σ α} {q : Activity σ β} (left : Adds m P x p)
    (right : Adds m Q y q) :
    Adds m (fun z r => ∃ x y, z = x + y ∧ P x r.1 ∧ Q y r.2) (x + y) (Activity.pair p q) := by
  refine left.merge right (fun x y a q result right => ?_) fun x y p b left result => ?_
  · refine (right.shift x).bind fun z b ends => ?_
    obtain ⟨y, rfl, result'⟩ := ends
    exact .done ⟨x, y, rfl, result, result'⟩
  · rw [add_comm]
    refine (left.shift y).bind fun z a ends => ?_
    obtain ⟨x, rfl, result'⟩ := ends
    exact .done ⟨x, y, add_comm y x, result', result⟩

/-- What an activity has added when it has come to its end, if nothing else adds anything. -/
theorem runs {S : Setting σ} {x : M} {p : Activity σ α} {s a u} (adds : Adds m P x p)
    (run : p.Runs S s (some a) u) (between : ∀ {s t}, S.between s t → m t = m s)
    (meanwhile : ∀ {s t}, S.meanwhile s t → m t = m s) :
    ∃ y, m u = m s + y ∧ P (x + y) a := by
  induction adds generalizing s with
  | done result =>
    cases run
    exact ⟨0, (add_zero _).symm, by rwa [add_zero]⟩
  | act gains _ ih =>
    cases run with
    | act move run =>
      obtain ⟨y, sum, result⟩ := ih _ run
      refine ⟨_, ?_, by rwa [← add_assoc]⟩
      rw [sum, between move, gains, add_assoc]
  | wait _ ih =>
    cases run with
    | resumed move _ run =>
      obtain ⟨y, sum, result⟩ := ih _ run
      exact ⟨y, by rw [sum, meanwhile move], result⟩

end Adds

/-- For each item a result as `Q` says, and what has been added for all of them. -/
inductive Each (Q : ι → M → α → Prop) : List ι → M → List α → Prop where
  | nil :
    Each Q [] 0 []
  | cons {i is x y a as} :
    Q i x a →
    Each Q is y as →
    Each Q (i :: is) (x + y) (a :: as)

/-- What is known of the results one by one is known of the lists. -/
lemma Each.forall₂ {R : ι → α → Prop} {is : List ι} {x : M} {as : List α}
    (each : Each (fun i _ a => R i a) is x as) : List.Forall₂ R is as := by
  induction each with
  | nil => exact .nil
  | cons here _ ih => exact .cons here ih

/-- Activities side by side add up what each of them adds, and each has its result. -/
theorem Adds.all {Q : ι → M → α → Prop} {f : ι → Activity σ α} {items : List ι}
    (each : ∀ i ∈ items, Adds m (Q i) 0 (f i)) :
    Adds m (Each Q items) 0 (Activity.all (items.map f)) := by
  induction items with
  | nil => exact .done .nil
  | cons i rest ih =>
    rw [List.forall_mem_cons] at each
    have both := each.1.pair (ih each.2)
    rw [add_zero] at both
    refine both.bind fun z r ends => ?_
    obtain ⟨x, y, rfl, here, others⟩ := ends
    exact .done (.cons here others)

/-- An activity adds nothing to what is not measured. -/
lemma adds_unmeasured {x y : M} {p : Activity σ α} : Adds (fun _ => y) (fun _ _ => True) x p := by
  induction p with
  | done => exact .done trivial
  | act _ _ ih => exact .nothing (fun _ => rfl) ih
  | wait _ _ ih => exact .wait ih

end

/-! ## How long activities take -/

/-- An activity that goes on at the instant `n` ends at `t`. Its steps take no time, and it waits
for instants of the clock alone. -/
inductive Lasts (clock : σ → Nat) (t : Nat) : Nat → Activity σ α → Prop where
  | done {a} :
    Lasts clock t t (.done a)
  | act {n change next} :
    n ≤ t →
    (∀ s, clock s = n → clock (change s) = n) →
    (∀ s, clock s = n → Lasts clock t n (next s)) →
    Lasts clock t n (.act change next)
  | wait {n m trigger next} :
    max n m ≤ t →
    trigger.IsInstant clock m →
    (∀ s, clock s = max n m → Lasts clock t (max n m) (next s)) →
    Lasts clock t n (.wait trigger next)

namespace Lasts

variable {clock : σ → Nat} {n m l t t' : Nat} {p : Activity σ α} {q : Activity σ β}

/-- An activity ends no earlier than it goes on. -/
lemma le (lasts : Lasts clock t n p) : n ≤ t := by
  cases lasts with
  | done => exact Nat.le_refl _
  | act later => exact later
  | wait later => omega

/-- An activity may go on as another one, which lasts from there. -/
lemma bind {f : α → Activity σ β} (first : Lasts clock t n p) (later : t ≤ t')
    (rest : ∀ a, Lasts clock t' t (f a)) : Lasts clock t' n (p.bind f) := by
  induction first with
  | done => exact rest _
  | act here keeps _ ih => exact .act (Nat.le_trans here later) keeps ih
  | wait here instant _ ih => exact .wait (Nat.le_trans here later) instant ih

/-- Two activities in a row, of which the first takes no time to go on with. -/
lemma map {f : α → β} (lasts : Lasts clock t n p) : Lasts clock t n (p.bind fun a => .done (f a)) :=
  lasts.bind (Nat.le_refl t) fun _ => .done

/-- While the left activity waits for its instant, the right one goes on, and it is not held up when
the left one is resumed. -/
lemma behind {trigger : Trigger σ} {resume : σ → Activity σ β → Activity σ γ}
    {ended : β → Activity σ γ} (right : Lasts clock t n q) (instant : trigger.IsInstant clock m)
    (bound : max n m ≤ t') (later : t ≤ t')
    (resumes : ∀ s q, clock s = max n m → Lasts clock t (max n m) q →
      Lasts clock t' (max n m) (resume s q))
    (ends : ∀ b, t ≤ max n m → Lasts clock t' t (ended b)) :
    Lasts clock t' n (Activity.behind trigger resume ended q) := by
  induction right with
  | done => exact ends _ (Nat.le_max_left _ _)
  | act here keeps _ ih =>
    exact .act (Nat.le_trans here later) keeps fun s at' => ih s at' bound resumes ends
  | @wait n k own next here instant' rest ih =>
    refine .wait ?_ (instant.or instant') fun s at' => ?_
    · omega
    · have first : trigger.isFirst own s = true ↔ m ≤ clock s := by
        rw [Trigger.isFirst, instant.busy, Bool.and_false, Bool.or_false, instant.ready]
      split
      next isFirst =>
        rw [first] at isFirst
        obtain same : max n (min m k) = max n m := by omega
        rw [same] at at' ⊢
        refine resumes s _ at' (.wait ?_ instant' ?_)
        · omega
        · have same : max (max n m) k = max n k := by omega
          rw [same]
          exact rest
      next isNot =>
        rw [first] at isNot
        obtain same : max n (min m k) = max n k := by omega
        have limit : max (max n k) m = max n m := by omega
        rw [same] at at' ⊢
        refine ih s at' ?_ ?_ ?_
        · rwa [limit]
        · rwa [limit]
        · rwa [limit]

/-- Two activities side by side take as long as the one that takes longer. -/
lemma pair (left : Lasts clock t n p) (right : Lasts clock t' n q) :
    Lasts clock (max t t') n (Activity.pair p q) := by
  unfold Activity.pair
  induction left generalizing q with
  | done =>
    rw [Nat.max_eq_right right.le]
    exact right.map
  | act here keeps _ ih =>
    refine .act ?_ keeps fun s at' => ih s at' right
    omega
  | @wait n m trigger next here instant rest ih =>
    refine right.behind instant ?_ (Nat.le_max_right t t') (fun s q at' right => ih s at' right) ?_
    · omega
    · intro b early
      -- the right one has ended at `t'`, and the left one goes on waiting
      have same : max t' m = max n m := by
        have := right.le
        omega
      have waits : Lasts clock t t' (.wait trigger next) := by
        refine .wait ?_ instant ?_
        · rwa [same]
        · rwa [same]
      rw [Nat.max_eq_left (Nat.le_trans early here)]
      exact waits.map

/-- Any number of activities side by side take as long as the one that takes longest. -/
theorem all {f : ι → Activity σ α} {duration : ι → Nat} {items : List ι}
    (each : ∀ i ∈ items, Lasts clock (n + duration i) n (f i)) :
    Lasts clock (n + (items.map duration).foldr max 0) n (Activity.all (items.map f)) := by
  induction items with
  | nil => exact .done
  | cons i rest ih =>
    rw [List.forall_mem_cons] at each
    have both := each.1.pair (ih each.2)
    rw [Nat.add_max_add_left] at both
    exact both.map

end Lasts

end Activity

end Supervision
