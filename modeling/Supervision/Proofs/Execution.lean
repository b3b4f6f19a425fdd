import Mathlib.Logic.Relation
import Mathlib.Tactic.Lemma
import Supervision.Activity

/-!
# Executions

An activity is executed among others. A `Setting` says what may happen to the state besides, and
`Activity.Runs` relates an activity and a state to what comes of them: a result, or none while the
activity has to wait. `Activity.runs_bind_iff` takes the execution of two activities in a row apart,
and `Clockwork.run_runs` says that the clock executes activities in this sense.
-/

namespace Supervision

variable {σ α β : Type}

/-- What may happen to the state besides the steps of an activity. -/
structure Setting (σ : Type) where
  /-- After a step, before the next one. -/
  between : σ → σ → Prop
  /-- While the activity waits. -/
  meanwhile : σ → σ → Prop

/-- The wait for a trigger can end. -/
def Trigger.ends (trigger : Trigger σ) (s : σ) : Bool :=
  trigger.ready s || trigger.idle

/-- A condition alone can end a wait when it is met. -/
@[simp] lemma Trigger.ends_whenever {ready : σ → Bool} {s} :
    (Trigger.whenever ready).ends s = ready s := Bool.or_false _

/-- An execution of an activity, up to its result or up to a state in which it has to wait. -/
inductive Activity.Runs (S : Setting σ) : Activity σ α → σ → Option α → σ → Prop where
  | done {a s} :
    Runs S (.done a) s (some a) s
  | act {change next s t r u} :
    S.between (change s) t →
    Runs S (next s) t r u →
    Runs S (.act change next) s r u
  | resumed {trigger next s t r u} :
    S.meanwhile s t →
    trigger.ends t = true →
    Runs S (next t) t r u →
    Runs S (.wait trigger next) s r u
  | waiting {trigger next s t} :
    S.meanwhile s t →
    trigger.ends t = false →
    Runs S (.wait trigger next) s none t

/-- One step of an activity among others. -/
inductive Activity.Advance : Activity σ α → σ → Activity σ α → σ → Prop where
  | act {change next s} :
    Advance (.act change next) s (next s) (change s)
  | resume {trigger next s} :
    trigger.ends s = true →
    Advance (.wait trigger next) s (next s) s

namespace Activity

/-- Three activities one after the other can be put together from either end. -/
lemma bind_assoc {γ : Type} {p : Activity σ α} {f : α → Activity σ β} {g : β → Activity σ γ} :
    (p.bind f).bind g = p.bind fun a => (f a).bind g := by
  induction p with
  | done a => rfl
  | act change next ih => simp only [bind, ih]
  | wait trigger next ih => simp only [bind, ih]

/-- An execution of one activity after another ends in the first one, or goes on with the second. -/
lemma runs_bind_iff {S : Setting σ} {p : Activity σ α} {f : α → Activity σ β} {s r u} :
    (p.bind f).Runs S s r u ↔
      (r = none ∧ p.Runs S s none u) ∨ ∃ a t, p.Runs S s (some a) t ∧ (f a).Runs S t r u := by
  constructor
  · intro run
    induction p generalizing s with
    | done a => exact .inr ⟨a, s, .done, run⟩
    | act change next ih =>
      cases run with
      | act move run =>
        obtain ⟨rfl, here⟩ | ⟨a, t, here, rest⟩ := ih _ run
        · exact .inl ⟨rfl, .act move here⟩
        · exact .inr ⟨a, t, .act move here, rest⟩
    | wait trigger next ih =>
      cases run with
      | resumed move ends run =>
        obtain ⟨rfl, here⟩ | ⟨a, t, here, rest⟩ := ih _ run
        · exact .inl ⟨rfl, .resumed move ends here⟩
        · exact .inr ⟨a, t, .resumed move ends here, rest⟩
      | waiting move ends => exact .inl ⟨rfl, .waiting move ends⟩
  -- backwards, the induction is on the execution of the first activity, with its result given
  · rintro (⟨rfl, run⟩ | ⟨a, t, run, rest⟩)
    · generalize e : (none : Option α) = q at run
      induction run with
      | done => cases e
      | act move _ ih => exact .act move (ih e)
      | resumed move ends _ ih => exact .resumed move ends (ih e)
      | waiting move ends => exact .waiting move ends
    · generalize e : some a = q at run
      induction run with
      | done => cases e; exact rest
      | act move _ ih => exact .act move (ih rest e)
      | resumed move ends _ ih => exact .resumed move ends (ih rest e)
      | waiting _ _ => cases e

/-! ## Limits of time -/

/-- An activity comes to a wait whose trigger is not ready. -/
inductive Stuck (S : Setting σ) : Activity σ α → σ → σ → Prop where
  | act {change next s t u} :
    S.between (change s) t →
    Stuck S (next s) t u →
    Stuck S (.act change next) s u
  | resumed {trigger next s t u} :
    S.meanwhile s t →
    trigger.ends t = true →
    Stuck S (next t) t u →
    Stuck S (.wait trigger next) s u
  | here {trigger next s t} :
    S.meanwhile s t →
    trigger.ready t = false →
    Stuck S (.wait trigger next) s t

/-- Two activities one after the other get stuck in the first one or in the second. -/
lemma Stuck.of_bind {S : Setting σ} {p : Activity σ α} {f : α → Activity σ β} {s u}
    (stuck : (p.bind f).Stuck S s u) :
    p.Stuck S s u ∨ ∃ a t, p.Runs S s (some a) t ∧ (f a).Stuck S t u := by
  induction p generalizing s with
  | done a => exact .inr ⟨a, s, .done, stuck⟩
  | act change next ih =>
    cases stuck with
    | act move stuck =>
      obtain here | ⟨a, t, here, rest⟩ := ih _ stuck
      · exact .inl (.act move here)
      · exact .inr ⟨a, t, .act move here, rest⟩
  | wait trigger next ih =>
    cases stuck with
    | resumed move ends stuck =>
      obtain here | ⟨a, t, here, rest⟩ := ih _ stuck
      · exact .inl (.resumed move ends here)
      · exact .inr ⟨a, t, .resumed move ends here, rest⟩
    | here move idle => exact .inl (.here move idle)

/-- Within a limit, an activity comes to its end, or is given up in a wait once the time is up. -/
lemma Runs.of_within {S : Setting σ} {clock : σ → Nat} {deadline : Nat} {p : Activity σ α} {s o u}
    (run : (within clock deadline p).Runs S s (some o) u) :
    (∃ a, o = some a ∧ p.Runs S s (some a) u) ∨
      o = none ∧ deadline ≤ clock u ∧ p.Stuck S s u := by
  induction p generalizing s with
  | done a =>
    cases run
    exact .inl ⟨a, rfl, .done⟩
  | act change next ih =>
    cases run with
    | act move run =>
      obtain ⟨a, rfl, here⟩ | ⟨rfl, late, stuck⟩ := ih _ run
      · exact .inl ⟨a, rfl, .act move here⟩
      · exact .inr ⟨rfl, late, .act move stuck⟩
  | wait trigger next ih =>
    cases run with
    | @resumed _ _ _ t _ _ move ends run =>
      have goesOn (ends : trigger.ends t = true)
          (run : (within clock deadline (next t)).Runs S t (some o) u) :
          (∃ a, o = some a ∧ (wait trigger next).Runs S s (some a) u) ∨
            o = none ∧ deadline ≤ clock u ∧ (wait trigger next).Stuck S s u := by
        obtain ⟨a, rfl, here⟩ | ⟨rfl, late, stuck⟩ := ih _ run
        · exact .inl ⟨a, rfl, .resumed move ends here⟩
        · exact .inr ⟨rfl, late, .resumed move ends stuck⟩
      cases ready : trigger.ready t with
      | true =>
        simp only [ready, Bool.true_or, if_true] at run
        exact goesOn (by simp [Trigger.ends, ready]) run
      | false =>
        by_cases early : clock t < deadline
        · simp only [early, decide_true, Bool.or_true, if_true] at run
          refine goesOn ?_ run
          -- neither is ready, so the wait is idle
          simpa [Trigger.ends, Trigger.or, Trigger.instant, ready, Nat.not_le.2 early] using ends
        · simp only [ready, early, decide_false, Bool.or_false, Bool.false_eq_true, if_false] at run
          cases run
          exact .inr ⟨rfl, Nat.le_of_not_lt early, .here move ready⟩

/-! ## Relations that steps respect -/

/-- Every step of an activity respects a relation. -/
inductive Respects (R : σ → σ → Prop) : Activity σ α → Prop where
  | done {a} :
    Respects R (.done a)
  | act {change next} :
    (∀ s, R s (change s)) →
    (∀ s, Respects R (next s)) →
    Respects R (.act change next)
  | wait {trigger next} :
    (∀ s, Respects R (next s)) →
    Respects R (.wait trigger next)

/-- Two activities one after the other respect a relation if both do. -/
lemma Respects.bind {R : σ → σ → Prop} {p : Activity σ α} {f : α → Activity σ β}
    (first : p.Respects R) (rest : ∀ a, (f a).Respects R) : (p.bind f).Respects R := by
  induction first with
  | done => exact rest _
  | act respects _ ih => exact .act respects ih
  | wait _ ih => exact .wait ih

/-- An activity that respects a relation respects every weaker one. -/
lemma Respects.mono {R R' : σ → σ → Prop} {p : Activity σ α} (respects : p.Respects R)
    (weaker : ∀ {s t}, R s t → R' s t) : p.Respects R' := by
  induction respects with
  | done => exact .done
  | act step _ ih => exact .act (fun s => weaker (step s)) ih
  | wait _ ih => exact .wait ih

/-- An atomic step respects a relation that it follows in every state. -/
lemma Respects.step {R : σ → σ → Prop} {f : σ → α × σ} (steps : ∀ s, R s (f s).2) :
    (step f).Respects R :=
  .act steps fun _ => .done

/-- An atomic change respects a relation that it follows in every state. -/
lemma Respects.change {R : σ → σ → Prop} {f : σ → σ} (changes : ∀ s, R s (f s)) :
    (change f).Respects R :=
  .act changes fun _ => .done

/-- A look respects every reflexive relation. -/
lemma Respects.look {R : σ → σ → Prop} {f : σ → α} (refl : ∀ s, R s s) :
    (look f).Respects R :=
  .act refl fun _ => .done

/-- A wait that ends with a look respects every reflexive relation. -/
lemma Respects.awaitLook {R : σ → σ → Prop} {trigger : Trigger σ} {f : σ → α}
    (refl : ∀ s, R s s) : (awaitLook trigger f).Respects R := by
  refine .act refl fun s => ?_
  split
  · exact .done
  · exact .wait fun _ => .done

/-- A limit of time adds looks at most, so that what respects a relation still does. -/
lemma Respects.within {R : σ → σ → Prop} {clock : σ → Nat} {deadline : Nat} {p : Activity σ α}
    (respects : p.Respects R) : (within clock deadline p).Respects R := by
  induction respects with
  | done => exact .done
  | act step _ ih => exact .act step ih
  | wait _ ih =>
    refine .wait fun s => ?_
    split
    · exact ih s
    · exact .done

/-- What every step and every move of others respects holds for a whole execution. -/
theorem Respects.runs {R : σ → σ → Prop} {S : Setting σ} {p : Activity σ α} {s r u}
    (respects : p.Respects R) (run : p.Runs S s r u) (refl : ∀ s, R s s)
    (trans : ∀ {s t u}, R s t → R t u → R s u) (between : ∀ {s t}, S.between s t → R s t)
    (meanwhile : ∀ {s t}, S.meanwhile s t → R s t) : R s u := by
  induction run with
  | done => exact refl _
  | act move _ ih =>
    cases respects with
    | act step rest => exact trans (step _) (trans (between move) (ih (rest _)))
  | resumed move _ _ ih =>
    cases respects with
    | wait rest => exact trans (meanwhile move) (ih (rest _))
  | waiting move _ => exact meanwhile move

/-! ## Activities that are interrupted only while they wait -/

section
variable {M : σ → σ → Prop} {s u : σ} {r : Option β}

/-- Where nothing comes in between, an execution of a step goes on from the state after it. -/
lemma runs_step {f : σ → α × σ} {k : α → Activity σ β}
    (run : (step f >>= k).Runs ⟨Eq, M⟩ s r u) : (k (f s).1).Runs ⟨Eq, M⟩ (f s).2 r u := by
  cases run with
  | act move run =>
    cases move
    exact run

/-- Where nothing comes in between, an activity that begins with a step gets stuck after it. -/
lemma stuck_step {f : σ → α × σ} {k : α → Activity σ β}
    (stuck : (step f >>= k).Stuck ⟨Eq, M⟩ s u) : (k (f s).1).Stuck ⟨Eq, M⟩ (f s).2 u := by
  cases stuck with
  | act move stuck =>
    cases move
    exact stuck

/-- Where nothing comes in between, an execution of a change goes on from the changed state. -/
lemma runs_change {f : σ → σ} {k : Unit → Activity σ β}
    (run : (change f >>= k).Runs ⟨Eq, M⟩ s r u) : (k ()).Runs ⟨Eq, M⟩ (f s) r u := by
  cases run with
  | act move run =>
    cases move
    exact run

/-- Where nothing comes in between, an activity that begins with a change gets stuck after it. -/
lemma stuck_change {f : σ → σ} {k : Unit → Activity σ β}
    (stuck : (change f >>= k).Stuck ⟨Eq, M⟩ s u) : (k ()).Stuck ⟨Eq, M⟩ (f s) u := by
  cases stuck with
  | act move stuck =>
    cases move
    exact stuck

/-- Where nothing comes in between, an execution of a look goes on from the same state. -/
lemma runs_look {f : σ → α} {k : α → Activity σ β}
    (run : (look f >>= k).Runs ⟨Eq, M⟩ s r u) : (k (f s)).Runs ⟨Eq, M⟩ s r u := by
  cases run with
  | act move run =>
    cases move
    exact run

/-- Where nothing comes in between, an activity that begins with a look gets stuck after it. -/
lemma stuck_look {f : σ → α} {k : α → Activity σ β}
    (stuck : (look f >>= k).Stuck ⟨Eq, M⟩ s u) : (k (f s)).Stuck ⟨Eq, M⟩ s u := by
  cases stuck with
  | act move stuck =>
    cases move
    exact stuck

/-- There is no wait if the trigger is ready at once. -/
lemma runs_awaitLook {trigger : Trigger σ} {f : σ → α} {a}
    (run : (awaitLook trigger f).Runs ⟨Eq, M⟩ s (some a) u) :
    a = f u ∧ (u = s ∧ trigger.ready s = true ∨
      trigger.ready s = false ∧ M s u ∧ trigger.ends u = true) := by
  cases run with
  | act move run =>
    cases move
    dsimp only at run
    split at run
    next ready =>
      cases run
      exact ⟨rfl, .inl ⟨rfl, ready⟩⟩
    next waits =>
      cases run with
      | resumed move ends run =>
        cases run
        exact ⟨rfl, .inr ⟨Bool.eq_false_iff.2 waits, move, ends⟩⟩

end

end Activity

/-! ## The clock -/

namespace Clockwork

/-- Time passes, and the background goes on. -/
inductive Passes (c : Clockwork σ) : σ → σ → Prop where
  | refl {s} :
    Passes c s s
  | settle {s t} :
    Passes c (c.settle s) t →
    Passes c s t
  | advance {s t next} :
    c.now s < next →
    Passes c (c.advanceTo next s) t →
    Passes c s t

/-- Time can pass until a later instant, at which the background settles. -/
lemma Passes.until {c : Clockwork σ} {s : σ} {next : Nat} (early : c.now s < next) :
    c.Passes s (c.settle (c.advanceTo next s)) :=
  .advance early (.settle .refl)

/-- The setting of an activity that is alone with the background. -/
def setting (c : Clockwork σ) : Setting σ where
  between := Eq
  meanwhile := c.Passes

section
open Activity

variable {c : Clockwork σ} {s u : σ}

/-- A wait ends in a state in which its trigger can end it. -/
lemma runs_awaitLook {trigger : Trigger σ} {f : σ → α} {a}
    (run : (awaitLook trigger f).Runs c.setting s (some a) u) :
    c.Passes s u ∧ trigger.ends u = true ∧ a = f u := by
  obtain ⟨rfl, ⟨rfl, ready⟩ | ⟨-, passes, ends⟩⟩ := Activity.runs_awaitLook run
  · exact ⟨.refl, by simp [Trigger.ends, ready], rfl⟩
  · exact ⟨passes, ends, rfl⟩

/-- A wait that cannot end is left in a state in which its trigger is not ready. -/
lemma stuck_awaitLook {trigger : Trigger σ} {f : σ → α}
    (stuck : (awaitLook trigger f).Stuck c.setting s u) :
    c.Passes s u ∧ trigger.ready u = false := by
  cases stuck with
  | act move stuck =>
    cases move
    dsimp only at stuck
    split at stuck
    next => cases stuck
    next =>
      cases stuck with
      | resumed _ _ stuck => cases stuck
      | here passes idle => exact ⟨passes, idle⟩

end

/-- Without jumps, time passes only if the wait can end once the background has settled. -/
lemma passTime_zero {c : Clockwork σ} {trigger : Trigger σ} {s} :
    c.passTime trigger 0 s =
      if trigger.ends (c.settle s) then some (c.settle s) else none := rfl

/-- With jumps left, a wait ends once the background has settled, or time goes on to the next
alarm. -/
lemma passTime_succ {c : Clockwork σ} {trigger : Trigger σ} {jumps s} :
    c.passTime trigger (jumps + 1) s =
      if trigger.ends (c.settle s) then some (c.settle s)
      else
        match earliest (trigger.alarm (c.settle s)) (c.alarm (c.settle s)) with
        | some next =>
          if next ≤ c.now (c.settle s) then none
          else c.passTime trigger jumps (c.advanceTo next (c.settle s))
        | none => none := by
  conv => lhs; unfold passTime
  dsimp only
  cases earliest (trigger.alarm (c.settle s)) (c.alarm (c.settle s)) <;> rfl

/-- Time passes until the wait can end. -/
lemma passTime_eq_some {c : Clockwork σ} {trigger : Trigger σ} {jumps s t}
    (h : c.passTime trigger jumps s = some t) : c.Passes s t ∧ trigger.ends t = true := by
  -- by induction on the jumps of the clock, each after the world has settled
  induction jumps generalizing s with
  | zero =>
    rw [passTime_zero] at h
    split at h
    next ends =>
      cases h
      exact ⟨.settle .refl, ends⟩
    next => cases h
  | succ jumps ih =>
    rw [passTime_succ] at h
    split at h
    next ends =>
      cases h
      exact ⟨.settle .refl, ends⟩
    next =>
      split at h
      next next _ =>
        split at h
        next => cases h
        next later =>
          obtain ⟨passes, ends⟩ := ih h
          exact ⟨.settle (.advance (Nat.lt_of_not_le later) passes), ends⟩
      next => cases h

/-- An idle wait ends. -/
lemma idle_of_passTime_eq_none {c : Clockwork σ} {trigger : Trigger σ} {jumps s}
    (h : c.passTime trigger jumps s = none) : trigger.idle = false := by
  cases idle : trigger.idle with
  | false => rfl
  | true =>
    have ends : trigger.ends (c.settle s) = true := by simp [Trigger.ends, idle]
    cases jumps with
    | zero => simp [passTime_zero, ends] at h
    | succ jumps => simp [passTime_succ, ends] at h

/-- What the clock makes of an activity is an execution. -/
theorem run_runs {c : Clockwork σ} {horizon : Nat} {p : Activity σ α} {s r u}
    (h : c.run horizon p s = (r, u)) : p.Runs c.setting s r u := by
  induction p generalizing s with
  | done a =>
    cases h
    exact .done
  | act change next ih => exact .act rfl (ih _ h)
  | wait trigger next ih =>
    rw [run] at h
    split at h
    next ready => exact .resumed .refl (by simp [Trigger.ends, ready]) (ih _ h)
    next ready =>
      split at h
      next t passed =>
        obtain ⟨passes, ends⟩ := passTime_eq_some passed
        exact .resumed passes ends (ih _ h)
      next stuck =>
        cases h
        have idle := idle_of_passTime_eq_none stuck
        exact .waiting .refl (by simp [Trigger.ends, ready, idle])

end Clockwork

end Supervision
