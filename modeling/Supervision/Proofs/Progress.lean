import Supervision.Proofs.Calls
import Supervision.Proofs.Race

/-!
# Progress by the clock

An activity that ends at once (`Activity.AtOnce`) is not held up by the clock, nor by another
activity that waits (`Activity.AtOnce.run_behind`). A plan proceeds from call to call
(`Plan.Proceeds`) as its calls do: if these end at once, so does the plan, and if the clock brings
them to their ends, it brings the plan to its end, along the same course.
-/

namespace Supervision

variable {κ υ σ α β γ : Type}

namespace Activity

/-- An activity comes to its end, and never waits for anything that is still to come about. Where it
might have to wait, the state is as `P` says. -/
inductive AtOnce (P : σ → Prop) : Activity σ α → σ → α → σ → Prop where
  | done {a s} :
    AtOnce P (.done a) s a s
  | act {change next s a t} :
    AtOnce P (next s) (change s) a t →
    AtOnce P (.act change next) s a t
  | pass {trigger next s a t} :
    P s →
    trigger.ready s = true →
    AtOnce P (next s) s a t →
    AtOnce P (.wait trigger next) s a t

namespace AtOnce

variable {P : σ → Prop} {p : Activity σ α} {f : α → Activity σ β} {c : Clockwork σ}
  {horizon : Nat} {s t u : σ} {a : α} {b : β}

/-- Two activities come to their end at once if both do, one after the other. -/
lemma bind (first : p.AtOnce P s a t) (rest : (f a).AtOnce P t b u) :
    (p.bind f).AtOnce P s b u := by
  induction first with
  | done => exact rest
  | act _ ih => exact .act (ih rest)
  | pass here ready _ ih => exact .pass here ready (ih rest)

/-- A step comes to its end at once. -/
lemma step {f : σ → α × σ} (comes : f s = (a, t)) : (Activity.step f).AtOnce P s a t := by
  have ends : (Activity.step f).AtOnce P s (f s).1 (f s).2 := .act .done
  rwa [comes] at ends

/-- It is an execution in every setting that may leave the state alone. -/
lemma runs {S : Setting σ} (ends : p.AtOnce P s a t) (between : ∀ s, S.between s s)
    (meanwhile : ∀ s, S.meanwhile s s) : p.Runs S s (some a) t := by
  induction ends with
  | done => exact .done
  | act _ ih => exact .act (between _) ih
  | pass _ ready _ ih => exact .resumed (meanwhile _) (by simp [Trigger.ends, ready]) ih

/-- Another activity does not hold it up, as long as that waits. -/
lemma run_behind {trigger : Trigger σ} {resume : σ → Activity σ β → Activity σ γ}
    {ended : β → Activity σ γ} (ends : p.AtOnce P s a t)
    (waits : ∀ s, P s → trigger.ready s = false) :
    c.run horizon (behind trigger resume ended (p.bind f)) s =
      c.run horizon (behind trigger resume ended (f a)) t := by
  induction ends with
  | done => rfl
  | act _ ih => exact ih
  | @pass own next s a t here ready _ ih =>
    have either : (trigger.or own).ready s = true := by simp [Trigger.or, ready]
    have second : ¬trigger.isFirst own s = true := by simp [Trigger.isFirst, waits s here, ready]
    rw [Activity.bind, behind, Clockwork.run, if_pos either, if_neg second]
    exact ih

end AtOnce

/-- An execution in a setting is one in every setting that allows for more. -/
lemma Runs.mono {S S' : Setting σ} {p : Activity σ α} {s t : σ} {r : Option α}
    (run : p.Runs S s r t) (between : ∀ {s t}, S.between s t → S'.between s t)
    (meanwhile : ∀ {s t}, S.meanwhile s t → S'.meanwhile s t) : p.Runs S' s r t := by
  induction run with
  | done => exact .done
  | act move _ ih => exact .act (between move) ih
  | resumed move ends _ ih => exact .resumed (meanwhile move) ends ih
  | waiting move ends => exact .waiting (meanwhile move) ends

/-! ## Waits -/

section
variable {c : Clockwork σ} {horizon : Nat} {trigger own : Trigger σ} {s : σ}

/-- An activity that waits, on the left of another one. -/
lemma run_merge_await {leftEnded : α → Activity σ β → Activity σ γ}
    {rightEnded : Activity σ α → β → Activity σ γ} {f : Unit → Activity σ α} {q : Activity σ β}
    (waits : own.ready s = false) :
    c.run horizon (merge leftEnded rightEnded ((await own).bind f) q) s =
      c.run horizon (merge leftEnded rightEnded (.wait own fun _ => f ()) q) s := by
  simp [await, awaitLook, Activity.bind, merge, Clockwork.run, waits]

/-- And on the right. -/
lemma run_behind_await {resume : σ → Activity σ β → Activity σ γ} {ended : β → Activity σ γ}
    {f : Unit → Activity σ β} (waits : own.ready s = false) :
    c.run horizon (behind trigger resume ended ((await own).bind f)) s =
      c.run horizon (behind trigger resume ended (.wait own fun _ => f ())) s := by
  simp [await, awaitLook, Activity.bind, behind, Clockwork.run, waits]

end

end Activity

/-- The clock brings an activity to its end. -/
def Clockwork.Ends (c : Clockwork σ) (horizon : Nat) (p : Activity σ α) (s : σ) (a : α) (t : σ) :
    Prop :=
  c.run horizon p s = (some a, t)

namespace Plan

/-- A plan comes to its end without any wait of its own, and its calls proceed as `F` says. -/
inductive Proceeds (F : Flow κ υ Outcome → World κ υ → Outcome → World κ υ → Prop)
    (b : Behaviour κ υ) : Plan κ υ α → World κ υ → Course κ υ → α → World κ υ → Prop where
  | done {a w} :
    Proceeds F b (.done a) w [] a w
  | act {change next w course a u} :
    Proceeds F b (next w) (change w) course a u →
    Proceeds F b (.act change next) w (.own w :: course) a u
  | call {c ctx next w outcome v course a u} :
    F (c.flow b ctx) w outcome v →
    Proceeds F b (next outcome) v course a u →
    Proceeds F b (.call c ctx next) w (.called ⟨c, ctx, w, some outcome, v⟩ :: course) a u

namespace Proceeds

variable {F : Flow κ υ Outcome → World κ υ → Outcome → World κ υ → Prop} {b : Behaviour κ υ}
  {p : Plan κ υ α} {f : α → Plan κ υ β} {w v u : World κ υ} {course rest : Course κ υ} {a : α}
  {a' : β} {horizon : Nat}

/-- One plan after another proceeds if both do. -/
lemma bind (first : p.Proceeds F b w course a v) (next : (f a).Proceeds F b v rest a' u) :
    (p.bind f).Proceeds F b w (course ++ rest) a' u := by
  induction first with
  | done => exact next
  | act _ ih => exact .act (ih next)
  | call called _ ih => exact .call called (ih next)

/-- A plan that proceeds has an execution in every setting that may leave the world alone. -/
lemma runs {S : Setting (World κ υ)} (proceeds : p.Proceeds F b w course a u)
    (between : ∀ w, S.between w w)
    (calls : ∀ {p w o v}, F p w o v → p.Runs S w (some o) v) :
    p.Runs S b w course (some a) u := by
  induction proceeds with
  | done => exact .done
  | act _ ih => exact .act (between _) ih
  | call called _ ih => exact .call (calls called) ih

/-- The flow of a plan that proceeds comes to its end at once. -/
lemma atOnce {P : World κ υ → Prop} (proceeds : p.Proceeds (Activity.AtOnce P) b w course a u) :
    (p.perform b).AtOnce P w a u := by
  induction proceeds with
  | done => exact .done
  | act _ ih => exact .act ih
  | call called _ ih => exact called.bind ih

/-- The clock brings a plan to its end if it brings every call to its end. -/
lemma ends {c : Clockwork (World κ υ)} (proceeds : p.Proceeds (c.Ends horizon) b w course a u) :
    c.Ends horizon (p.perform b) w a u := by
  unfold Clockwork.Ends
  induction proceeds with
  | done => rfl
  | act _ ih => exact ih
  | call called _ ih => exact (Clockwork.run_bind called).trans ih

/-! ## Calls in order -/

variable {c : Call κ} {cs : List (Call κ)} {ctx : Token} {note : Note κ υ} {outcome : Outcome}

/-- An attempt proceeds if its call does. -/
lemma attempt (called : F (c.flow b ctx) w outcome v) :
    (Plan.attempt note ctx c).Proceeds F b w [.called ⟨c, ctx, w, some outcome, v⟩, .own v] outcome
      (note c outcome v) :=
  .call called (.act .done)

/-- If the first call succeeds, then the plan proceeds to the next one. -/
lemma tryEach_next {r : Option (Call κ × Cause)} (called : F (c.flow b ctx) w (.ok ()) v)
    (proceeds : (tryEach ctx cs).Proceeds F b (c.note (.ok ()) v) course r u) :
    (tryEach ctx (c :: cs)).Proceeds F b w
      (.called ⟨c, ctx, w, some (.ok ()), v⟩ :: .own v :: course) r u :=
  (attempt called).bind proceeds

/-- If the first call fails, then no other is made. -/
lemma tryEach_fails {cause : Cause} (called : F (c.flow b ctx) w (.error cause) v) :
    (tryEach ctx (c :: cs)).Proceeds F b w
      [.called ⟨c, ctx, w, some (.error cause), v⟩, .own v] (some (c, cause))
      (c.note (.error cause) v) :=
  (attempt called).bind .done

/-- Whatever the first call returns, the plan proceeds to the next one. -/
lemma callEach_next {failures : List LifecycleError} (called : F (c.flow b ctx) w outcome v)
    (proceeds : (callEach note ctx cs).Proceeds F b (note c outcome v) course failures u) :
    (callEach note ctx (c :: cs)).Proceeds F b w
      (.called ⟨c, ctx, w, some outcome, v⟩ :: .own v :: course)
      ((c.failure? outcome).toList ++ failures) u := by
  rw [← List.append_nil course]
  exact (attempt called).bind (proceeds.bind .done)

end Proceeds

end Plan

end Supervision
