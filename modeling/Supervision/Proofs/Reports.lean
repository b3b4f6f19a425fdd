import Supervision.Proofs.Desk

/-!
# Reports at the desk of a server

What a task reports waits in its slot until the visit that stops the task comes to its end. Calls
bring nothing to a slot (`Sound.reported_back`), and nothing but the end of a visit takes anything
out of it (`Sound.reported_forth`).
-/

namespace Supervision.Server
open Net World

variable {κ υ : Type} {id k i j : Nat} {e : ServerError}

/-- A new task has reported nothing: whatever has was there before. -/
lemma Spawns.reported_back {a : Option SocketAddress} {w w' : World κ υ}
    (spawns : Spawns id k a w w') (owns : w'.Owns id j) (after : w'.reported j = some e) :
    w.Owns id j ∧ w.reported j = some e := by
  rw [spawns.reported] at after
  refine ⟨?_, after⟩
  obtain ⟨t, here, -⟩ := Option.bind_eq_some_iff.1 after
  have other : j ≠ k := by
    rintro rfl
    rw [spawns.number, List.getElem?_eq_none (Nat.le_refl _)] at here
    cases here
  rwa [World.Owns, spawns.others other] at owns

/-- Taking a task makes no report. -/
lemma Takes.reported_back {w w' : World κ υ} (takes : Takes id k w w')
    (task : ∃ t, w.tasks[k]? = some t) (owns : w'.Owns id j) (after : w'.reported j = some e) :
    w.Owns id j ∧ w.reported j = some e := by
  obtain ⟨t, here⟩ := task
  exact ⟨(takes.tends here).owns.1 owns, takes.reported.symm.trans after⟩

/-- The conclusion of a stop makes no report. -/
lemma Concludes.reported_back {w w' : World κ υ} (concludes : Concludes id k w w')
    (owns : w'.Owns id j) (after : w'.reported j = some e) :
    w.Owns id j ∧ w.reported j = some e := by
  have other : j ≠ k := by
    rintro rfl
    cases concludes.drained.symm.trans after
  exact ⟨concludes.tends.owns.1 owns, (concludes.reported other).symm.trans after⟩

namespace Desk

variable {may : Desk κ υ → Prop} {d₀ d d' : Desk κ υ} {u v : Visit κ υ}

/-! ## Visits go on -/

/-- A visit remains the same call, and remains as it is when it is over. -/
lemma Step.visit (step : Step id may d d') (here : d.visits[i]? = some v) :
    ∃ v', d'.visits[i]? = some v' ∧ v'.use = v.use ∧ v'.began = v.began ∧ (v.IsOver → v' = v) := by
  cases step with
  | begins use =>
    refine ⟨v, ?_, rfl, rfl, fun _ => rfl⟩
    exact (List.getElem?_append_left (List.getElem?_eq_some_iff.1 here).1).trans here
  | @resumes j u trigger next there waits =>
    by_cases same : j = i
    · subst same
      cases there.symm.trans here
      refine ⟨_, List.getElem?_set_self (List.getElem?_eq_some_iff.1 here).1, rfl, rfl, ?_⟩
      exact fun ended => absurd ended (Visit.not_isOver waits)
    · exact ⟨v, (List.getElem?_set_ne same).trans here, rfl, rfl, fun _ => rfl⟩
  | besides => exact ⟨v, here, rfl, rfl, fun _ => rfl⟩

/-- A visit stays at the desk as it began, and does not change once it is over. -/
lemma visit_of_reaches (reaches : Reaches id may d d') (here : d.visits[i]? = some v) :
    ∃ v', d'.visits[i]? = some v' ∧ v'.use = v.use ∧ v'.began = v.began ∧
      (v.IsOver → v' = v) := by
  induction reaches with
  | refl => exact ⟨v, here, rfl, rfl, fun _ => rfl⟩
  | tail _ step ih =>
    obtain ⟨v', here', use', began', same'⟩ := ih
    obtain ⟨v'', here'', use'', began'', same''⟩ := step.visit here'
    refine ⟨v'', here'', use''.trans use', began''.trans began', fun ended => ?_⟩
    obtain rfl := same' ended
    exact same'' ended

/-- At a desk with one more visit, a visit is one of those before, or the new one. -/
lemma concat_cases {visits : List (Visit κ υ)} {u v : Visit κ υ} {i : Nat}
    (here : (visits ++ [v])[i]? = some u) : visits[i]? = some u ∨ i = visits.length ∧ u = v := by
  rw [List.getElem?_append] at here
  split at here
  · exact .inl here
  next outside =>
    right
    have inside : i - visits.length < 1 := (List.getElem?_eq_some_iff.1 here).1
    have last : i = visits.length := by omega
    rw [last, Nat.sub_self] at here
    cases here
    exact ⟨last, rfl⟩

/-- A visit comes to its end in a step from the desk. -/
structure EndsAt (id i : Nat) (v : Visit κ υ) (d : Desk κ υ) : Prop where
  before : v.before = d.world
  waits : ∀ u, d.visits[i]? = some u → ¬u.IsOver ∧ u.stopped? id = v.stopped? id
  began : d.visits[i]? = none → v.began = d.world

/-- A visit that is over comes to its end in this step, or was over before. -/
lemma Step.ends (step : Step id may d d') (here : d'.visits[i]? = some v) (ended : v.IsOver) :
    d.visits[i]? = some v ∨ EndsAt id i v d := by
  cases step with
  | begins use =>
    rcases concat_cases here with old | ⟨rfl, rfl⟩
    · exact .inl old
    · refine .inr ⟨rfl, fun u before => ?_, fun _ => rfl⟩
      rw [List.getElem?_eq_none (Nat.le_refl _)] at before
      cases before
  | @resumes j u trigger next there waits =>
    by_cases same : j = i
    · subst same
      have inside := (List.getElem?_eq_some_iff.1 there).1
      cases (List.getElem?_set_self inside).symm.trans here
      refine .inr ⟨rfl, fun u' there' => ?_, fun none => ?_⟩
      · cases there.symm.trans there'
        exact ⟨Visit.not_isOver waits, rfl⟩
      · cases there.symm.trans none
    · exact .inl ((List.getElem?_set_ne same).symm.trans here)
  | besides => exact .inl here

/-- A visit that is over has come to its end in one of the steps. -/
lemma ends_of_reaches (reaches : Reaches id may d d') (here : d'.visits[i]? = some v)
    (ended : v.IsOver) (before : ∀ u, d.visits[i]? = some u → ¬u.IsOver) :
    ∃ x y, Reaches id may d x ∧ Step id may x y ∧ Reaches id may y d' ∧ EndsAt id i v x := by
  induction reaches with
  | refl => exact absurd ended (before v here)
  | @tail z z' first step ih =>
    obtain old | ends := step.ends here ended
    · obtain ⟨x, y, first, last, rest, ends⟩ := ih old
      exact ⟨x, y, first, last, rest.tail step, ends⟩
    · exact ⟨z, z', first, step, .refl, ends⟩

/-- The task that a visit has stopped is one of the server. -/
lemma EndsAt.owns (ends : EndsAt id i v d) (sound : d.Sound id) (stops : v.stopped? id = some k) :
    d.world.Owns id k := by
  cases there : d.visits[i]? with
  | none =>
    refine sound.custody.held k ?_
    rw [← ends.began there]
    unfold Visit.stopped? at stops
    split at stops
    · cases stops
    · exact stops
  | some u =>
    obtain ⟨waits, same⟩ := ends.waits u there
    exact sound.custody.stops k ⟨u, List.mem_of_getElem? there, waits, same.trans stops⟩

/-! ## Slots -/

/-- What is in a slot after a step was there before, or is reported in this step. -/
lemma Sound.reported_back (sound : d.Sound id) (step : Step id may d d') (owns : d'.world.Owns id k)
    (after : d'.world.reported k = some e) :
    d.world.Owns id k ∧ (d.world.reported k = some e ∨
      ∃ w, Reports k e d.world w ∧ d' = { d with world := w }) := by
  have known {s : Server} {j : Nat} (server : d.world.servers[id]? = some s)
      (serving : s.serving = some j) : ∃ t, d.world.tasks[j]? = some t :=
    sound.custody.hasTask j (held_of_serving server serving)
  cases sound.moves step with
  | begins _ begins =>
    -- visits report nothing by themselves: it is the task that does, beside them
    apply And.imp_right Or.inl
    cases begins with
    | refused => exact ⟨owns, after⟩
    | spawned kind spawns => exact spawns.reported_back owns after
    | failed => exact ⟨owns, after⟩
    | claims => exact ⟨owns, after⟩
    | nothing => exact ⟨owns, after⟩
    | takes server serving takes => exact takes.reported_back (known server serving) owns after
    | stops server serving takes stops =>
      obtain ⟨owns, after⟩ := stops.concludes.reported_back owns after
      exact takes.reported_back (known server serving) owns after
  | resumes there waits resumes =>
    apply And.imp_right Or.inl
    cases resumes with
    | refused => exact ⟨owns, after⟩
    | spawned use kind spawns => exact spawns.reported_back owns after
    | stops use began serving stops => exact stops.concludes.reported_back owns after
  | besides besides =>
    obtain ⟨news, minds⟩ := besides.minds
    refine ⟨minds.tends.owns.1 owns, ?_⟩
    exact (besides.reports owns after).imp_right fun reports => ⟨_, reports, rfl⟩

/-- What is in a slot remains there, unless a visit that stops the task is over. -/
lemma Sound.reported_forth (sound : d.Sound id) (step : Step id may d d') (owns : d.world.Owns id k)
    (before : d.world.reported k = some e) :
    d'.world.reported k = some e ∨
      ∃ (j : Nat) (u : Visit κ υ), d'.visits[j]? = some u ∧ u.IsOver ∧ u.stopped? id = some k := by
  cases sound.moves step with
  | begins _ begins =>
    cases begins with
    | refused => exact .inl before
    | spawned kind spawns => exact .inl (spawns.reported.trans before)
    | failed => exact .inl before
    | claims => exact .inl before
    | nothing => exact .inl before
    | takes server serving takes => exact .inl (takes.reported.trans before)
    | @stops ctx s j v result w server serving takes stops =>
      by_cases same : k = j
      · subst same
        refine .inr ⟨_, _, List.getElem?_concat_length, ⟨_, rfl⟩, ?_⟩
        exact Visit.stopped?_eq rfl server serving
      · exact .inl ((stops.concludes.reported same).trans (takes.reported.trans before))
  | @resumes i v rest w there waits resumes =>
    cases resumes with
    | refused => exact .inl before
    | spawned use kind spawns => exact .inl (spawns.reported.trans before)
    | @stops ctx s j result w use began serving stops =>
      by_cases same : k = j
      · subst same
        have inside := (List.getElem?_eq_some_iff.1 there).1
        refine .inr ⟨i, _, List.getElem?_set_self inside, ⟨_, rfl⟩, ?_⟩
        exact Visit.stopped?_eq use began serving
      · exact .inl ((stops.concludes.reported same).trans before)
  | besides besides =>
    obtain ⟨news, minds⟩ := besides.minds
    obtain ⟨t, here, own⟩ := owns
    exact .inl (minds.reported here own (sound.custody.slots k t here own) before)

/-- Before a visit comes to its end, the task has reported an error. -/
def ReportsBefore (id : Nat) (may : Desk κ υ → Prop) (d₀ d : Desk κ υ) (i k : Nat)
    (e : ServerError) : Prop :=
  ∃ x w, Reaches id may d₀ x ∧ x.world.Owns id k ∧ Reports k e x.world w ∧
    Reaches id may { x with world := w } d ∧ ∀ u, x.visits[i]? = some u → ¬u.IsOver

/-- Whatever is in the slot of a task was reported by the task. -/
lemma Sound.reported_before (sound : d₀.Sound id) (none : ∀ k, ¬d₀.world.Owns id k)
    (reaches : Reaches id may d₀ d) (owns : d.world.Owns id k)
    (after : d.world.reported k = some e) (waits : ∀ u, d.visits[i]? = some u → ¬u.IsOver) :
    ReportsBefore id may d₀ d i k e := by
  induction reaches with
  | refl => exact absurd owns (none k)
  | @tail x y first step ih =>
    -- a visit that has not come to its end now has not come to it before
    have waits' (u : Visit κ υ) (there : x.visits[i]? = some u) : ¬u.IsOver := by
      intro ended
      obtain ⟨u', there', -, -, same⟩ := step.visit there
      obtain rfl := same ended
      exact waits u' there' ended
    obtain ⟨owned, before | ⟨w, reports, rfl⟩⟩ :=
      (sound.reaches first).reported_back step owns after
    · obtain ⟨x', w, first', owns', reports, rest, nobody⟩ := ih owned before waits'
      exact ⟨x', w, first', owns', reports, rest.tail step, nobody⟩
    · exact ⟨x, w, first, owned, reports, .refl, waits'⟩

/-- What is in the slot of a task is there when the visit that stops the task comes to its end. -/
lemma Sound.reported_until (sound : d.Sound id) (owns : d.world.Owns id k)
    (before : d.world.reported k = some e) (waits : ∀ u, d.visits[i]? = some u → ¬u.IsOver)
    (reaches : Reaches id may d d') (here : d'.visits[i]? = some v) (ended : v.IsOver)
    (only : ∀ (j : Nat) (u : Visit κ υ), d'.visits[j]? = some u → u.stopped? id = some k → j = i) :
    v.before.reported k = some e := by
  induction reaches using Relation.ReflTransGen.head_induction_on with
  | refl => exact absurd ended (waits v here)
  | @head x y step rest ih =>
    by_cases finished : ∃ u, y.visits[i]? = some u ∧ u.IsOver
    · -- the visit has come to its end in this step, and stays as it is
      obtain ⟨u, there, ended'⟩ := finished
      obtain ⟨v', here', -, -, same⟩ := visit_of_reaches rest there
      obtain rfl := same ended'
      cases here'.symm.trans here
      obtain old | ends := step.ends there ended'
      · exact absurd ended' (waits _ old)
      · rw [ends.before]
        exact before
    · have waits' (u : Visit κ υ) (there : y.visits[i]? = some u) : ¬u.IsOver :=
        fun ended' => finished ⟨u, there, ended'⟩
      obtain still | ⟨j, u, there, ended', stops⟩ := sound.reported_forth step owns before
      · exact ih (sound.step step) (sound.owns step owns) still waits'
      · -- another visit that stops the task would be a second one at the end of the run
        obtain ⟨u', there', use, began, -⟩ := visit_of_reaches rest there
        have same : j = i := by
          refine only j u' there' ?_
          rw [← stops, Visit.stopped?, Visit.stopped?, use, began]
        rw [same] at there
        exact absurd ended' (waits' u there)

/-- The visit that stops a task finds the errors in its slot that the task has reported before. -/
theorem Sound.reported_iff (sound : d₀.Sound id) (visits : d₀.visits = [])
    (none : ∀ k, ¬d₀.world.Owns id k) (reaches : Reaches id may d₀ d)
    (here : d.visits[i]? = some v) (ended : v.IsOver) (stops : v.stopped? id = some k)
    (only : ∀ (j : Nat) (u : Visit κ υ), d.visits[j]? = some u → u.stopped? id = some k → j = i) :
    v.before.reported k = some e ↔ ReportsBefore id may d₀ d i k e := by
  constructor
  · intro after
    have nobody (u : Visit κ υ) (there : d₀.visits[i]? = some u) : ¬u.IsOver := by
      rw [visits] at there
      cases there
    -- the error is in the slot before the last step of the visit
    obtain ⟨y, z, first, last, rest, ends⟩ := ends_of_reaches reaches here ended nobody
    rw [ends.before] at after
    have owns := ends.owns (sound.reaches first) stops
    have waits (u : Visit κ υ) (there : y.visits[i]? = some u) : ¬u.IsOver :=
      (ends.waits u there).1
    obtain ⟨x, w, first, owns, reports, between, waits⟩ :=
      sound.reported_before none first owns after waits
    exact ⟨x, w, first, owns, reports, (between.tail last).trans rest, waits⟩
  · rintro ⟨x, w, first, owns, reports, rest, waits⟩
    have step : Step id may x { x with world := w } := .besides reports.besides
    have sound' := (sound.reaches first).step step
    have owns' := (sound.reaches first).owns step owns
    exact sound'.reported_until owns' reports.reported waits rest here ended only

end Desk

end Supervision.Server
