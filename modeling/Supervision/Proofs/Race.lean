import Mathlib.Data.Nat.Find
import Supervision.Proofs.Rest
import Supervision.Proofs.Stop

/-!
# The race of a stop

A stop looks at its task when it is called, and then at every instant until one of three events has
come about: the task has ended, the time is up, or the context is cancelled. `stopTask_race` says
that it ends in time, with the first of them, and how.
-/

namespace Supervision

namespace Clockwork

variable {σ α β : Type} {c : Clockwork σ} {horizon : Nat} {trigger : Trigger σ} {s t : σ}

/-- The clock runs one activity after another as it runs each of them. -/
lemma run_bind {p : Activity σ α} {f : α → Activity σ β} {a}
    (first : c.run horizon p s = (some a, t)) :
    c.run horizon (p.bind f) s = c.run horizon (f a) t := by
  induction p generalizing s with
  | done b =>
    cases first
    rfl
  | act change next ih => exact ih _ first
  | wait trigger next ih =>
    rw [Activity.bind, run]
    rw [run] at first
    by_cases ready : trigger.ready s = true
    · rw [if_pos ready] at first ⊢
      exact ih _ first
    · rw [if_neg ready] at first ⊢
      cases passed : c.passTime trigger (horizon - c.now s) s with
      | none =>
        rw [passed] at first
        cases first
      | some u =>
        rw [passed] at first
        exact ih _ first

/-- The clock does not wait for a trigger that is ready. -/
lemma run_awaitLook_ready {f : σ → α} (ready : trigger.ready s = true) :
    c.run horizon (Activity.awaitLook trigger f) s = (some (f s), s) := by
  simp [Activity.awaitLook, run, ready]

/-- The clock lets time pass until the trigger of a wait is ready. -/
lemma run_awaitLook {f : σ → α} (waits : trigger.ready s = false)
    (passes : c.passTime trigger (horizon - c.now s) s = some t) :
    c.run horizon (Activity.awaitLook trigger f) s = (some (f t), t) := by
  simp [Activity.awaitLook, run, waits, passes]

end Clockwork

namespace Server
open Activity World

variable {κ υ : Type} {task ms deadline horizon n : Nat} {ctx : Token} {w v : World κ υ}

/-- The task is asked to shut down. -/
def request (t : ServeTask) : ServeTask :=
  { t with graceful := true }

/-- The world at which a stop looks for the `n`-th time. The background takes its turns between two
looks, and from the second one on, there is one look in every millisecond. -/
def look (task : Nat) (w : World κ υ) : Nat → World κ υ
  | 0 => w.changeTask task request
  | n + 1 => (w.changeTask task request).leftAlone n

/-- None of the events that decide a stop has come about. -/
structure Undecided (task deadline : Nat) (ctx : Token) (w : World κ υ) : Prop where
  serves : ∀ t, w.tasks[task]? = some t → t.hasEnded = false
  early : w.now < deadline
  live : w.isCancelled ctx = false

/-- How a stop ends in a world: what it reports, and which orders the task has if it had those of
`before`. The end of the task comes before the time, and the time before the context. -/
inductive Decided (task ms deadline : Nat) (ctx : Token) (w : World κ υ) (before : Orders) :
    Except (Errors ServerError) Unit → Orders → Prop where
  | ended {t : ServeTask} {panicked : Bool} :
    w.tasks[task]? = some t →
    t.progress = .ended panicked →
    Decided task ms deadline ctx w before
      (Errors.outcome ((if panicked then [.serve (.text "serve task panicked")] else []) ++
        t.slot.content.toList))
      { before with graceful := true }
  | late {t : ServeTask} :
    w.tasks[task]? = some t →
    t.hasEnded = false →
    deadline ≤ w.now →
    Decided task ms deadline ctx w before
      (.error ⟨.shutdownTimedOut (.ofMillis ms), t.slot.content.toList⟩) ⟨true, true, true⟩
  | cancelled {t : ServeTask} :
    w.tasks[task]? = some t →
    t.hasEnded = false →
    w.now < deadline →
    w.isCancelled ctx = true →
    Decided task ms deadline ctx w before
      (.error ⟨.shutdownCancelled, t.slot.content.toList⟩) ⟨true, true, true⟩

/-- A stop succeeds if the task has ended in order and has reported nothing. -/
lemma Decided.ok_iff {before result orders}
    (decided : Decided task ms deadline ctx w before result orders) :
    result = .ok () ↔
      ∃ t, w.tasks[task]? = some t ∧ t.progress = .ended false ∧ t.slot.content = none := by
  -- a race that is lost is a failure, and its task had not ended
  have running {t : ServeTask} {failures} (here : w.tasks[task]? = some t)
      (live : t.hasEnded = false) :
      (Except.error failures : Except (Errors ServerError) Unit) = .ok () ↔
        ∃ t, w.tasks[task]? = some t ∧ t.progress = .ended false ∧ t.slot.content = none := by
    refine ⟨fun same => (nomatch same), fun ⟨t', here', stage, _⟩ => ?_⟩
    cases here.symm.trans here'
    simp [ServeTask.hasEnded, stage] at live
  cases decided with
  | @ended t panicked here stage =>
    constructor
    · intro success
      cases panicked with
      | true => cases success
      | false =>
        refine ⟨t, here, stage, ?_⟩
        cases content : t.slot.content with
        | none => rfl
        | some e =>
          rw [content] at success
          cases success
    · rintro ⟨t', here', stage', content⟩
      cases here.symm.trans here'
      cases stage.symm.trans stage'
      rw [content]
      rfl
  | late here live _ => exact running here live
  | cancelled here live _ _ => exact running here live

/-! ## Looks -/

/-- At every look, the task has been asked to shut down, and told nothing else. -/
lemma orders_look :
    (look task w n).orders task = (w.orders task).map fun o => { o with graceful := true } := by
  have asked : (w.changeTask task request).orders task =
      (w.orders task).map fun o => { o with graceful := true } := by
    rw [World.orders, World.orders, tasks_changeTask, Option.map_map, Option.map_map]
    rfl
  cases n with
  | zero => exact asked
  | succ n => exact orders_leftAlone.trans asked

/-- From the second look on, there is one in every millisecond. -/
lemma now_look_succ : (look task w (n + 1)).now = w.now + n :=
  now_leftAlone

/-! ## The race -/

/-- The race is open as long as none of its events has come about. -/
lemma raceIn_eq_none_iff :
    raceIn task deadline ctx w = none ↔ Undecided task deadline ctx w := by
  rw [← Option.not_isSome_iff_eq_none, raceIn_isSome]
  constructor
  · intro open'
    refine ⟨fun t here => ?_, Nat.lt_of_not_le fun late => ?_, ?_⟩
    · exact Bool.eq_false_iff.2 fun ended => open' (.inl ⟨t, here, ended⟩)
    · exact open' (.inr (.inl late))
    · exact Bool.eq_false_iff.2 fun cancelled => open' (.inr (.inr cancelled))
  · rintro undecided (⟨t, here, ended⟩ | late | cancelled)
    · simp [undecided.serves t here] at ended
    · exact absurd undecided.early (Nat.not_lt.2 late)
    · simp [undecided.live] at cancelled

/-- The trigger on which a stop waits. -/
def raceTrigger (task deadline : Nat) (ctx : Token) : Trigger (World κ υ) where
  ready w := (raceIn task deadline ctx w).isSome
  alarm _ := some deadline

/-- The trigger of a stop is not ready as long as the race is open. -/
lemma raceTrigger_waits_iff :
    (raceTrigger task deadline ctx).ready w = false ↔ Undecided task deadline ctx w := by
  rw [← raceIn_eq_none_iff]
  exact Option.isSome_eq_false_iff.trans Option.isNone_iff_eq_none

/-- The trigger of a stop is ready at its deadline, and time alone does not make it so before. -/
lemma raceTrigger_isPunctual :
    (raceTrigger task deadline ctx : Trigger (World κ υ)).IsPunctual where
  busy := rfl
  ahead w alarm waits next := by
    cases next
    exact (raceTrigger_waits_iff.1 waits).early
  waits w instant waits before := by
    have undecided := raceTrigger_waits_iff.1 waits
    exact raceTrigger_waits_iff.2 ⟨undecided.serves, before deadline rfl, undecided.live⟩

/-- What a stop does once its race is decided. -/
def finish (task ms : Nat) (winner : Option RaceWinner) :
    Flow κ υ (Except (Errors ServerError) Unit) := do
  match winner with
  | some (.taskEnded _) => pure ()
  | _ => Activity.change (World.changeTask task forceDown)
  let reported ← Activity.step (drainSlot task)
  pure (Errors.outcome (winner.toList.flatMap (raceFailure ms) ++ reported.toList))

/-- A stop asks its task to shut down, and then waits for the race to be decided. -/
lemma run_stopTask :
    World.clockwork.run horizon (stopTask task ms ctx) w =
      World.clockwork.run horizon
        ((Activity.awaitLook (raceTrigger task (w.now + ms) ctx)
          (raceIn task (w.now + ms) ctx)).bind (finish task ms)) (look task w 0) := rfl

/-- What is drained is what the task has reported. -/
lemma drainSlot_fst {t : ServeTask} (here : v.tasks[task]? = some t) :
    (drainSlot task v).1 = t.slot.content := by
  rw [drainSlot, here]
  rfl

/-- To take the report of a task changes no orders. -/
lemma orders_drainSlot : (drainSlot task v).2.orders task = v.orders task := by
  have turns : Turns v (drainSlot task v).2 := by
    unfold drainSlot
    split
    · exact .refl
    · exact .changeTask fun _ => rfl
  exact turns.same.orders task

/-- A task that has ended is not forced down. -/
lemma run_finish_ended {t : ServeTask} {panicked : Bool} (here : v.tasks[task]? = some t) :
    World.clockwork.run horizon (finish task ms (some (.taskEnded panicked))) v =
      (some (Errors.outcome (raceFailure ms (.taskEnded panicked) ++ t.slot.content.toList)),
        (drainSlot task v).2) := by
  rw [← drainSlot_fst here, ← List.append_nil (raceFailure ms _)]
  rfl

/-- If the time or the context decides, the task is forced down before its report is taken. -/
lemma run_finish_forced {t : ServeTask} (winner : RaceWinner) (here : v.tasks[task]? = some t)
    (lost : ∀ panicked, winner ≠ .taskEnded panicked) (asked : t.graceful = true) :
    ∃ u, World.clockwork.run horizon (finish task ms (some winner)) v =
        (some (Errors.outcome (raceFailure ms winner ++ t.slot.content.toList)), u) ∧
      u.now = v.now ∧ u.orders task = some ⟨true, true, true⟩ := by
  have forced : (v.changeTask task forceDown).tasks[task]? = some (forceDown t) := by
    rw [tasks_changeTask, here, Option.map_some]
  refine ⟨(drainSlot task (v.changeTask task forceDown)).2, ?_, now_drainSlot, ?_⟩
  · have drained : (drainSlot task (v.changeTask task forceDown)).1 = (forceDown t).slot.content :=
      drainSlot_fst forced
    have content : (forceDown t).slot.content = t.slot.content := rfl
    rw [← content, ← drained, ← List.append_nil (raceFailure ms winner)]
    cases winner with
    | taskEnded panicked => exact absurd rfl (lost panicked)
    | timeUp => rfl
    | cancelled => rfl
  · rw [orders_drainSlot, World.orders, forced, Option.map_some, ServeTask.orders]
    simp [forceDown, asked]

/-- A stop ends at once when its race is decided. -/
lemma run_finish (horizon ms : Nat) {t : ServeTask} {winner : RaceWinner} {before : Orders}
    (here : v.tasks[task]? = some t) (asked : t.orders = { before with graceful := true })
    (decided : raceIn task deadline ctx v = some winner) :
    ∃ result orders u, World.clockwork.run horizon (finish task ms (some winner)) v =
        (some result, u) ∧ u.now = v.now ∧ u.orders task = some orders ∧
      Decided task ms deadline ctx v before result orders := by
  have graceful : t.graceful = true := congrArg Orders.graceful asked
  rw [raceIn, here, Option.bind_some] at decided
  cases ended : t.ended? with
  | some panicked =>
    rw [ended] at decided
    cases decided
    have stage : t.progress = .ended panicked := by
      cases stage : t.progress <;> simp [ServeTask.ended?, stage] at ended ⊢
      exact ended
    refine ⟨_, _, _, run_finish_ended here, now_drainSlot, ?_, .ended here stage⟩
    rw [orders_drainSlot, World.orders, here, Option.map_some, asked]
  | none =>
    have live : t.hasEnded = false := by
      cases stage : t.progress <;> simp [ServeTask.ended?, ServeTask.hasEnded, stage] at ended ⊢
    rw [ended, raceWinner?] at decided
    by_cases late : deadline ≤ v.now
    · rw [if_pos (by simpa using late)] at decided
      cases decided
      obtain ⟨u, run, now, orders⟩ :=
        run_finish_forced .timeUp here (fun _ h => by cases h) graceful
      exact ⟨_, _, u, run, now, orders, .late here live late⟩
    · rw [if_neg (by simpa using late)] at decided
      cases cancelled : v.isCancelled ctx with
      | false => simp [cancelled] at decided
      | true =>
        rw [cancelled] at decided
        cases decided
        obtain ⟨u, run, now, orders⟩ :=
          run_finish_forced .cancelled here (fun _ h => by cases h) graceful
        exact ⟨_, _, u, run, now, orders, .cancelled here live (Nat.lt_of_not_le late) cancelled⟩

/-- A stop waits for the first look at which its race is decided, and goes on from there. -/
lemma run_stopTask_first {winner : RaceWinner} (enough : w.now + ms ≤ horizon)
    (reached : n ≤ ms + 1)
    (first : ∀ j < n, Undecided task (w.now + ms) ctx (look task w j))
    (decided : raceIn task (w.now + ms) ctx (look task w n) = some winner) :
    World.clockwork.run horizon (stopTask task ms ctx) w =
      World.clockwork.run horizon (finish task ms (some winner)) (look task w n) := by
  rw [run_stopTask, ← decided]
  apply Clockwork.run_bind
  have ready : (raceTrigger task (w.now + ms) ctx).ready (look task w n) = true := by
    simp [raceTrigger, decided]
  cases n with
  | zero => exact Clockwork.run_awaitLook_ready ready
  | succ n =>
    have waits := raceTrigger_waits_iff.2 (first 0 (Nat.succ_pos n))
    apply Clockwork.run_awaitLook waits
    refine passTime_leftAlone raceTrigger_isPunctual (fun j before => ?_) ready ?_
    · exact raceTrigger_waits_iff.2 (first (j + 1) (Nat.succ_lt_succ before))
    · show n ≤ horizon - w.now
      omega

/-- The race is decided by the time the deadline is reached. -/
lemma exists_first (task ms : Nat) (ctx : Token) (w : World κ υ) :
    ∃ n winner, n ≤ ms + 1 ∧ raceIn task (w.now + ms) ctx (look task w n) = some winner ∧
      ∀ j < n, Undecided task (w.now + ms) ctx (look task w j) := by
  have last : ∃ n, (raceIn task (w.now + ms) ctx (look task w n)).isSome = true := by
    refine ⟨ms + 1, raceIn_isSome.2 (.inr (.inl ?_))⟩
    rw [now_look_succ]
  obtain ⟨winner, decided⟩ := Option.isSome_iff_exists.1 (Nat.find_spec last)
  refine ⟨Nat.find last, winner, Nat.find_min' last ?_, decided, fun j before => ?_⟩
  · rw [raceIn_isSome, now_look_succ]
    exact .inr (.inl (Nat.le_refl _))
  · have undecided := Nat.find_min last before
    rw [Option.not_isSome_iff_eq_none] at undecided
    exact raceIn_eq_none_iff.1 undecided

/-- No look is later than the deadline. -/
lemma now_look_le (reached : n ≤ ms + 1) : (look task w n).now ≤ w.now + ms := by
  cases n with
  | zero => exact Nat.le_add_right _ _
  | succ n =>
    rw [now_look_succ]
    omega

/-- A stop ends in time, at the first look at which one of the events has come about, and it ends
as they decide. It succeeds if the task has ended by then, has not panicked and has reported
nothing. -/
theorem stopTask_race {t : ServeTask} (here : w.tasks[task]? = some t)
    (enough : w.now + ms ≤ horizon) :
    ∃ n result u orders,
      World.clockwork.run horizon (stopTask task ms ctx) w = (some result, u) ∧
      u.now = (look task w n).now ∧ u.now ≤ w.now + ms ∧
      (∀ j < n, Undecided task (w.now + ms) ctx (look task w j)) ∧
      Decided task ms (w.now + ms) ctx (look task w n) t.orders result orders ∧
      u.orders task = some orders ∧ orders.graceful = true ∧
      (result = .ok () ↔ ∃ t', (look task w n).tasks[task]? = some t' ∧
        t'.progress = .ended false ∧ t'.slot.content = none) := by
  obtain ⟨n, winner, reached, decided, first⟩ := exists_first task ms ctx w
  have asked : (look task w n).orders task = some { t.orders with graceful := true } := by
    rw [orders_look, World.orders, here, Option.map_some, Option.map_some]
  obtain ⟨t', here', orders'⟩ := Option.map_eq_some_iff.1 asked
  obtain ⟨result, orders, u, run, now, after, ends⟩ :=
    run_finish horizon ms here' orders' decided
  refine ⟨n, result, u, orders, ?_, now, ?_, first, ends, after, ?_, ends.ok_iff⟩
  · rw [run_stopTask_first enough reached first decided, run]
  · rw [now]
    exact now_look_le reached
  · cases ends <;> rfl

/-- A task with an exchange that it never answers. -/
def busy : ServeTask where
  server := 0
  progress := .serving
  listening := none
  exchanges := [{ answersAt := none, response := none }]

/-- The task reports an error and panics at the instant at which the time is up, and the context is
cancelled before that at the same instant. -/
def deadHeat : World Empty Unit where
  tasks := [busy]
  incidents := [(10, .cancellation ⟨0⟩), (10, .report 0 (.serve (.text "reset"))),
    (10, .ending 0 true)]
  host := Net.isolatedHost
  user := ()

/-- The end of the task decides, and the task is not forced down. -/
theorem stopTask_race_deadHeat :
    ∃ n u, World.clockwork.run 10 (stopTask 0 10 ⟨0⟩) deadHeat =
        (some (.error ⟨.serve (.text "serve task panicked"), [.serve (.text "reset")]⟩), u) ∧
      u.now = 10 ∧ u.isCancelled ⟨0⟩ = true ∧
      (∀ j < n, Undecided 0 10 ⟨0⟩ (look 0 deadHeat j)) ∧
      u.orders 0 = some ⟨true, false, false⟩ := by
  have here : deadHeat.tasks[0]? = some busy := rfl
  have enough : deadHeat.now + 10 ≤ 10 := by decide
  obtain ⟨n, result, u, orders, run, -, -, first, -, -, -, -⟩ := stopTask_race here enough
  -- ten milliseconds without an event, and all three events at the eleventh look
  have early : ∀ j < 11, raceIn 0 10 ⟨0⟩ (look 0 deadHeat j) = none := by decide +kernel
  have decided : raceIn 0 10 ⟨0⟩ (look 0 deadHeat 11) = some (.taskEnded true) := by
    decide +kernel
  have here' : ∃ t, (look 0 deadHeat 11).tasks[0]? = some t ∧
      t.slot.content = some (.serve (.text "reset")) := ⟨_, rfl, rfl⟩
  have returns : (World.clockwork.run 10 (stopTask 0 10 ⟨0⟩) deadHeat).1 =
      some (.error ⟨.serve (.text "serve task panicked"), [.serve (.text "reset")]⟩) := by
    obtain ⟨t, ended, content⟩ := here'
    rw [run_stopTask_first enough (by decide)
      (fun j before => raceIn_eq_none_iff.1 (early j before)) decided, run_finish_ended ended,
      content]
    rfl
  have ends : u = (World.clockwork.run 10 (stopTask 0 10 ⟨0⟩) deadHeat).2 := by rw [run]
  refine ⟨n, u, Prod.ext returns ends.symm, ?_, ?_, first, ?_⟩
  · rw [ends]
    decide +kernel
  · rw [ends]
    decide +kernel
  · rw [ends]
    decide +kernel

end Server

end Supervision
