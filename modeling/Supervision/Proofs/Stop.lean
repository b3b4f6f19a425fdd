import Supervision.Proofs.Background
import Supervision.Server.Stop

/-!
# Stops of servers

A stop that comes to its end leaves its server down (`stop_runs`). One that is given up before its
race is decided leaves the server where it was (`stop_stuck`).
-/

namespace Supervision.Server
open Activity World

variable {κ υ : Type} {id task ms deadline : Nat} {ctx : Token} {s : Server} {w w' u : World κ υ}

/-- The task has ended by itself, or was forced down and aborted. -/
def IsOver (task : Nat) (w : World κ υ) : Prop :=
  ∃ t, w.tasks[task]? = some t ∧ (t.hasEnded = true ∨ t.forced = true ∧ t.aborted = true)

/-- The task is over, and the server has no address. -/
structure IsDown (id task : Nat) (w : World κ υ) : Prop where
  task : IsOver task w
  address : (w.servers[id]?).map Server.localAddress = some none

/-- The server was launched, holds the task, and has bound. -/
structure IsUp (id task : Nat) (s : Server) (w : World κ υ) : Prop where
  server : w.servers[id]? = some s
  serving : s.serving = some task
  address : s.localAddress.isSome
  task : ∃ t, w.tasks[task]? = some t
  settled : w.Settled id

/-- That a server is up depends on the servers and the tasks alone. -/
lemma IsUp.of_eq (up : IsUp id task s w) (servers : w'.servers = w.servers)
    (tasks : w'.tasks = w.tasks) : IsUp id task s w' where
  server := servers ▸ up.server
  serving := up.serving
  address := up.address
  task := tasks ▸ up.task
  settled := by
    rw [World.Settled, tasks]
    exact up.settled

/-- A task that is over stays so as tasks go on. -/
lemma IsOver.spares (gone : IsOver task w) (spares : w.Spares id task w') : IsOver task w' := by
  obtain ⟨t, here, gone⟩ := gone
  obtain ⟨t', here', goes⟩ := spares.goes t here
  exact ⟨t', here', gone.imp goes.ended fun h => ⟨goes.forced h.1, goes.aborted h.2⟩⟩

/-- A server that is down stays so as tasks go on, once its task has settled. -/
lemma IsDown.spares (down : IsDown id task w) (settled : w.Settled id)
    (spares : w.Spares id task w') : IsDown id task w' :=
  ⟨down.task.spares spares, (spares.address settled).trans down.address⟩

/-! ## The race -/

/-- The race is decided when the task has ended, the time is up or the context is cancelled. -/
lemma raceIn_isSome :
    (raceIn task deadline ctx w).isSome = true ↔
      (∃ t, w.tasks[task]? = some t ∧ t.hasEnded = true) ∨ deadline ≤ w.now ∨
        w.isCancelled ctx = true := by
  have ended : ((w.tasks[task]?).bind ServeTask.ended?).isSome = true ↔
      ∃ t, w.tasks[task]? = some t ∧ t.hasEnded = true := by
    cases w.tasks[task]? with
    | none => simp
    | some t => cases stage : t.progress <;> simp [ServeTask.ended?, ServeTask.hasEnded, stage]
  rw [← ended, raceIn]
  cases (w.tasks[task]?).bind ServeTask.ended? with
  | some panicked => simp [raceWinner?]
  | none =>
    by_cases late : deadline ≤ w.now
    · simp [raceWinner?, late]
    · cases cancelled : w.isCancelled ctx <;> simp [raceWinner?, late]

/-- The end of the task decides only if the task has ended. -/
lemma raceIn_eq_taskEnded {panicked}
    (decided : raceIn task deadline ctx w = some (.taskEnded panicked)) :
    ∃ t, w.tasks[task]? = some t ∧ t.hasEnded = true := by
  unfold raceIn at decided
  cases ended : (w.tasks[task]?).bind ServeTask.ended? with
  | some _ =>
    obtain ⟨t, here, ended⟩ := Option.bind_eq_some_iff.1 ended
    refine ⟨t, here, ?_⟩
    cases stage : t.progress <;> simp [ServeTask.ended?, ServeTask.hasEnded, stage] at ended ⊢
  | none =>
    rw [ended, raceWinner?] at decided
    split at decided
    · cases decided
    · split at decided
      · cases decided
      · cases decided

/-- A race remains decided. -/
lemma raceIn_isSome_of_spares (decided : (raceIn task deadline ctx w).isSome = true)
    (spares : w.Spares id task w') (now : w'.now = w.now) (tokens : w'.tokens = w.tokens) :
    (raceIn task deadline ctx w').isSome = true := by
  rw [raceIn_isSome] at decided ⊢
  rw [now, World.isCancelled, tokens]
  refine decided.imp_left fun ⟨t, here, ended⟩ => ?_
  obtain ⟨t', here', goes⟩ := spares.goes t here
  exact ⟨t', here', goes.ended ended⟩

/-! ## Stops -/

/-- To ask a task to shut down spares the server. -/
lemma spares_graceful :
    w.Spares id task (w.changeTask task fun t => { t with graceful := true }) :=
  .changeTask fun _ _ => .of_eq rfl rfl rfl rfl rfl

/-- To force a task down spares the server. -/
lemma spares_forceDown : w.Spares id task (w.changeTask task forceDown) :=
  .changeTask fun _ _ => ⟨rfl, fun h => h, fun h => h, fun _ => rfl, fun _ => rfl, fun _ h => h⟩

/-- To take the report of a task spares the server. -/
lemma spares_drainSlot : w.Spares id task (drainSlot task w).2 := by
  unfold drainSlot
  split
  · exact .refl
  · exact .changeTask fun _ _ => .of_eq rfl rfl rfl rfl rfl

/-- To take the report of a task takes no time. -/
lemma now_drainSlot : (drainSlot task w).2.now = w.now := by
  unfold drainSlot
  split <;> rfl

/-- To take the report of a task leaves the tokens alone. -/
lemma tokens_drainSlot : (drainSlot task w).2.tokens = w.tokens := by
  unfold drainSlot
  split <;> rfl

/-- A stop of a task waits until its race is decided, and forces the task down if it has lost. -/
lemma stopTask_inv {result}
    (run : (stopTask task ms ctx).Runs World.clockwork.setting w (some result) u) :
    ∃ v, World.clockwork.Passes (w.changeTask task fun t => { t with graceful := true }) v ∧
      (raceIn task (w.now + ms) ctx v).isSome = true ∧
      ((∃ t, v.tasks[task]? = some t ∧ t.hasEnded = true) ∧ u = (drainSlot task v).2 ∨
        u = (drainSlot task (v.changeTask task forceDown)).2) := by
  have run := Activity.runs_look (Activity.runs_change run)
  obtain ⟨⟨⟩, -⟩ | ⟨winner, v, wait, run⟩ := runs_bind_iff.1 run
  obtain ⟨passes, ends, rfl⟩ := Clockwork.runs_awaitLook wait
  rw [Trigger.ends, Bool.or_false] at ends
  refine ⟨v, passes, ends, ?_⟩
  -- only the end of the task spares it the force
  split at run
  next decided =>
    cases Activity.runs_step run
    exact .inl ⟨raceIn_eq_taskEnded decided, rfl⟩
  next =>
    cases Activity.runs_step (Activity.runs_change run)
    exact .inr rfl

/-- After a stop, the task is over, and one of the three events has come about. -/
lemma stopTask_runs {result} (here : ∃ t, w.tasks[task]? = some t)
    (run : (stopTask task ms ctx).Runs World.clockwork.setting w (some result) u) :
    w.Spares id task u ∧ IsOver task u ∧ (raceIn task (w.now + ms) ctx u).isSome = true ∧
      (w.Orderly task → u.Leaves task) := by
  obtain ⟨v, passes, decided, ⟨⟨t, here, ended⟩, rfl⟩ | rfl⟩ := stopTask_inv run
  · have waited : w.Spares id task v := spares_graceful.trans (.passes passes)
    have drains : v.Spares id task (drainSlot task v).2 := spares_drainSlot
    refine ⟨waited.trans drains, ?_, ?_, fun orderly => ?_⟩
    · exact IsOver.spares ⟨t, here, .inl ended⟩ drains
    · exact raceIn_isSome_of_spares decided drains now_drainSlot tokens_drainSlot
    · have orderly : v.Orderly task := by
        refine .passes (orderly.changeTask fun _ t here => ?_) passes
        exact (orderly.tasks t here).of_eq rfl rfl rfl fun quiet => quiet
      exact Leaves.spares ⟨t, here, .inl ⟨ended, (orderly.tasks t here).quiet ended⟩⟩ drains
  · have waited : w.Spares id task v := spares_graceful.trans (.passes passes)
    have drains : (v.changeTask task forceDown).Spares id task
        (drainSlot task (v.changeTask task forceDown)).2 := spares_drainSlot
    obtain ⟨t, here⟩ := here
    obtain ⟨t', here', -⟩ := waited.goes t here
    have forced : (v.changeTask task forceDown).tasks[task]? = some (forceDown t') := by
      rw [tasks_changeTask, here', Option.map_some]
    refine ⟨waited.trans (spares_forceDown.trans drains), ?_, ?_, fun _ => ?_⟩
    · exact IsOver.spares ⟨_, forced, .inr ⟨rfl, rfl⟩⟩ drains
    · exact raceIn_isSome_of_spares decided (spares_forceDown.trans drains) now_drainSlot
        tokens_drainSlot
    · exact Leaves.spares ⟨_, forced, .inr ⟨rfl, rfl⟩⟩ drains

/-- A stop of a task that is stuck waits for its race. -/
lemma stopTask_stuck (stuck : (stopTask task ms ctx).Stuck World.clockwork.setting w u) :
    w.Spares id task u ∧ (raceIn task (w.now + ms) ctx u).isSome = false := by
  have stuck := Activity.stuck_look (Activity.stuck_change stuck)
  obtain wait | ⟨winner, v, -, stuck⟩ := Stuck.of_bind stuck
  · obtain ⟨passes, undecided⟩ := Clockwork.stuck_awaitLook wait
    exact ⟨spares_graceful.trans (.passes passes), undecided⟩
  · split at stuck
    · cases Activity.stuck_step stuck
    · cases Activity.stuck_step (Activity.stuck_change stuck)

/-- The server without its task. -/
lemma IsUp.taken (up : IsUp id task s w) :
    ∃ v, takeTask id w = (some (s, task), v) ∧ v.tasks = w.tasks ∧ v.now = w.now ∧
      v.incidents = w.incidents ∧ w.Spares id task v := by
  refine ⟨w.changeServer id fun s => { s with serving := none }, ?_, rfl, rfl, rfl, ?_⟩
  · simp [takeTask, up.server, up.serving]
  · exact .changeServer fun _ _ _ => rfl

/-- A stop that comes to its end leaves the server down, once the race is decided. -/
theorem stop_runs {outcome} (up : IsUp id task s w)
    (run : (stop id ctx).Runs World.clockwork.setting w (some outcome) u) :
    IsDown id task u ∧ u.Settled id ∧ (raceIn task (w.now + s.timeoutMs) ctx u).isSome = true ∧
      (w.Orderly task → u.Leaves task) := by
  obtain ⟨v, taken, tasks, now, incidents, takes⟩ := up.taken
  obtain ⟨⟨⟩, -⟩ | ⟨result, u, run, final⟩ := runs_bind_iff.1 run
  cases final
  have run := Activity.runs_step run
  rw [taken] at run
  obtain ⟨⟨⟩, -⟩ | ⟨result, x, wait, run⟩ := runs_bind_iff.1 run
  obtain ⟨spares, gone, decided, leaves⟩ := stopTask_runs (tasks ▸ up.task) wait
  rw [now] at decided
  have run := Activity.runs_change run
  -- the address is the one before the race until the stop takes it away
  have settled : x.Settled id := spares.settled (takes.settled up.settled)
  have address : (x.servers[id]?).map Server.localAddress = some s.localAddress := by
    rw [(takes.trans spares).address up.settled, up.server, Option.map_some]
  have cleared : ((x.changeServer id fun s => { s with localAddress := none }).servers[id]?).map
      Server.localAddress = some none := by
    obtain ⟨s', here, -⟩ := Option.map_eq_some_iff.1 address
    rw [servers_changeServer, here, Option.map_some, Option.map_some]
  have leaves (orderly : w.Orderly task) : x.Leaves task :=
    leaves (orderly.of_eq tasks incidents)
  split at run
  · cases Activity.runs_change run
    exact ⟨⟨gone, cleared⟩, settled, decided, leaves⟩
  · cases run
    exact ⟨⟨gone, cleared⟩, settled, decided, leaves⟩

/-- A stop that is stuck has left the server with its address, and the race undecided. -/
theorem stop_stuck (up : IsUp id task s w)
    (stuck : (stop id ctx).Stuck World.clockwork.setting w u) :
    (u.servers[id]?).map Server.localAddress = some s.localAddress ∧ u.Settled id ∧
      (raceIn task (w.now + s.timeoutMs) ctx u).isSome = false := by
  obtain ⟨v, taken, tasks, now, incidents, takes⟩ := up.taken
  obtain stuck | ⟨result, u, -, final⟩ := Stuck.of_bind stuck
  · have stuck := Activity.stuck_step stuck
    rw [taken] at stuck
    obtain wait | ⟨result, x, -, stuck⟩ := Stuck.of_bind stuck
    · obtain ⟨spares, undecided⟩ := stopTask_stuck wait
      rw [now] at undecided
      have spares := takes.trans spares
      refine ⟨?_, spares.settled up.settled, undecided⟩
      rw [spares.address up.settled, up.server, Option.map_some]
    · have stuck := Activity.stuck_change stuck
      split at stuck
      · cases Activity.stuck_change stuck
      · cases stuck
  · cases final

end Supervision.Server
