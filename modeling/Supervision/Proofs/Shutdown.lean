import Supervision.Lifecycle.Signal
import Supervision.Proofs.Course
import Supervision.Proofs.Stop

/-!
# Shutdowns of servers

A shutdown leaves its server down if the race of the stop is decided by the time it goes on, and
only then (`shutdown_isDown_iff`). A server with more time than the limit for stops may be given up
in its race, and serves on (`shutdown_lingering_isUp`).
-/

namespace Supervision

variable {κ υ : Type}

namespace Lifecycle
open Activity Server

variable {b : Behaviour κ υ} {id task : Nat} {w u : World κ υ}

/-- Stops components after a server. -/
def stopComponents (stops : List (Callback κ)) : Plan κ υ Unit := do
  let stopCtx ← .ofFlow Flow.freshToken
  let _ ← Plan.callEach noteStop stopCtx (stops.mapIdx .stop).reverse

/-- A shutdown stops its server with a context that is not cancelled, and then its components. -/
lemma shutdown_eq {ctx : Option Token} {server : Runner κ} {stops : List (Callback κ)} :
    (shutdown ctx (some server) stops : Plan κ υ Unit) =
      (Plan.ofFlow (stopContext ctx)).bind fun ctx =>
        (stopServer ctx server).bind fun _ => stopComponents stops := rfl

/-- A callback respects what all callbacks respect, and so does one that is missing. -/
lemma call_respects {R : World κ υ → World κ υ → Prop} {callback : Callback κ} {ctx : Token}
    (callbacks : ∀ handle t, (b handle t).Respects R) : (callback.call b ctx).Respects R := by
  cases callback with
  | none => exact .done
  | some handle => exact callbacks handle ctx

/-- Calls in order respect what their flows and the notes of them do. -/
lemma callEach_respects {R : World κ υ → World κ υ → Prop} {note : Plan.Note κ υ} {ctx : Token}
    {cs : List (Call κ)} (flows : ∀ c ∈ cs, (c.flow b ctx).Respects R)
    (notes : ∀ c ∈ cs, ∀ outcome w, R w (note c outcome w)) :
    ((Plan.callEach note ctx cs).perform b).Respects R := by
  induction cs with
  | nil => exact .done
  | cons c rest ih =>
    rw [List.forall_mem_cons] at flows notes
    refine .bind flows.1 fun outcome => .act (notes.1 outcome) fun _ => ?_
    have next : (((Plan.callEach note ctx rest).bind fun failures =>
        .done ((c.failure? outcome).toList ++ failures)).perform b).Respects R := by
      rw [Plan.perform_bind]
      exact .bind (ih flows.2 notes.2) fun _ => .done
    exact next

/-- The note of a stop touches no server and no task. -/
lemma noteStop_spares {c : Call κ} {outcome} : w.Spares id task (noteStop c outcome w) := by
  unfold noteStop
  split
  · exact .refl
  · exact .of_eq rfl rfl

/-- To stop components spares a server that the callbacks spare. -/
lemma stopComponents_respects {stops : List (Callback κ)}
    (callbacks : ∀ handle t, (b handle t).Respects (World.Spares id task)) :
    ((stopComponents stops).perform b).Respects (World.Spares id task) := by
  refine .act (fun w => .of_eq rfl rfl) fun w => ?_
  have calls : (((Plan.callEach noteStop w.freshToken.1 (stops.mapIdx .stop).reverse).bind
      fun _ => .done ()).perform b).Respects (World.Spares id task) := by
    rw [Plan.perform_bind]
    refine .bind (callEach_respects ?_ ?_) fun _ => .done
    · intro c member
      obtain ⟨i, _, rfl⟩ := List.mem_mapIdx.1 (List.mem_reverse.1 member)
      exact call_respects callbacks
    · intro c _ outcome w
      exact noteStop_spares
  exact calls

/-- The context for a stop is at hand at once, or handed out. -/
lemma stopContext_runs {ctx : Option Token} {t : Token} {course}
    (run : (Plan.ofFlow (stopContext ctx)).Runs World.clockwork.setting b w course (some t) u) :
    u = w ∨ u = w.freshToken.2 := by
  cases run with
  | act move run =>
    cases move
    dsimp only [Activity.bind] at run
    split at run
    · cases run
      exact .inl rfl
    · cases run with
      | act move run =>
        cases move
        cases run
        exact .inr rfl

/-- After the stop of a server, a shutdown spares it if what follows does. -/
lemma stopServer_runs {ctx : Token} {server : Runner κ} {f : Unit → Plan κ υ Unit} {course}
    (rest : ((f ()).perform b).Respects (World.Spares id task))
    (run : ((stopServer ctx server).bind f).Runs World.clockwork.setting b w course (some ()) u) :
    ∃ outcome v rest, course = .called ⟨.stopRunner 0 server, ctx, w, outcome, v⟩ :: rest ∧
      (Flow.within stopLimitMs ((Call.stopRunner 0 server).flow b ctx)).Runs
        World.clockwork.setting w (some outcome) v ∧ v.Spares id task u := by
  cases run with
  | @callWithin _ _ _ _ _ outcome v _ _ _ made run =>
    refine ⟨outcome, v, _, rfl, made, ?_⟩
    have run := Plan.perform_runs_iff.2 ⟨_, run⟩
    rw [Plan.perform_bind] at run
    refine Respects.runs (.bind ?_ fun _ => rest) run (fun _ => .refl) World.Spares.trans ?_ .passes
    · dsimp only
      split
      · exact .done
      · exact .act (fun _ => .of_eq rfl rfl) fun _ => .done
      · exact .act (fun _ => .of_eq rfl rfl) fun _ => .done
    · rintro v _ rfl
      exact .refl

/-- A stop within the limit comes to its end, or is given up while its race is undecided. -/
lemma stop_within {name : String} {ctx : Token} {outcome} {s : Server} (up : IsUp id task s w)
    (run : (Flow.within stopLimitMs ((Call.stopRunner 0 (.server name id)).flow b ctx)).Runs
      World.clockwork.setting w (some outcome) u) :
    u.Settled id ∧
      (IsDown id task u ∧ (raceIn task (w.now + s.timeoutMs) ctx u).isSome = true ∧
          (w.Orderly task → u.Leaves task) ∨
        (u.servers[id]?).map Server.localAddress = some s.localAddress ∧
          w.now + stopLimitMs ≤ u.now ∧
          (raceIn task (w.now + s.timeoutMs) ctx u).isSome = false) := by
  have run := Activity.runs_look run
  obtain ⟨a, rfl, stops⟩ | ⟨rfl, late, stuck⟩ := Runs.of_within run
  · obtain ⟨down, settled, decided, leaves⟩ := stop_runs up stops
    exact ⟨settled, .inl ⟨down, decided, leaves⟩⟩
  · obtain ⟨address, settled, undecided⟩ := stop_stuck up stuck
    exact ⟨settled, .inr ⟨address, late, undecided⟩⟩

/-- A shutdown leaves its server down if and only if the race of the stop is decided when the
shutdown goes on: the task has ended, the time of the server is up, or the context is cancelled.
This is so if the server has no more time than the limit. A task that does not end out of turn is
gone with all exchanges then. -/
theorem shutdown_isDown_iff {ctx : Option Token} {name : String} {stops : List (Callback κ)}
    {s : Server} {course}
    (exec : (shutdown ctx (some (.server name id)) stops).Runs World.clockwork.setting b w course
      (some ()) u)
    (up : IsUp id task s w)
    (callbacks : ∀ handle t, (b handle t).Respects (World.Spares id task)) :
    ∃ made ∈ course.made, made.call = .stopRunner 0 (.server name id) ∧
      (IsDown id task u ↔
        (raceIn task (w.now + s.timeoutMs) made.ctx made.after).isSome = true) ∧
      (s.timeoutMs ≤ stopLimitMs → IsDown id task u) ∧
      (w.Orderly task → IsDown id task u → u.settle.Gone task) := by
  rw [shutdown_eq] at exec
  obtain ⟨⟨⟩, -⟩ | ⟨ctx, w₁, first, rest, rfl, context, exec⟩ := exec.of_bind
  have before : w₁.servers = w.servers ∧ w₁.tasks = w.tasks ∧ w₁.now = w.now ∧
      w₁.incidents = w.incidents := by
    obtain rfl | rfl := stopContext_runs context
    · exact ⟨rfl, rfl, rfl, rfl⟩
    · exact ⟨rfl, rfl, rfl, rfl⟩
  obtain ⟨servers, tasks, now, incidents⟩ := before
  have up : IsUp id task s w₁ := up.of_eq servers tasks
  have orderly (h : w.Orderly task) : w₁.Orderly task := h.of_eq tasks incidents
  obtain ⟨outcome, v, rest, rfl, within, spares⟩ :=
    stopServer_runs (stopComponents_respects callbacks) exec
  obtain ⟨settled, outcomes⟩ := stop_within up within
  rw [now] at outcomes
  refine ⟨⟨.stopRunner 0 (.server name id), ctx, w₁, outcome, v⟩, by simp, rfl, ?_⟩
  obtain ⟨down, decided, leaves⟩ | ⟨address, late, undecided⟩ := outcomes
  · have down : IsDown id task u := down.spares settled spares
    refine ⟨by simp [down, decided], fun _ => down, fun ordered _ => ?_⟩
    exact ((leaves (orderly ordered)).spares spares).settle
  · -- given up in its race, the stop has not come to the address, and nobody else takes it away
    have remains : ¬IsDown id task u := by
      intro down
      have kept := (spares.address settled).trans address
      rw [down.address, Option.some_inj] at kept
      have bound := up.address
      simp [← kept] at bound
    refine ⟨by simp [remains, undecided], fun short => ?_, fun _ down => absurd down remains⟩
    have decided : (raceIn task (w.now + s.timeoutMs) ctx v).isSome = true := by
      rw [raceIn_isSome]
      exact .inr (.inl (by omega))
    simp [undecided] at decided

/-- A world with one server, which has bound and has an exchange that it never answers. -/
def lingering (timeoutMs : Nat) : World Empty Unit where
  servers := [{
    kind := .http
    name := "http"
    address := "127.0.0.1:0"
    timeoutMs := timeoutMs
    localAddress := some (.v4 ⟨[127, 0, 0, 1]⟩ 32768)
    serving := some 0 }]
  tasks := [{
    server := 0
    progress := .serving
    listening := some (.v4 ⟨[127, 0, 0, 1]⟩ 32768)
    exchanges := [{ answersAt := none, response := none }] }]
  host := Net.isolatedHost
  user := ()

/-- The shutdown of that server by the clock. -/
def shutDown (timeoutMs : Nat) : Option Unit × World Empty Unit :=
  World.clockwork.run (timeoutMs + 1)
    ((shutdown none (some (.server "http" 0)) []).perform fun handle _ => handle.elim)
    (lingering timeoutMs)

/-- The server of this world is up. -/
lemma isUp_lingering (timeoutMs : Nat) :
    ∃ s : Server, s.timeoutMs = timeoutMs ∧ IsUp 0 0 s (lingering timeoutMs) := by
  refine ⟨_, rfl, rfl, rfl, rfl, ⟨_, rfl⟩, ?_⟩
  intro i t here _
  cases i with
  | zero =>
    cases here
    exact fun spawned => nomatch spawned
  | succ i => cases here

/-- If the shutdown returns by the clock, then it has an execution. -/
lemma shutDown_runs {timeoutMs : Nat} (returns : (shutDown timeoutMs).1 = some ()) :
    ∃ course, (shutdown none (some (.server "http" 0)) []).Runs World.clockwork.setting
      (fun handle _ => handle.elim) (lingering timeoutMs) course (some ())
      (shutDown timeoutMs).2 :=
  Plan.perform_runs_iff.1 (Clockwork.run_runs (Prod.ext returns rfl))

/-- At the limit, the server forces the exchange. -/
theorem shutdown_isDown_iff_lingering :
    (shutDown 5000).1 = some () ∧ IsDown 0 0 (shutDown 5000).2 ∧
      (shutDown 5000).2.settle.Gone 0 := by
  have returns : (shutDown 5000).1 = some () := by decide +kernel
  obtain ⟨course, exec⟩ := shutDown_runs returns
  obtain ⟨s, timeout, up⟩ := isUp_lingering 5000
  obtain ⟨made, -, -, -, short, leaves⟩ :=
    shutdown_isDown_iff exec up fun handle => handle.elim
  have down := short (by rw [timeout]; decide)
  have orderly : (lingering 5000).Orderly 0 := by
    refine ⟨fun t here => ?_, fun _ member => (nomatch member)⟩
    cases here
    exact ⟨fun h => (nomatch h), fun h => (nomatch h), fun h => (nomatch h)⟩
  exact ⟨returns, down, leaves orderly down⟩

/-- With more time than the limit, the server is given up: the shutdown is over, the task serves on
with its open exchange, and the server keeps its address. -/
theorem shutdown_lingering_isUp :
    (∃ s : Server, s.timeoutMs = 10000 ∧ IsUp 0 0 s (lingering 10000)) ∧
      (shutDown 10000).1 = some () ∧ ¬IsOver 0 (shutDown 10000).2 ∧
      ¬(shutDown 10000).2.settle.Gone 0 ∧
      ((shutDown 10000).2.servers[0]?).map Server.localAddress =
        some (some (.v4 ⟨[127, 0, 0, 1]⟩ 32768)) := by
  have after : ((shutDown 10000).2.tasks[0]?).map (fun t => (t.hasEnded, t.forced)) =
      some (false, false) := by decide +kernel
  have later : ((shutDown 10000).2.settle.tasks[0]?).map ServeTask.hasEnded = some false := by
    decide +kernel
  refine ⟨isUp_lingering 10000, by decide +kernel, ?_, ?_, by decide +kernel⟩
  · rintro ⟨t, here, gone⟩
    rw [here, Option.map_some, Option.some_inj, Prod.mk.injEq] at after
    simp [after] at gone
  · rintro ⟨t, here, ended, -⟩
    rw [here, Option.map_some, ended] at later
    cases later

end Lifecycle

end Supervision
