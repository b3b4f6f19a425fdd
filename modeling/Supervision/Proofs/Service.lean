import Supervision.Proofs.Contexts
import Supervision.Proofs.Teardown

/-!
# Services without an orchestrator

To serve until a signal arrives comes to the same calls as the run of an orchestrator whose token is
cancelled by that time (`serveUntil_refines_run`). The run reports all failures. The service reports
the first one of the startup, and those of the shutdown are left in the journal.
-/

namespace Supervision

variable {κ υ : Type}

/-- The orchestrator waits for its run, and has just the parts of a service. -/
structure Orchestrator.IsService (o : Orchestrator κ) (server : Runner κ)
    (starts stops : List (Callback κ)) : Prop where
  unclaimed : o.claimed = false
  starts : o.starts = starts
  stops : o.stops = stops
  runners : o.runners = [server]
  hooks : o.hooks = []

namespace Orchestrator

/-- An orchestrator with the parts of a service. -/
def ofService (server : Runner κ) (starts stops : List (Callback κ)) : Orchestrator κ where
  components := (starts.zip stops).map fun (start, stop) => ⟨start, stop⟩
  runners := [server]

/-- The orchestrator that is put together from a server and components is a service of them. -/
lemma isService_ofService {server : Runner κ} {starts stops : List (Callback κ)}
    (equal : starts.length = stops.length) :
    (ofService server starts stops).IsService server starts stops := by
  refine ⟨rfl, ?_, ?_, rfl, rfl⟩
  · rw [Orchestrator.starts, ofService, List.map_map]
    exact List.map_fst_zip (Nat.le_of_eq equal)
  · rw [Orchestrator.stops, ofService, List.map_map]
    exact List.map_snd_zip (Nat.le_of_eq equal.symm)

end Orchestrator

namespace Lifecycle
open Plan

variable {choice : Call κ → Outcome} {ctx : Token} {server : Runner κ}
  {starts stops : List (Callback κ)} {signal : Flow κ υ Unit} {S : Setting (World κ υ)}
  {b : Behaviour κ υ} {w u : World κ υ} {course : Course κ υ}

/-- The calls that start the components and the server. -/
def upCalls (server : Runner κ) (starts : List (Callback κ)) : List (Call κ) :=
  starts.mapIdx .start ++ [.startRunner 0 server]

/-- The calls that stop the server and the components. -/
def downCalls (server : Runner κ) (stops : List (Callback κ)) : List (Call κ) :=
  .stopRunner 0 server :: (stops.mapIdx .stop).reverse

/-! ## Failed startups -/

/-- If all components start, each one is started once, in order, and the result is a success. -/
lemma start_makes (succeed : Succeed choice (starts.mapIdx Call.start)) :
    Makes choice (start ctx starts stops : Plan κ υ _) (starts.mapIdx Call.start) (.ok ()) :=
  (startWithRollback_makes succeed).bind_nil .done

/-- At the first component that fails to start, those before it are stopped, the last one first, and
its error is returned. -/
lemma start_fails {k cause} (first : FirstFailure choice (starts.mapIdx Call.start) k cause) :
    Makes choice (start ctx starts stops : Plan κ υ _)
      ((starts.mapIdx Call.start).take (k + 1) ++ ((stops.take k).mapIdx Call.rollback).reverse)
      (.error (.start k cause)) :=
  (startWithRollback_fails first).bind_nil .done

/-- If a component fails to start, the service undoes the start and returns its error. The server is
never started. -/
lemma serveUntil_component_fails {k cause}
    (first : FirstFailure choice (starts.mapIdx Call.start) k cause) :
    Makes choice (serveUntil server starts stops signal)
      ((starts.mapIdx Call.start).take (k + 1) ++ ((stops.take k).mapIdx Call.rollback).reverse)
      (.error (.start k cause)) :=
  Makes.step fun _ => (start_fails first).bind_nil .done

/-- If the server fails to start, its error is returned, after all components and the server were
tried. -/
lemma serveUntil_server_fails {cause} (started : Succeed choice (starts.mapIdx Call.start))
    (fails : choice (.startRunner 0 server) = .error cause) :
    Makes choice (serveUntil server starts stops signal) (upCalls server starts)
      (.error (.runnerStart server.name cause)) := by
  refine Makes.step fun t => (start_makes started).bind (Makes.call ?_)
  rw [fails]
  exact .done

/-! ## Shutdowns -/

/-- The components are stopped in reverse order, each one, whatever fails. -/
lemma stopComponents_makes :
    Makes choice (stopComponents stops : Plan κ υ _) (stops.mapIdx .stop).reverse () :=
  Makes.step fun _ => callEach_makes.bind_nil .done

/-- A shutdown stops the server and all components, whatever fails. -/
lemma shutdown_answered {given : Option Token} {r}
    (exec : (shutdown given (some server) stops).Runs S b w course r u)
    (answered : course.Answered choice) :
    course.calls = downCalls server stops ∧ r = some () := by
  have stopping {t v rest} (exec : (stopServer t server >>= fun _ => stopComponents stops).Runs
      S b v rest r u) (answered : Course.Answered choice rest) :
      Course.calls rest = downCalls server stops ∧ r = some () := by
    obtain ⟨rfl, here⟩ | ⟨stopped, x, first, rest, rfl, here, exec⟩ := exec.of_bind
    · -- a call that was given up has no outcome
      obtain ⟨outcome, x, made, pending⟩ := stopServer_made here
      have outcomes := answered ⟨.stopRunner 0 server, t, v, outcome, x⟩ (by simp [made])
      obtain ⟨⟨⟩⟩ | rfl := pending
      cases outcomes
    · rw [Course.answered_append] at answered
      obtain ⟨outcome, y, made, -⟩ := stopServer_made here
      obtain ⟨calls, result⟩ := stopComponents_makes.runs exec answered.2
      refine ⟨?_, result⟩
      rw [Course.calls_append, calls, Course.calls, made]
      rfl
  obtain ⟨t, v, rest, -, -, rfl, -, exec⟩ | ⟨x, v, rest, rfl, -, -, exec⟩ := stopContext_cases exec
  · rw [Course.calls_own]
    exact stopping exec answered
  · rw [Course.calls_own, Course.calls_own]
    exact stopping exec answered

/-- Once everything is started, a service waits for its signal, and then shuts down. -/
lemma serveUntil_started {r}
    (exec : (serveUntil server starts stops signal).Runs S b w course r u)
    (started : Succeed choice (upCalls server starts)) (answered : course.Answered choice) :
    (r = none ∧ (∃ v, signal.Runs S v none u) ∧ course.calls = upCalls server starts) ∨
      r = some (.ok ()) ∧ (∃ v v', signal.Runs S v (some ()) v') ∧
        course.calls = upCalls server starts ++ downCalls server stops := by
  rw [upCalls, succeed_append, succeed_cons] at started
  obtain ⟨components, serves, -⟩ := started
  obtain ⟨v, rest, rfl, -, exec⟩ := exec.of_freshToken
  rw [Course.answered_own] at answered
  obtain ⟨x, up, rest, rfl, calls, answered, exec⟩ := (start_makes components).of_bind exec answered
  have serving : Makes choice (.call (.startRunner 0 server) ⟨w.tokens.issued⟩ .done : Plan κ υ _)
      _ _ := .call .done
  obtain ⟨y, up', rest, rfl, calls', answered, exec⟩ := serving.of_bind exec answered
  rw [serves] at exec
  rw [Course.calls_own, Course.calls_append, Course.calls_append, calls, calls', upCalls]
  have exec : (ofFlow signal >>= fun _ => shutdown (some ⟨w.tokens.issued⟩) (some server) stops >>=
      fun _ => return .ok ()).Runs S b y rest r u := exec
  obtain ⟨rfl, waits⟩ | ⟨come, z, idle, rest, rfl, waits, exec⟩ := exec.of_bind
  · left
    have quiet : Course.calls rest = [] := by rw [Course.calls, waits.of_flow.1, List.map_nil]
    exact ⟨rfl, ⟨y, waits.of_flow.2⟩, by simp [quiet]⟩
  · right
    rw [Course.answered_append] at answered
    have quiet : Course.calls idle = [] := by rw [Course.calls, waits.of_flow.1, List.map_nil]
    obtain ⟨rfl, down⟩ | ⟨done, z', down, rest, rfl, down', exec⟩ := exec.of_bind
    · cases (shutdown_answered down answered.2).2
    · cases exec
      rw [List.append_nil] at *
      have calls := (shutdown_answered down' answered.2).1
      exact ⟨rfl, ⟨y, z, waits.of_flow.2⟩, by simp [quiet, calls]⟩

/-! ## Runs -/

section
variable {parts : Orchestrator κ} (service : parts.IsService server starts stops)
include service

/-- The starts of a service are those of its components. -/
lemma startCalls_service : startCalls parts.taken = starts.mapIdx .start := by
  rw [startCalls, ← service.starts]
  rfl

/-- Undoing the start of a service stops the components that were started. -/
lemma rollbackCalls_service {k} :
    rollbackCalls parts.taken k = ((stops.take k).mapIdx .rollback).reverse := by
  rw [rollbackCalls, ← service.stops]
  rfl

/-- The only runner of a service is its server. -/
lemma runnerCalls_service : runnerCalls parts.taken = [.startRunner 0 server] := by
  rw [runnerCalls, Orchestrator.taken, service.runners]
  rfl

/-- The teardown of a service stops the server and then the components. -/
lemma teardownCalls_service : teardownCalls parts.taken = downCalls server stops := by
  rw [teardownCalls, Orchestrator.taken, service.runners, service.hooks, List.mapIdx_nil,
    List.append_nil, downCalls, ← service.stops]
  rfl

/-- A run of the orchestrator does the same if a component fails to start: the same calls, and the
same error first. -/
lemma runParts_component_fails {k cause}
    (first : FirstFailure choice (starts.mapIdx Call.start) k cause) :
    ∃ undone, Makes choice (runParts ctx parts.taken : Plan κ υ _)
      ((starts.mapIdx Call.start).take (k + 1) ++ ((stops.take k).mapIdx Call.rollback).reverse)
      (.error ⟨.start k cause, undone⟩) := by
  rw [← startCalls_service service] at first ⊢
  rw [← rollbackCalls_service service]
  exact ⟨_, runParts_rolls_back first⟩

/-- A run of the orchestrator does the same if the server fails to start. -/
lemma runParts_server_fails {cause} (started : Succeed choice (starts.mapIdx Call.start))
    (fails : choice (.startRunner 0 server) = .error cause) :
    Makes choice (runParts ctx parts.taken : Plan κ υ _) (upCalls server starts)
      (.error (.single (.runnerStart server.name cause))) := by
  have first : FirstFailure choice (runnerCalls parts.taken) 0 cause := by
    rw [runnerCalls_service service]
    exact ⟨by simp [fails], nofun⟩
  rw [← startCalls_service service] at started
  obtain ⟨runner, place, makes⟩ := runParts_stops_short started first
  rw [Orchestrator.taken, service.runners] at place
  cases place
  rw [startCalls_service service, runnerCalls_service service] at makes
  exact makes

/-- Once everything is started, a run waits for its token, and then comes down. -/
lemma runParts_started {r} (exec : (runParts ctx parts.taken).Runs S b w course r u)
    (started : Succeed choice (upCalls server starts)) (answered : course.Answered choice) :
    (r = none ∧ u.isCancelled ctx = false ∧ course.calls = upCalls server starts) ∨
      r = some (Errors.outcome (failures choice (downCalls server stops))) ∧
        (∃ v, .own v ∈ course ∧ v.isCancelled ctx = true) ∧
        course.calls = upCalls server starts ++ downCalls server stops := by
  have same : startCalls parts.taken ++ runnerCalls parts.taken = upCalls server starts := by
    rw [startCalls_service service, runnerCalls_service service, upCalls]
  have starting : Makes choice (startParts ctx parts.taken : Plan κ υ _) (upCalls server starts)
      (.ok ()) := by
    rw [← same] at started ⊢
    exact startParts_makes started
  obtain waiting | ⟨up, v, t, down, rfl, calls, cancelled, exec⟩ :=
    runParts_runs exec starting answered
  · exact .inl waiting
  · rw [Course.answered_append, Course.answered_own] at answered
    obtain ⟨calls', result⟩ := comeDown_makes.runs exec answered.2
    rw [teardownCalls_service service] at calls' result
    exact .inr ⟨result, ⟨v, by simp, cancelled⟩, by simp [calls, calls']⟩

end

/-! ## Both -/

/-- A service and the run of an orchestrator with the same parts make the same calls if both are
still waiting or both have come to their end. If something does not start, neither waits, and the
service reports the first error of the run. -/
theorem serveUntil_refines_run {S' : Setting (World κ υ)} {b' : Behaviour κ υ} {w' u' : World κ υ}
    {course' : Course κ υ} {r r'}
    (exec : (serveUntil server starts stops signal).Runs S b w course r u)
    (exec' : (run ctx).Runs S' b' w' course' r' u')
    (service : w'.orchestrator.IsService server starts stops)
    (answered : course.Answered choice) (answered' : course'.Answered choice) :
    (¬Succeed choice (upCalls server starts) →
      course.calls = course'.calls ∧ ∃ es, r' = some (.error es) ∧ r = some (.error es.first)) ∧
    (Succeed choice (upCalls server starts) →
      (r = none ∧ (∃ v, signal.Runs S v none u) ∧ course.calls = upCalls server starts ∨
        r = some (.ok ()) ∧ (∃ v v', signal.Runs S v (some ()) v') ∧
          course.calls = upCalls server starts ++ downCalls server stops) ∧
      (r' = none ∧ u'.isCancelled ctx = false ∧ course'.calls = upCalls server starts ∨
        r' = some (Errors.outcome (failures choice (downCalls server stops))) ∧
          (∃ v, .own v ∈ course' ∧ v.isCancelled ctx = true) ∧
          course'.calls = upCalls server starts ++ downCalls server stops) ∧
      ((r = none ↔ r' = none) → course.calls = course'.calls)) := by
  obtain ⟨t, rest, rfl, parts⟩ := run_unclaimed exec' service.unclaimed
  rw [Course.answered_own] at answered'
  rw [Course.calls_own]
  constructor
  · intro fails
    -- it is the server that fails, or the first component that does
    obtain started | ⟨k, cause, first⟩ := succeed_or_firstFailure choice (starts.mapIdx Call.start)
    · cases refused : choice (.startRunner 0 server) with
      | ok => exact absurd (succeed_append.2 ⟨started, by simp [refused]⟩) fails
      | error cause =>
        obtain ⟨calls, result⟩ := (serveUntil_server_fails started refused).runs exec answered
        obtain ⟨calls', result'⟩ :=
          (runParts_server_fails service started refused).runs parts answered'
        exact ⟨calls.trans calls'.symm, _, result', result⟩
    · obtain ⟨undone, makes⟩ := runParts_component_fails service first
      obtain ⟨calls, result⟩ := (serveUntil_component_fails first).runs exec answered
      obtain ⟨calls', result'⟩ := makes.runs parts answered'
      exact ⟨calls.trans calls'.symm, _, result', result⟩
  · intro started
    have serve := serveUntil_started exec started answered
    have run := runParts_started service parts started answered'
    refine ⟨serve, ?_, fun together => ?_⟩
    · obtain waiting | ⟨result, ⟨v, own, cancelled⟩, calls⟩ := run
      · exact .inl waiting
      · exact .inr ⟨result, ⟨v, List.mem_cons_of_mem _ own, cancelled⟩, calls⟩
    · -- both wait, or both have come down
      obtain ⟨rfl, -, calls⟩ | ⟨rfl, -, calls⟩ := serve
      · obtain ⟨-, -, calls'⟩ | ⟨rfl, -, -⟩ := run
        · rw [calls, calls']
        · cases together.1 rfl
      · obtain ⟨rfl, -, -⟩ | ⟨-, -, calls'⟩ := run
        · cases together.2 rfl
        · rw [calls, calls']

/-- A server that does not stop, and two components, of which the first one does not stop. -/
def stuckServer : Runner Outcome :=
  .custom "worker" none (some (.error (.text "hung")))

def stuckStops : List (Callback Outcome) :=
  [some (.error (.text "stuck")), none]

def stuckParts : Orchestrator Outcome :=
  .ofService stuckServer [none, none] stuckStops

/-- A world in which something comes about after seven milliseconds. -/
def laterOn (parts : Orchestrator Outcome) (incident : Incident) : World Outcome Unit :=
  { World.around parts with tokens := { issued := 1 }, incidents := [(7, incident)] }

/-- A service that serves until a signal arrives, and a run whose token is cancelled by then. -/
theorem serveUntil_refines_run_stuck :
    ∃ course u course' u',
      (serveUntil stuckServer [none, none] stuckStops awaitSignal).Runs World.clockwork.setting
        prompt (laterOn {} (.signal .terminate)) course (some (.ok ())) u ∧
      (run ⟨0⟩).Runs World.clockwork.setting prompt (laterOn stuckParts (.cancellation ⟨0⟩)) course'
        (some (.error ⟨.runnerStop "worker" (.text "hung"), [.stop 0 (.text "stuck")]⟩)) u' ∧
      course.calls = course'.calls := by
  obtain ⟨course, u, exec, answered⟩ : ∃ course u,
      (serveUntil stuckServer [none, none] stuckStops awaitSignal).Runs World.clockwork.setting
        prompt (laterOn {} (.signal .terminate)) course (some (.ok ())) u ∧
      course.Answered Call.promptly :=
    Plan.follow_answered (World.clockwork.leap 7) rfl rfl
  obtain ⟨course', u', exec', answered'⟩ : ∃ course' u',
      (run ⟨0⟩).Runs World.clockwork.setting prompt (laterOn stuckParts (.cancellation ⟨0⟩)) course'
        (some (.error ⟨.runnerStop "worker" (.text "hung"), [.stop 0 (.text "stuck")]⟩)) u' ∧
      course'.Answered Call.promptly :=
    Plan.follow_answered (World.clockwork.leap 7) rfl rfl
  have started : Succeed Call.promptly (upCalls stuckServer [none, none]) := by
    simp [upCalls, stuckServer, Call.promptly, Call.promptly?]
  have service : stuckParts.IsService stuckServer [none, none] stuckStops :=
    Orchestrator.isService_ofService rfl
  obtain ⟨-, -, same⟩ :=
    (serveUntil_refines_run exec exec' service answered answered').2 started
  exact ⟨course, u, course', u', exec, exec', same (by simp)⟩

end Lifecycle

end Supervision
