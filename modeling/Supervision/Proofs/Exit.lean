import Supervision.Command.Service
import Supervision.Proofs.SignalledRuns
import Supervision.Proofs.Usability

/-!
# How the program ends

The service registers all of its parts (`Command.run_parts`) and runs them beside a watch for
signals, in a world of which `Lifecycle.run_concludes` speaks (`Command.isStaged`). So the program
exits with the status that its servers deserve (`Command.run_exit`): a success if all of them have
bound their addresses, and end in time and without an error after they were asked to stop
(`World.EndsWell`). A serve task that panics does not end well: its server takes that for an error.
-/

namespace Supervision.Command
open Lifecycle Net Server

variable {c : Config} {host : Host} {incidents : List (Nat × Incident)} {horizon id : Nat}
  {s : Server}

/-! ## Registrations -/

/-- The server of a part that is one. -/
def Part.server? : Part → Option Server
  | .plain _ => none
  | .server made _ => some made

/-- The request to register a part, whose server has the number `id`. -/
def Part.request (id : Nat) : Part → Registration Empty
  | .plain registration => registration
  | .server made registration => registration (.server made.name id)

/-- The requests to register parts whose servers are numbered from `id` on. -/
def requests (id : Nat) : List Part → List (Registration Empty)
  | [] => []
  | part :: rest => part.request id :: requests (id + part.server?.toList.length) rest

/-- The servers that a configuration enables. -/
def enabled (c : Config) : List Server :=
  (parts c).filterMap Part.server?

/-- The orchestrator of the service. -/
def crew (c : Config) : Orchestrator Empty where
  components := [⟨none, none⟩]
  runners := (enabled c).mapIdx fun id s => .server s.name id
  hooks := [none]
  httpConfigured := c.http.enabled
  health :=
    (({} : HealthChecks Empty).register .liveness "process" none).register .readiness "process" none

/-- An orchestrator accepts all parts of the service. -/
lemma foldlM_requests : (requests 0 (parts c)).foldlM Orchestrator.register {} = .ok (crew c) := by
  unfold crew enabled parts serverParts
  cases c.http.enabled with
  | true =>
    cases c.grpc.enabled with
    | true => rfl
    | false => rfl
  | false =>
    cases c.grpc.enabled with
    | true => rfl
    | false => rfl

/-- The parts of a service: two of its own, and the servers that are enabled. -/
lemma mem_parts {part : Part} :
    part ∈ parts c ↔
      part = .plain (.component ⟨none, none⟩) ∨ part = .plain (.healthCheck "process" none none) ∨
      (c.http.enabled ∧
        part = .server { c.http.server with timeoutMs := c.shutdown.timeoutMs } .httpServer) ∨
      (c.grpc.enabled ∧
        part = .server { c.grpc.server with timeoutMs := c.shutdown.timeoutMs } .grpcServer) ∨
      part = .plain (.hook none) := by
  simp [parts, serverParts]

/-- Nothing is put on record when they are accepted. -/
lemma records_parts {part : Part} (member : part ∈ parts c) : (part.request id).records = [] := by
  obtain rfl | rfl | ⟨-, rfl⟩ | ⟨-, rfl⟩ | rfl := mem_parts.1 member
  · rfl
  · rfl
  · rfl
  · rfl
  · rfl

/-- The servers among parts are that of the first one, if it is one, and those of the rest. -/
lemma filterMap_cons {part : Part} {rest : List Part} :
    (part :: rest).filterMap Part.server? = part.server?.toList ++ rest.filterMap Part.server? := by
  cases part with
  | plain => rfl
  | server => rfl

section
variable {w : World Empty Unit} {o : Orchestrator Empty}

/-- Enlisting a part adds its server, if it is one, and makes the request for it. -/
lemma run_enlist {part : Part} :
    World.clockwork.run horizon part.enlist w =
      (some (part.request w.servers.length),
        { w with servers := w.servers ++ part.server?.toList }) := by
  cases part with
  | plain registration =>
    show _ = (some registration, { w with servers := w.servers ++ [] })
    rw [List.append_nil]
    rfl
  | server made registration => rfl

/-- A registration that is accepted, and makes no records, changes the orchestrator only. -/
lemma run_register {r : Registration Empty} (accepted : w.orchestrator.register r = .ok o)
    (silent : r.records = []) :
    World.clockwork.run horizon (Lifecycle.register r) w =
      (some (.ok ()), { w with orchestrator := o }) := by
  have registers : registerIn r w = (.ok (), { w with orchestrator := o }) := by
    simp [registerIn, accepted, silent, World.logAll]
  show (some (registerIn r w).1, (registerIn r w).2) = _
  rw [registers]

/-- Parts are registered, one after the other. -/
lemma run_registerParts {parts : List Part}
    (silent : ∀ part ∈ parts, ∀ id, (part.request id).records = [])
    (accepted : (requests w.servers.length parts).foldlM Orchestrator.register w.orchestrator =
      .ok o) :
    World.clockwork.run horizon (registerParts parts) w =
      (some (.ok ()),
        { w with servers := w.servers ++ parts.filterMap Part.server?, orchestrator := o }) := by
  induction parts generalizing w with
  | nil =>
    cases accepted
    rw [List.filterMap_nil, List.append_nil]
    rfl
  | cons part rest ih =>
    rw [List.forall_mem_cons] at silent
    rw [requests, List.foldlM_cons] at accepted
    cases registers : w.orchestrator.register (part.request w.servers.length) with
    | error e =>
      rw [registers] at accepted
      cases accepted
    | ok o₁ =>
      rw [registers] at accepted
      let w₁ : World Empty Unit := { w with servers := w.servers ++ part.server?.toList }
      have length : w₁.servers.length = w.servers.length + part.server?.toList.length :=
        List.length_append
      have goesOn := ih (w := { w₁ with orchestrator := o₁ }) silent.2 (length ▸ accepted)
      rw [filterMap_cons, ← List.append_assoc]
      refine (Clockwork.run_bind run_enlist).trans ?_
      exact (Clockwork.run_bind (run_register (w := w₁) registers (silent.1 _))).trans goesOn

end

/-! ## The world of the service -/

/-- The world in which the parts of the service are registered. -/
def opened (c : Config) (host : Host) (incidents : List (Nat × Incident)) : World Empty Unit :=
  metricsBound c { host := host, incidents := incidents, user := () }

/-- The world once they are. -/
def staffed (c : Config) (host : Host) (incidents : List (Nat × Incident)) : World Empty Unit :=
  { opened c host incidents with orchestrator := crew c, servers := enabled c }

/-- To bind the address of the metrics changes nothing else of consequence. -/
lemma opened_eq (c : Config) (host : Host) (incidents : List (Nat × Incident)) :
    ∃ bound journal, opened c host incidents =
      { host := bound, journal := journal, incidents := incidents, user := () } := by
  unfold opened metricsBound
  split
  · split
    · exact ⟨_, _, rfl⟩
    · split
      · exact ⟨_, _, rfl⟩
      · exact ⟨_, _, rfl⟩
  · exact ⟨_, _, rfl⟩

/-- Every part of the service is registered. -/
lemma run_parts :
    World.clockwork.run horizon (registerParts (parts c)) (opened c host incidents) =
      (some (.ok ()), staffed c host incidents) := by
  obtain ⟨bound, journal, same⟩ := opened_eq c host incidents
  rw [staffed, same]
  exact run_registerParts (fun _ member _ => records_parts member) foldlM_requests

/-- The world in which the orchestrator is run. -/
def stage (c : Config) (host : Host) (incidents : List (Nat × Incident)) : World Empty Unit :=
  { staffed c host incidents with tokens := { issued := 1 } }

/-- Nothing has come about in it yet. -/
lemma stage_eq (c : Config) (host : Host) (incidents : List (Nat × Incident)) :
    (stage c host incidents).now = 0 ∧ (stage c host incidents).incidents = incidents := by
  obtain ⟨bound, journal, same⟩ := opened_eq c host incidents
  rw [stage, staffed, same]
  exact ⟨rfl, rfl⟩

/-- The service runs its parts beside a watch for signals. -/
lemma run_service :
    World.clockwork.run horizon (service .run c)
        { host := host, incidents := incidents, user := () } =
      World.clockwork.run horizon ((Activity.pair (cancelOnSignal ⟨0⟩)
          (orchestrated behaviour ⟨0⟩)).bind fun ended => .done ended.2)
        (stage c host incidents) := by
  have begins : World.clockwork.run horizon (service .run c)
      { host := host, incidents := incidents, user := () } =
      World.clockwork.run horizon (runAll c) (opened c host incidents) := rfl
  rw [begins, runAll]
  refine (Clockwork.run_bind run_parts).trans ?_
  obtain ⟨bound, journal, same⟩ := opened_eq c host incidents
  rw [stage, staffed, same]
  rfl

/-! ## The servers of the service -/

/-- The servers that are enabled hold no tasks, and have the time of the teardown to stop. -/
lemma mem_enabled (member : s ∈ enabled c) :
    s.serving = none ∧ s.timeoutMs = c.shutdown.timeoutMs := by
  obtain ⟨part, member, made⟩ := List.mem_filterMap.1 member
  obtain rfl | rfl | ⟨-, rfl⟩ | ⟨-, rfl⟩ | rfl := mem_parts.1 member
  · cases made
  · cases made
  · cases made
    exact ⟨rfl, rfl⟩
  · cases made
    exact ⟨rfl, rfl⟩
  · cases made

/-- At most two servers are enabled. -/
lemma length_enabled : (enabled c).length ≤ 2 := by
  unfold enabled parts serverParts
  cases c.http.enabled with
  | true =>
    cases c.grpc.enabled with
    | true => exact Nat.le_refl 2
    | false => exact Nat.le_succ 1
  | false =>
    cases c.grpc.enabled with
    | true => exact Nat.le_succ 1
    | false => exact Nat.zero_le 2

/-- The runners are all servers, in the order of their numbers. -/
lemma servers_crew : (crew c).servers = List.range (enabled c).length := by
  rw [Orchestrator.servers, crew, List.mapIdx_eq_zipIdx_map, List.filterMap_map]
  show (enabled c).zipIdx.filterMap (fun numbered => some numbered.2) = _
  rw [List.filterMap_eq_map', List.zipIdx_map_snd, List.range_eq_range']

/-- Every server that is enabled is a runner. -/
lemma runners_crew (here : (enabled c)[id]? = some s) :
    (crew c).runners[id]? = some (.server s.name id) := by
  rw [crew, List.getElem?_mapIdx, here]
  rfl

/-- Every runner is a server that is enabled. -/
lemma runner_crew {i : Nat} {runner : Runner Empty} (here : (crew c).runners[i]? = some runner) :
    ∃ s, (enabled c)[i]? = some s ∧ runner = .server s.name i := by
  rw [crew, List.getElem?_mapIdx, Option.map_eq_some_iff] at here
  obtain ⟨s, here, same⟩ := here
  exact ⟨s, here, same.symm⟩

/-- There is nothing to call but servers. -/
lemma flow_custom {call : Call Empty} {t : Token} (custom : call.server? = none) :
    call.flow behaviour t = .done (.ok ()) := by
  have nothing (callback : Callback Empty) : callback.call behaviour t = .done (.ok ()) := by
    cases callback with
    | none => rfl
    | some handle => cases handle
  cases call with
  | startRunner _ runner =>
    cases runner with
    | custom => exact nothing _
    | server => cases custom
  | stopRunner _ runner =>
    cases runner with
    | custom => exact nothing _
    | server => cases custom
  | _ => exact nothing _

/-- Incidents among which there is a signal that asks for an end, at any instant. Nobody outside has
the token of the run, and serve tasks, which begin at the first instant, end by themselves only
after it. -/
structure Endures (incidents : List (Nat × Incident)) : Prop where
  signal : ∃ instant s, (instant, .signal s) ∈ incidents ∧ s.isShutdown = true
  tokens : ∀ instant t, (instant, .cancellation t) ∉ incidents
  tasks : ∀ i ∈ incidents, i.2.doer? ≠ none → 0 < i.1

/-- The orchestrator is run where nothing has come about yet. -/
lemma isStaged (endures : Endures incidents) (time : c.shutdown.timeoutMs ≠ 0) :
    IsStaged behaviour ⟨0⟩ c.shutdown.timeoutMs (stage c host incidents) := by
  have time : 0 < c.shutdown.timeoutMs := Nat.pos_of_ne_zero time
  obtain ⟨bound, journal, same⟩ := opened_eq c host incidents
  have known {id : Nat} (member : id ∈ (crew c).servers) :
      ∃ s, (enabled c)[id]? = some s ∧ s.serving = none ∧ s.timeoutMs = c.shutdown.timeoutMs := by
    rw [servers_crew, List.mem_range] at member
    exact ⟨_, List.getElem?_eq_getElem member, mem_enabled (List.getElem_mem member)⟩
  -- no incident cancels a token, since nobody outside has one
  have unexpected (t : Token) : ¬(stage c host incidents).Expects t := by
    rintro ⟨instant, member⟩
    rw [stage, staffed, same] at member
    exact endures.tokens instant t member
  have live (t : Token) : (stage c host incidents).isCancelled t = false := by
    rw [stage]
    rfl
  constructor
  · constructor
    · rfl
    · constructor
      · intro t cancelled
        rw [live] at cancelled
        cases cancelled
      · intro t expected
        exact absurd expected (unexpected t)
    · intro id member
      obtain ⟨s, here, idle, timeout⟩ := known member
      exact ⟨s, here, idle, timeout ▸ time⟩
    · show (crew c).servers.Nodup
      rw [servers_crew]
      exact List.nodup_range
  · exact Nat.zero_lt_one
  · exact live _
  · exact unexpected _
  · rw [stage, staffed, same]
  · rw [stage, staffed, same]
    intro i member due
    by_contra acts
    exact absurd (endures.tasks i member acts) (Nat.not_lt.2 due)
  · exact fun _ custom _ => flow_custom custom
  · intro runner member
    obtain ⟨id, _, rfl⟩ := List.mem_mapIdx.1 member
    exact nofun
  · intro id member s here
    obtain ⟨s', here', -, timeout⟩ := known member
    cases here.symm.trans here'
    exact timeout
  · exact time

/-! ## The exit -/

/-- No incident is later than the latest one. -/
lemma le_latest {i : Nat × Incident} (member : i ∈ incidents) :
    i.1 ≤ (incidents.map (·.1)).foldl max 0 := by
  rw [List.foldl_max]
  exact Nat.le_trans (List.le_max?_getD_of_mem (List.mem_map_of_mem member)) (Nat.le_max_right ..)

/-- The status of an exit after a run. -/
def statusOf (outcome : RunOutcome) : Nat :=
  if outcome.isOk then 0 else 1

/-- The status is zero for a success, and only then. -/
lemma statusOf_eq_zero {outcome : RunOutcome} : statusOf outcome = 0 ↔ outcome = .ok () := by
  cases outcome with
  | ok => exact ⟨fun _ => rfl, fun _ => rfl⟩
  | error e => exact ⟨nofun, nofun⟩

/-- The status is one for any failure. -/
lemma statusOf_eq_one {outcome : RunOutcome} : statusOf outcome = 1 ↔ outcome ≠ .ok () := by
  cases outcome with
  | ok => exact ⟨nofun, fun failed => absurd rfl failed⟩
  | error e => exact ⟨fun _ => nofun, fun _ => rfl⟩

/-- The service of a configuration runs until it ends with a status. The servers that are enabled
are known by their places. -/
structure Exits (c : Config) (host : Host) (incidents : List (Nat × Incident))
    (course : Course Empty Unit) (outcome : RunOutcome) (u : World Empty Unit) : Prop where
  /-- The orchestrator runs, and a signal may cancel it at any time. -/
  exec : (Lifecycle.run ⟨0⟩).Runs (signalled ⟨0⟩) behaviour (watched (stage c host incidents))
    course (some outcome) u
  /-- The service ends as the run does, and no later. -/
  ends : ∃ v, v.now = u.now ∧ World.clockwork.run (horizonOf incidents c) (service .run c)
    { host := host, incidents := incidents, user := () } = (some outcome.isOk, v)
  /-- It succeeds if every server was asked to stop, and ends well. -/
  success : statusOf outcome = 0 ↔ ∀ id s, (enabled c)[id]? = some s →
    ∃ m ∈ course.made, m.call = .stopRunner id (.server s.name id) ∧
      m.before.EndsWell c.shutdown.timeoutMs id
  /-- With a gRPC server that never binds, it fails at once. -/
  grpc : ∀ id s, (enabled c)[id]? = some s → s.kind = .grpc → NeverBinds id course →
    statusOf outcome = 1 ∧ EndsAtOnce (stage c host incidents) course u
  /-- With an HTTP server that never binds, it fails after a signal and a teardown, unless a gRPC
  server cannot bind. -/
  http : ∀ id s, (enabled c)[id]? = some s → s.kind = .http → NeverBinds id course →
    statusOf outcome = 1 ∧ (RefusesGrpc (stage c host incidents) course ∨
      EndsAfterSignal (stage c host incidents) course)

section
variable {course : Course Empty Unit} {outcome : RunOutcome} {u : World Empty Unit}

/-- The status follows from the end of the run. -/
lemma exits_of_concludes (concludes : ConcludesBy (horizonOf incidents c) behaviour ⟨0⟩
      c.shutdown.timeoutMs (stage c host incidents) course outcome u) :
    Exits c host incidents course outcome u := by
  obtain ⟨exec, concludes, v, now, reports⟩ := concludes
  have well : outcome = .ok () ↔ ∀ id s, (enabled c)[id]? = some s →
      ∃ m ∈ course.made, m.call = .stopRunner id (.server s.name id) ∧
        m.before.EndsWell c.shutdown.timeoutMs id := by
    rw [concludes.ok_iff]
    constructor
    · intro well id s here
      exact well id s.name id (runners_crew here)
    · intro well i name id runner
      obtain ⟨s, here, same⟩ := runner_crew runner
      cases same
      exact well i s here
  refine ⟨exec, ⟨v, now, ?_⟩, statusOf_eq_zero.trans well, fun id s here grpc never => ?_,
    fun id s here _ never => ?_⟩
  · rw [run_service]
    exact Clockwork.run_bind reports
  · obtain ⟨failed, atOnce, -⟩ := concludes.of_neverBinds (runners_crew here) here never
    exact ⟨statusOf_eq_one.2 failed, atOnce grpc⟩
  · obtain ⟨failed, -, ends⟩ := concludes.of_neverBinds (runners_crew here) here never
    exact ⟨statusOf_eq_one.2 failed, ends⟩

end

/-- A service that a signal asks to end does so. -/
lemma exists_exits (endures : Endures incidents) (time : c.shutdown.timeoutMs ≠ 0) :
    ∃ course outcome u, Exits c host incidents course outcome u ∧
      rehearse host incidents .run c = some { status := statusOf outcome } := by
  obtain ⟨instant, s, member, shutdown⟩ := endures.signal
  obtain ⟨now, coming⟩ := stage_eq c host incidents
  have few : (crew c).servers.length ≤ 2 := by
    rw [servers_crew, List.length_range]
    exact length_enabled
  have enough : (incidents.map (·.1)).foldl max 0 +
      (crew c).servers.length * c.shutdown.timeoutMs ≤ horizonOf incidents c :=
    Nat.le_succ_of_le (Nat.add_le_add_left (Nat.mul_le_mul_right _ few) _)
  have staged : IsStaged behaviour ⟨0⟩ c.shutdown.timeoutMs (stage c host incidents) :=
    isStaged endures time
  have here : (instant, .signal s) ∈ (stage c host incidents).incidents := coming.symm ▸ member
  have early : (stage c host incidents).now ≤ (incidents.map (·.1)).foldl max 0 :=
    now.symm ▸ Nat.zero_le _
  obtain ⟨course, outcome, u, concludes⟩ :=
    run_concludes staged here shutdown early (le_latest member) enough
  have exits := exits_of_concludes concludes
  obtain ⟨v, -, ends⟩ := exits.ends
  refine ⟨course, outcome, u, exits, ?_⟩
  rw [rehearse, ends]
  rfl

/-- Where the configuration cannot be loaded, the program says so, and runs no service. Otherwise
all parts of the service are registered, and the program exits with the status that its run
deserves. -/
theorem run_exit {words : List String} {file : String → Config.FileContent}
    {readVariable : String → Option String} {arguments : Arguments}
    (parsed : Arguments.parse words = .ok arguments) (task : arguments.task = .run) :
    (∀ e, Config.loadWith (arguments.config.map file) readVariable arguments.envPrefix = .error e →
      prepare words file readVariable =
        .error { status := 1, complaint := some ("service-lifecycle: " ++ e.message) } ∧
      ∀ host incidents, exit? words file readVariable host incidents =
        some { status := 1, complaint := some ("service-lifecycle: " ++ e.message) }) ∧
    ∀ c, Config.loadWith (arguments.config.map file) readVariable arguments.envPrefix = .ok c →
      ∀ host incidents,
        (∀ horizon, World.clockwork.run horizon (registerParts (parts c))
          (opened c host incidents) = (some (.ok ()), staffed c host incidents)) ∧
        (Endures incidents → ∃ course outcome u, Exits c host incidents course outcome u ∧
          exit? words file readVariable host incidents = some { status := statusOf outcome }) := by
  constructor
  · intro e failed
    have refused : prepare words file readVariable =
        .error { status := 1, complaint := some ("service-lifecycle: " ++ e.message) } := by
      simp only [prepare, parsed, failed]
      rfl
    refine ⟨refused, fun host incidents => ?_⟩
    simp only [exit?, refused]
  · refine fun c loaded host incidents => ⟨fun horizon => run_parts, fun endures => ?_⟩
    obtain ⟨-, -, -, -, time, -⟩ :=
      Config.faults_eq_nil_iff.1 (Config.faults_of_loadWith loaded)
    obtain ⟨course, outcome, u, exits, rehearsed⟩ := exists_exits endures time
    refine ⟨course, outcome, u, exits, ?_⟩
    have prepared : prepare words file readVariable = .ok (.run, c) := by
      simp only [prepare, parsed, loaded, task]
    simp only [exit?, prepared]
    exact rehearsed

/-- Without a file or a variable, and with a signal: the HTTP server ends well, unless its port is
taken. With a file that is not there, there is a complaint. -/
theorem run_exit_defaults :
    let file (_ : String) : Config.FileContent := .missing
    let incidents : List (Nat × Incident) := [(5, .signal .terminate)]
    let taken : Host := { isolatedHost with bound := [.v4 ⟨[0, 0, 0, 0]⟩ 8080] }
    (∃ course outcome u, Exits {} isolatedHost incidents course outcome u ∧
      ∃ m ∈ course.made, m.call = .stopRunner 0 (.server "http" 0) ∧ m.before.EndsWell 5000 0) ∧
    (∃ course outcome u, Exits {} taken incidents course outcome u ∧ outcome ≠ .ok ()) ∧
    exit? ["-c", "service.toml"] file (fun _ => none) isolatedHost incidents = some {
      status := 1
      complaint := some "service-lifecycle: IO error: No such file or directory (os error 2)" } := by
  intro file incidents taken
  have defaults : Config.loadWith none (fun _ => none) "SERVICE" = .ok {} :=
    Config.eq_ok_of_toOption (by decide +kernel)
  have endures : Endures incidents := by
    constructor
    · exact ⟨5, .terminate, List.mem_singleton.2 rfl, rfl⟩
    · intro instant t member
      cases List.mem_singleton.1 member
    · intro i member _
      cases List.mem_singleton.1 member
      exact Nat.succ_pos 4
  have runs (host : Host) :=
    ((@run_exit [] file (fun _ => none) ⟨none, "SERVICE", .run⟩ rfl rfl).2 {} defaults host
      incidents).2 endures
  refine ⟨?_, ?_, ?_⟩
  · obtain ⟨course, outcome, u, exits, exit⟩ := runs isolatedHost
    have well : exit? [] file (fun _ => none) isolatedHost incidents = some { status := 0 } := by
      decide +kernel
    have status : statusOf outcome = 0 :=
      congrArg Exit.status (Option.some.inj (exit.symm.trans well))
    exact ⟨course, outcome, u, exits, exits.success.1 status 0 _ rfl⟩
  · obtain ⟨course, outcome, u, exits, exit⟩ := runs taken
    have failed : exit? [] file (fun _ => none) taken incidents = some { status := 1 } := by
      decide +kernel
    have status : statusOf outcome = 1 :=
      congrArg Exit.status (Option.some.inj (exit.symm.trans failed))
    exact ⟨course, outcome, u, exits, statusOf_eq_one.1 status⟩
  · have missing : Config.loadWith (some .missing) (fun _ => none) "SERVICE" =
        .error (.file .notFound) := rfl
    exact ((@run_exit ["-c", "service.toml"] file (fun _ => none)
      ⟨some "service.toml", "SERVICE", .run⟩ rfl rfl).1 _ missing).2 isolatedHost incidents

end Supervision.Command
