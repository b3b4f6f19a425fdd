import Supervision.Proofs.Crew

/-!
# Failures of binds

A gRPC server that cannot bind its address does not start, and ends the startup of a run. An HTTP
server starts all the same, and its stop reports the failure. `run_binds` says that no failure of a
bind is lost either way, whichever binds fail.
-/

namespace Supervision
open Lifecycle Net Plan Server

variable {κ υ : Type} {refuses : Nat → Option String} {ctx : Token} {w u : World κ υ}
  {b : Behaviour κ υ} {course : Course κ υ} {r : Option RunOutcome} {choice : Call κ → Outcome}

/-! ## Orchestrators and their servers -/

namespace World

/-- The servers of the orchestrator are its own. Each is one runner only, has not been launched, and
has some time to stop. -/
structure IsReady (w : World κ υ) : Prop where
  unclaimed : w.orchestrator.claimed = false
  sound : w.IsSound
  servers : ∀ id ∈ w.orchestrator.servers, ∃ s, w.servers[id]? = some s ∧ s.serving = none ∧
    0 < s.timeoutMs
  distinct : w.orchestrator.servers.Nodup

/-- The runner at place `i` is a server of a kind that cannot bind its address. -/
structure Refused (refuses : Nat → Option String) (w : World κ υ) (kind : Kind) (i : Nat)
    (name : String) (id : Nat) (e : ServerError) : Prop where
  runner : w.orchestrator.runners[i]? = some (.server name id)
  server : ∃ s reason, w.servers[id]? = some s ∧ s.kind = kind ∧ refuses id = some reason ∧
    e = .bind s.address reason

/-- Some gRPC server is the first one that cannot bind its address, or there is none. -/
lemma first_refused (refuses : Nat → Option String) (w : World κ υ) :
    (∃ k name id e, w.Refused refuses .grpc k name id e ∧
      ∀ j < k, ∀ name id e, ¬w.Refused refuses .grpc j name id e) ∨
    ∀ k name id e, ¬w.Refused refuses .grpc k name id e := by
  classical
  by_cases some : ∃ k name id e, w.Refused refuses .grpc k name id e
  · left
    obtain ⟨name, id, e, refused⟩ := Nat.find_spec some
    refine ⟨Nat.find some, name, id, e, refused, fun j before name id e earlier => ?_⟩
    exact Nat.find_min some before ⟨name, id, e, earlier⟩
  · right
    intro k name id e refused
    exact some ⟨k, name, id, e, refused⟩

/-- Servers that are ready form a crew of which nobody has been started. -/
lemma IsReady.crew (ready : w.IsReady) {w' : World κ υ} (servers : w'.servers = w.servers) :
    w.Crew refuses [] w.orchestrator.servers w' := by
  refine ⟨nofun, fun id member => ?_⟩
  obtain ⟨s, here, idle, -⟩ := ready.servers id member
  refine ⟨s, here, ?_, ?_, nofun⟩
  · rw [World.make, servers, here, Option.map_some]
  · rw [held, servers, here]
    exact idle

/-- The orchestrator employs servers that are ready, if the callbacks keep away from them. -/
lemma IsReady.employs {secret : Token → Prop} (ready : w.IsReady)
    (yields : ∀ handle t, (b handle t).Respects (Yields w.orchestrator.servers secret)) :
    w.Employs b secret w.orchestrator.servers where
  callbacks := yields
  time := by
    intro id member s here
    obtain ⟨s', here', -, time⟩ := ready.servers id member
    cases here.symm.trans here'
    exact time
  distinct := ready.distinct

end World

/-! ## Contexts -/

/-- A start is no part of a teardown. -/
lemma Call.IsStart.not_teardown {c : Call κ} (start : c.IsStart) : ¬c.IsTeardown := by
  cases start <;> exact nofun

/-- Undoing a start is no part of a teardown. -/
lemma Call.IsRollback.not_teardown {c : Call κ} (rollback : c.IsRollback) : ¬c.IsTeardown := by
  cases rollback
  exact nofun

/-- Nobody but the run knows the context of its teardown. -/
lemma run_live {S : Setting (World κ υ)} (exec : (run ctx).Runs S b w course r u)
    (sound : w.IsSound)
    (between : ∀ {v v'}, S.between v v' → v.Meddles (course.HandsOut w) none v')
    (meanwhile : ∀ {v v'}, S.meanwhile v v' → v.Meddles (course.HandsOut w) none v')
    (callbacks : ∀ handle t, (b handle t).Respects (World.Meddles (course.HandsOut w) none)) :
    ∀ m ∈ course.made, m.call.IsTeardown → m.before.isCancelled m.ctx = false := by
  have calls : ∀ m ∈ course.made, m.before.Meddles (course.HandsOut w) none m.after := by
    refine exec.made_respect (R := fun _ => World.Meddles (course.HandsOut w) none)
      (fun c t => ?_) (fun _ _ => .refl) World.Meddles.trans between meanwhile
    exact Call.flow_cases .done (fun handle => callbacks handle t)
      (fun _ => Server.start_respects.mono fun same => .of_eq same.tokens same.incidents)
      fun _ => Server.stop_respects.mono fun same => .of_eq same.tokens same.incidents
  have discreet : course.IsDiscreet (course.HandsOut w) S :=
    ⟨fun _ _ => between, fun _ _ => meanwhile, fun m member => (calls m member).of_none⟩
  intro m member teardown
  have fresh : w.tokens.issued ≤ m.ctx.id := by
    obtain ⟨own, fresh, gives⟩ | ⟨own, fresh, gives⟩ := run_gives exec discreet
    · obtain ⟨start, -⟩ | ⟨rollback, -⟩ := gives m member
      · exact absurd teardown start.not_teardown
      · exact absurd teardown rollback.not_teardown
    · obtain ⟨start, -⟩ | ⟨-, same⟩ := gives m member
      · exact absurd teardown start.not_teardown
      · exact same ▸ fresh
  have hidden : course.HandsOut w m.ctx := ⟨fresh, m, member, rfl⟩
  have hides : w.Hides (course.HandsOut w) := sound.hides
  obtain ⟨down, unexpected⟩ := hides m.ctx hidden fresh
  -- the calls of the run in order are the only steps that could cancel this context
  have chain := exec.chain careful_run discreet
  obtain ⟨earlier, later, split⟩ := List.append_of_mem member
  apply Bool.eq_false_iff.2
  rw [Ne, chain.cancelled_iff hidden unexpected split]
  rintro (up | ⟨m', member', same, before, after⟩)
  · rw [down] at up
    cases up
  · -- an earlier call would have cancelled the context of the teardown
    have member' : m' ∈ course.made := by
      rw [split]
      exact List.mem_append_left _ member'
    rw [same] at before after
    have unexpected := chain.unexpected hidden unexpected m' member'
    obtain up | given := (calls m' member').given_of_cancelled hidden unexpected after
    · rw [before] at up
      cases up
    · cases given

/-! ## The calls of servers in a run -/

/-- The calls of servers return what they are to return. If a call has not returned, the run has
come to no result yet. -/
lemma run_handles (exec : (run ctx).Runs (World.binding refuses) b w course r u) (ready : w.IsReady)
    (yields : ∀ handle t, (b handle t).Respects
      (World.Yields w.orchestrator.servers (course.HandsOut w)))
    (binds : ∀ m ∈ course.made, m.BindsAs refuses w) :
    ∀ m ∈ course.made, m.Reports refuses w ∧ (m.outcome = none → r = none ∧ m.after = u) := by
  have live := run_live exec ready.sound
    (by rintro v _ rfl; exact .refl) (fun lives => World.meddles_passes lives.passes)
    fun handle t => (yields handle t).mono fun yields => yields.tokens
  have allowed : ∀ m ∈ course.made, m.Allowed refuses w := by
    intro m member
    refine ⟨binds m member, fun call => live m member ?_⟩
    rw [call]
    exact .runner
  have employs := ready.employs yields
  rw [run_eq] at exec
  cases exec with
  | act same exec =>
    cases same
    simp only [claim_unclaimed ready.unclaimed] at exec
    exact (Handles.runParts employs rfl exec allowed (ready.crew rfl)).1

/-! ## What calls come to -/

/-- The callbacks return, and the components start, as do the runners that are no servers. -/
structure Course.IsObliging (choice : Call κ → Outcome) (o : Orchestrator κ)
    (course : Course κ υ) : Prop where
  returns : ∀ m ∈ course.made, m.call.server? = none → m.outcome ≠ none
  outcomes : ∀ m ∈ course.made, ∀ outcome, m.outcome = some outcome → choice m.call = outcome
  starts : ∀ c ∈ startCalls o ++ runnerCalls o, c.server? = none → choice c = .ok ()

/-- In an obliging course, a call that has returned was answered as chosen. -/
lemma Course.IsObliging.outcome {o : Orchestrator κ} (obliging : course.IsObliging choice o)
    {m : Made κ υ} (member : m ∈ course.made) (returned : m.outcome ≠ none) :
    m.outcome = some (choice m.call) := by
  obtain ⟨outcome, returned⟩ := Option.ne_none_iff_exists'.1 returned
  rw [returned, obliging.outcomes m member outcome returned]

/-- What the launch of a server comes to. -/
def launch? (refuses : Nat → Option String) (w : World κ υ) : Call κ → Option Outcome
  | .startRunner _ (.server _ id) => (w.servers[id]?).map (launched refuses id)
  | _ => none

/-- Launches of servers return what they come to, and other calls what `choice` says. -/
def launching (refuses : Nat → Option String) (w : World κ υ) (choice : Call κ → Outcome)
    (c : Call κ) : Outcome :=
  (launch? refuses w c).getD (choice c)

/-- A call that concerns no server is answered as chosen. -/
lemma launching_custom {c : Call κ} (custom : c.server? = none) :
    launching refuses w choice c = choice c := by
  rw [launching]
  cases c with
  | startRunner i runner =>
    cases runner with
    | custom => rfl
    | server => cases custom
  | _ => rfl

/-- A launch of a server is answered by what comes of it. -/
lemma launching_server {i : Nat} {name : String} {id : Nat} {s : Server}
    (here : w.servers[id]? = some s) :
    launching refuses w choice (.startRunner i (.server name id)) = launched refuses id s := by
  rw [launching, launch?, here]
  rfl

/-- The server of a runner is among the servers of the orchestrator. -/
lemma Orchestrator.mem_servers {o : Orchestrator κ} {i : Nat} {name : String} {id : Nat}
    (here : o.runners[i]? = some (.server name id)) : id ∈ o.servers :=
  List.mem_filterMap.2 ⟨_, List.mem_of_getElem? here, rfl⟩

/-- The start of a component concerns no server. -/
lemma custom_of_mem_startCalls {o : Orchestrator κ} {c : Call κ} (member : c ∈ startCalls o) :
    c.server? = none := by
  obtain ⟨i, _, -, rfl⟩ := mem_startCalls.1 member
  rfl

/-- A runner starts unless it is a gRPC server that cannot bind its address. -/
lemma launching_runner {i : Nat} {runner : Runner κ} (ready : w.IsReady)
    (obliging : course.IsObliging choice w.orchestrator)
    (here : w.orchestrator.runners[i]? = some runner) :
    launching refuses w choice (.startRunner i runner) = .ok () ∨
      ∃ name id e, w.Refused refuses .grpc i name id e := by
  cases runner with
  | custom name starting stopping =>
    left
    rw [launching_custom rfl]
    apply obliging.starts _ _ rfl
    exact List.mem_append_right _ (mem_runnerCalls.2 ⟨i, _, here, rfl⟩)
  | server name id =>
    obtain ⟨s, server, -⟩ := ready.servers id (Orchestrator.mem_servers here)
    rw [launching_server server, launched]
    split
    next reason kind refused =>
      exact .inr ⟨name, id, _, here, s, reason, server, kind, refused, rfl⟩
    next => exact .inl rfl

/-- A launch that is refused fails for a gRPC server, with the error of the bind. -/
lemma launching_refused {k : Nat} {name : String} {id : Nat} {e : ServerError}
    (refused : w.Refused refuses .grpc k name id e) :
    launching refuses w choice (.startRunner k (.server name id)) =
      .error (.server (.single e)) := by
  obtain ⟨s, reason, here, kind, why, rfl⟩ := refused.server
  rw [launching_server here, launched, kind, why]

/-- Every start returns. -/
lemma answeredOn_starts (ready : w.IsReady) (obliging : course.IsObliging choice w.orchestrator)
    (handles : ∀ m ∈ course.made, m.Reports refuses w) :
    course.AnsweredOn (launching refuses w choice)
      (startCalls w.orchestrator ++ runnerCalls w.orchestrator) := by
  intro m member call
  have custom (custom : m.call.server? = none) :
      m.outcome = some (launching refuses w choice m.call) := by
    rw [launching_custom custom]
    exact obliging.outcome member (obliging.returns m member custom)
  rcases List.mem_append.1 call with component | runner
  · exact custom (custom_of_mem_startCalls component)
  · obtain ⟨i, runner, here, call⟩ := mem_runnerCalls.1 runner
    cases runner with
    | custom =>
      apply custom
      rw [call]
      rfl
    | server name id =>
      obtain ⟨s, server, -⟩ := ready.servers id (Orchestrator.mem_servers here)
      rw [call, launching_server server]
      exact (handles m member).start call server

/-- All components start in an obliging course. -/
lemma succeed_components (obliging : course.IsObliging choice w.orchestrator) :
    Succeed (launching refuses w choice) (startCalls w.orchestrator) := by
  intro c member
  have custom := custom_of_mem_startCalls member
  rw [launching_custom custom]
  exact obliging.starts c (List.mem_append_left _ member) custom

/-- The runners before the first refused gRPC server all start. -/
lemma succeed_runners (ready : w.IsReady) (obliging : course.IsObliging choice w.orchestrator)
    {k : Nat} (bound : ∀ j < k, ∀ name id e, ¬w.Refused refuses .grpc j name id e) :
    Succeed (launching refuses w choice) ((runnerCalls w.orchestrator).take k) := by
  intro c member
  obtain ⟨j, place⟩ := List.mem_iff_getElem?.1 member
  rw [List.getElem?_take] at place
  split at place
  next before =>
    rw [runnerCalls, List.getElem?_mapIdx] at place
    obtain ⟨runner, here, rfl⟩ := Option.map_eq_some_iff.1 place
    refine (launching_runner ready obliging here).resolve_right ?_
    rintro ⟨name, id, e, refused⟩
    exact bound j before name id e refused
  next => cases place

/-! ## Teardown -/

/-- A call fails with this error, and is made once. -/
def FailsOnce (choice : Call κ → Outcome) (cs : List (Call κ)) (c : Call κ)
    (e : LifecycleError) : Prop :=
  ∃ before after, cs = before ++ c :: after ∧ c ∉ before ++ after ∧
    failures choice cs = failures choice before ++ e :: failures choice after

/-- Calls that are told apart by their indices are distinct. -/
lemma nodup_mapIdx {π : Type} {parts : List π} {f : Nat → π → Call κ}
    (index : ∀ i part, (f i part).index = i) : (parts.mapIdx f).Nodup := by
  rw [List.nodup_iff_getElem?_ne_getElem?]
  intro i j before inside same
  rw [List.length_mapIdx] at inside
  rw [List.getElem?_mapIdx, List.getElem?_mapIdx, List.getElem?_eq_getElem inside,
    List.getElem?_eq_getElem (Nat.lt_trans before inside), Option.map_some, Option.map_some] at same
  have indices := congrArg Call.index (Option.some.inj same)
  rw [index, index] at indices
  omega

/-- A teardown makes no call twice. -/
lemma nodup_teardownCalls {o : Orchestrator κ} : (teardownCalls o).Nodup := by
  have runners : (o.runners.mapIdx Call.stopRunner).reverse.Nodup :=
    List.nodup_reverse.2 (nodup_mapIdx fun _ _ => rfl)
  have components : (o.stops.mapIdx Call.stop).reverse.Nodup :=
    List.nodup_reverse.2 (nodup_mapIdx fun _ _ => rfl)
  have hooks : (o.hooks.mapIdx Call.hook).Nodup := nodup_mapIdx fun _ _ => rfl
  refine (runners.append components ?_).append hooks ?_
  · intro c member member'
    obtain ⟨i, _, rfl⟩ := List.mem_mapIdx.1 (List.mem_reverse.1 member)
    obtain ⟨j, _, same⟩ := List.mem_mapIdx.1 (List.mem_reverse.1 member')
    cases same
  · intro c member member'
    obtain ⟨j, _, rfl⟩ := List.mem_mapIdx.1 member'
    rcases List.mem_append.1 member with member | member
    · obtain ⟨i, _, same⟩ := List.mem_mapIdx.1 (List.mem_reverse.1 member)
      cases same
    · obtain ⟨i, _, same⟩ := List.mem_mapIdx.1 (List.mem_reverse.1 member)
      cases same

/-- Among distinct calls, one that fails fails once. -/
lemma failsOnce {cs : List (Call κ)} {c : Call κ} {cause : Cause} (distinct : cs.Nodup)
    (member : c ∈ cs) (fails : choice c = .error cause) :
    FailsOnce choice cs c (c.error cause) := by
  obtain ⟨before, after, rfl⟩ := List.append_of_mem member
  rw [List.nodup_middle, List.nodup_cons] at distinct
  refine ⟨before, after, rfl, distinct.1, ?_⟩
  rw [failures, List.filterMap_append, ← failures, ← failures, failures_cons, fails]
  rfl

/-- If some call fails once, the outcome is no success. -/
lemma FailsOnce.ne_ok {cs : List (Call κ)} {c : Call κ} {e : LifecycleError}
    (once : FailsOnce choice cs c e) : Errors.outcome (failures choice cs) ≠ .ok () := by
  obtain ⟨before, after, -, -, split⟩ := once
  rw [split]
  cases failures choice before <;> exact nofun

/-- A teardown calls nothing but its own parts, even if it does not end. -/
lemma comeDown_gives {S : Setting (World κ υ)} {parts : Orchestrator κ}
    (run : (comeDown parts).Runs S b w course r u) :
    course.Gives fun c _ => c ∈ teardownCalls parts := by
  have heeds : Heeds (World.Meddles (fun _ => True) none) (fun c _ => c ∈ teardownCalls parts)
      (comeDown parts : Plan κ υ _) := by
    refine heeds_publish.bind fun _ => Heeds.bind ?_ fun _ => heeds_publish.bind fun _ => .done
    refine heeds_freshToken.bind fun _ => (heeds_callEach fun _ => id).bind fun _ => ?_
    exact heeds_count.bind fun _ => .done
  exact heeds.gives run

/-- The stop of an HTTP server that could not bind its address fails. -/
lemma stop_fails {i name id e} (obliging : course.IsObliging choice w.orchestrator)
    (refused : w.Refused refuses .http i name id e) {m : Made κ υ} (member : m ∈ course.made)
    (reports : m.Reports refuses w) (call : m.call = .stopRunner i (.server name id))
    (returned : m.outcome ≠ none) :
    choice (.stopRunner i (.server name id)) = .error (.server (.single e)) := by
  obtain ⟨s, reason, here, kind, why, rfl⟩ := refused.server
  obtain ⟨pending, -⟩ | ⟨outcome, answered, bind⟩ := reports.stop call here
  · exact absurd pending returned
  · rw [← call, obliging.outcomes m member outcome answered]
    exact bind reason kind why

/-- A server is being stopped, and has some time left. -/
structure Made.StillStops (w : World κ υ) (m : Made κ υ) (u : World κ υ) : Prop where
  pending : m.outcome = none
  time : ∃ i name id s, m.call = .stopRunner i (.server name id) ∧ w.servers[id]? = some s ∧
    u.now < m.before.now + s.timeoutMs

/-- A stop in a teardown that has not returned waits for a server with time left. -/
lemma still_stops (ready : w.IsReady) {m : Made κ υ}
    (call : m.call ∈ teardownCalls w.orchestrator) (pending : m.outcome = none)
    (returns : m.call.server? = none → m.outcome ≠ none) (reports : m.Reports refuses w) :
    m.StillStops w m.after := by
  refine ⟨pending, ?_⟩
  have busy : m.call.server? ≠ none := fun custom => returns custom pending
  have kind := isTeardown_teardownCalls m.call call
  generalize called : m.call = c at call busy kind
  cases kind with
  | @runner i runner =>
    cases runner with
    | custom => exact absurd rfl busy
    | server name id =>
      have member : id ∈ servers (teardownCalls w.orchestrator) :=
        List.mem_filterMap.2 ⟨_, call, rfl⟩
      rw [servers_teardownCalls, List.mem_reverse] at member
      obtain ⟨s, here, -⟩ := ready.servers id member
      obtain ⟨-, time⟩ | ⟨outcome, answered, -⟩ := reports.stop called here
      · exact ⟨i, name, id, s, rfl, here, time⟩
      · cases pending.symm.trans answered
  | component => exact absurd rfl busy
  | hook => exact absurd rfl busy

/-! ## Runs -/

/-- What becomes of a run whose parts all start. -/
inductive CarriesOn (refuses : Nat → Option String) (choice : Call κ → Outcome) (ctx : Token)
    (w u : World κ υ) : Course κ υ → Option RunOutcome → Prop where
  /-- It waits for its token. -/
  | waits {course : Course κ υ} :
    u.isCancelled ctx = false →
    course.calls = startCalls w.orchestrator ++ runnerCalls w.orchestrator →
    CarriesOn refuses choice ctx w u course none
  /-- Its token is cancelled, and a server has some time left to stop. -/
  | stops {up down : Course κ υ} {wc : World κ υ} {m : Made κ υ} :
    up.calls = startCalls w.orchestrator ++ runnerCalls w.orchestrator →
    wc.isCancelled ctx = true →
    m ∈ down.made →
    m.StillStops w u →
    CarriesOn refuses choice ctx w u (up ++ .own wc :: down) none
  /-- Its token is cancelled, and all parts are stopped. -/
  | ended {up down : Course κ υ} {wc : World κ υ} :
    up.calls = startCalls w.orchestrator ++ runnerCalls w.orchestrator →
    wc.isCancelled ctx = true →
    down.calls = teardownCalls w.orchestrator →
    (∀ i name id e, w.Refused refuses .http i name id e →
      FailsOnce choice (teardownCalls w.orchestrator) (.stopRunner i (.server name id))
        (.runnerStop name (.server (.single e)))) →
    CarriesOn refuses choice ctx w u (up ++ .own wc :: down)
      (some (Errors.outcome (failures choice (teardownCalls w.orchestrator))))

section
variable (exec : (run ctx).Runs (World.binding refuses) b w course r u) (ready : w.IsReady)
  (obliging : course.IsObliging choice w.orchestrator)
  (handles : ∀ m ∈ course.made, m.Reports refuses w ∧ (m.outcome = none → r = none ∧ m.after = u))
include exec ready obliging handles

/-- The first refused gRPC server ends the startup: nothing is called after it, and its error is the
result. -/
lemma run_stops_short {k name id e} (refused : w.Refused refuses .grpc k name id e)
    (first : ∀ j < k, ∀ name id e, ¬w.Refused refuses .grpc j name id e) :
    course.calls = startCalls w.orchestrator ++ (runnerCalls w.orchestrator).take (k + 1) ∧
      r = some (.error (.single (.runnerStart name (.server (.single e))))) := by
  have answered := answeredOn_starts ready obliging fun m member => (handles m member).1
  obtain ⟨t, rest, rfl, exec'⟩ := run_unclaimed exec ready.unclaimed
  rw [Course.answeredOn_own] at answered
  rw [Course.calls_own]
  have fails : FirstFailure (launching refuses w choice) (runnerCalls w.orchestrator) k
      (.server (.single e)) := by
    refine ⟨?_, succeed_runners ready obliging first⟩
    rw [runnerCalls, List.getElem?_mapIdx, refused.runner, Option.map_some, Option.map_some,
      launching_refused refused]
  obtain ⟨runner, here, makes⟩ : ∃ runner, w.orchestrator.taken.runners[k]? = some runner ∧ _ :=
    runParts_stops_short (succeed_components obliging) fails
  cases here.symm.trans refused.runner
  -- launches after the failure do not count, as the plan does not come to them
  refine makes.runs_of_answeredOn exec' fun m member call => answered m member ?_
  rcases List.mem_append.1 call with component | runner
  · exact List.mem_append_left _ component
  · exact List.mem_append_right _ (List.mem_of_mem_take runner)

/-- Without a refused gRPC server, the run carries on to its teardown. -/
lemma run_carries_on (bound : ∀ k name id e, ¬w.Refused refuses .grpc k name id e) :
    CarriesOn refuses choice ctx w u course r := by
  have answered := answeredOn_starts ready obliging fun m member => (handles m member).1
  obtain ⟨t, rest, rfl, exec'⟩ := run_unclaimed exec ready.unclaimed
  have succeed : Succeed (launching refuses w choice)
      (startCalls w.orchestrator ++ runnerCalls w.orchestrator) := by
    refine succeed_append.2 ⟨succeed_components obliging, ?_⟩
    rw [← List.take_length (l := runnerCalls w.orchestrator)]
    exact succeed_runners ready obliging fun j _ => bound j
  have starts : Makes (launching refuses w choice)
      (startParts ctx w.orchestrator.taken : Plan κ υ _) _ _ := startParts_makes succeed
  obtain ⟨rfl, live, calls⟩ | ⟨up, wc, t', down, rfl, calls, cancelled, falling⟩ :=
    runParts_runs_on exec' starts answered
  · exact .waits live calls
  · have mine : ∀ m ∈ Course.made down, m ∈ Course.made (.own w :: (up ++ .own wc :: down)) := by
      intro m member
      simp [member]
    rw [← List.cons_append]
    by_cases pending : ∃ m ∈ Course.made down, m.outcome = none
    · -- the call that has not returned is the stop of a server
      obtain ⟨m, member, pending⟩ := pending
      obtain ⟨reports, last⟩ := handles m (mine m member)
      obtain ⟨rfl, rfl⟩ := last pending
      refine .stops calls cancelled member ?_
      exact still_stops ready (comeDown_gives falling m member) pending
        (obliging.returns m (mine m member)) reports
    · have answered : Course.Answered choice down := fun m member =>
        obliging.outcome (mine m member) fun none => pending ⟨m, member, none⟩
      obtain ⟨calls', rfl⟩ := comeDown_makes.runs falling answered
      refine .ended calls cancelled calls' ?_
      intro i name id e refused
      have member : .stopRunner i (.server name id) ∈ teardownCalls w.orchestrator :=
        mem_teardownCalls.2 (.inl ⟨i, _, refused.runner, rfl⟩)
      have made : Call.stopRunner i (.server name id) ∈ Course.calls down := calls' ▸ member
      obtain ⟨m, member', call⟩ := List.mem_map.1 made
      refine failsOnce nodup_teardownCalls member (stop_fails obliging refused (mine m member')
        (handles m (mine m member')).1 call ?_)
      exact fun none => pending ⟨m, member', none⟩

end

/-- A run that carries on with a refused HTTP server is no success. -/
lemma CarriesOn.ne_ok {i name id e} (carries : CarriesOn refuses choice ctx w u course r)
    (refused : w.Refused refuses .http i name id e) : r ≠ some (.ok ()) := by
  cases carries with
  | waits => exact nofun
  | stops => exact nofun
  | ended _ _ _ once =>
    intro success
    exact (once i name id e refused).ne_ok (Option.some.inj success)

/-- No failure of a bind is lost, whichever binds fail. If a gRPC server cannot bind its address,
the run ends with the first one, and reports its failure. Otherwise everything starts, and the run
waits for its token. After that everything is stopped, and each HTTP server that could not bind its
address accounts for one error of its own. -/
theorem run_binds (exec : (run ctx).Runs (World.binding refuses) b w course r u) (ready : w.IsReady)
    (yields : ∀ handle t, (b handle t).Respects
      (World.Yields w.orchestrator.servers (course.HandsOut w)))
    (binds : ∀ m ∈ course.made, m.BindsAs refuses w)
    (obliging : course.IsObliging choice w.orchestrator) :
    (∀ k name id e, w.Refused refuses .grpc k name id e →
      (∀ j < k, ∀ name id e, ¬w.Refused refuses .grpc j name id e) →
      course.calls = startCalls w.orchestrator ++ (runnerCalls w.orchestrator).take (k + 1) ∧
        r = some (.error (.single (.runnerStart name (.server (.single e)))))) ∧
    ((∀ k name id e, ¬w.Refused refuses .grpc k name id e) →
      CarriesOn refuses choice ctx w u course r) ∧
    ∀ kind i name id e, w.Refused refuses kind i name id e → r ≠ some (.ok ()) := by
  have handles := run_handles exec ready yields binds
  refine ⟨?_, run_carries_on exec ready obliging handles, ?_⟩
  · intro k name id e refused first
    exact run_stops_short exec ready obliging handles refused first
  · intro kind i name id e refused
    obtain ⟨k, name', id', e', refused', first⟩ | bound := w.first_refused refuses
    · rw [(run_stops_short exec ready obliging handles refused' first).2]
      exact nofun
    · cases kind with
      | http => exact (run_carries_on exec ready obliging handles bound).ne_ok refused
      | grpc => exact absurd refused (bound i name id e)

/-! ## A run by example -/

/-- A run that carries on and ends has made the calls of a startup and of a teardown. -/
lemma CarriesOn.calls {result} (carries : CarriesOn refuses choice ctx w u course (some result)) :
    course.calls = startCalls w.orchestrator ++ runnerCalls w.orchestrator ++
      teardownCalls w.orchestrator := by
  generalize ended : some result = r at carries
  cases carries with
  | waits => cases ended
  | stops => cases ended
  | ended up _ down _ => rw [Course.calls_append, Course.calls_own, up, down]

/-- Answers that are chosen, with starts that succeed, make a course obliging. -/
lemma Course.Answered.isObliging {o : Orchestrator κ} (answered : course.Answered choice)
    (starts : ∀ c ∈ startCalls o ++ runnerCalls o, c.server? = none → choice c = .ok ()) :
    course.IsObliging choice o where
  returns m member _ none := by
    rw [answered m member] at none
    cases none
  outcomes m member outcome returned := by
    rw [answered m member] at returned
    exact Option.some.inj returned
  starts := starts

/-- A check that the background may settle: nothing comes about by itself, and every bind comes out
as `refuses` says. -/
def World.allows? (refuses : Nat → Option String) (w : World κ υ) : Bool :=
  w.incidents.isEmpty && (List.range w.tasks.length).all fun k =>
    ((w.turning k).tasks[k]?).all fun t => ((w.turning k).servers[t.server]?).all fun s =>
      match (w.turning k).bindFailure? s, refuses t.server with
      | none, none => true
      | some (.bind address reason), some reason' => address = s.address ∧ reason = reason'
      | _, _ => false

/-- The check is right. -/
lemma World.allows_of_allows? (checked : w.allows? refuses = true) : w.Allows refuses := by
  rw [allows?, Bool.and_eq_true, List.isEmpty_iff, List.all_eq_true] at checked
  obtain ⟨none, turns⟩ := checked
  constructor
  · rw [none]
    exact nofun
  · intro k inside t s here _ _ there _
    have comes := turns k (List.mem_range.2 inside)
    rw [here, Option.all_some, there, Option.all_some] at comes
    unfold BindsAs
    split at comes
    next fails refused =>
      rw [fails, refused]
      rfl
    next fails refused =>
      obtain ⟨rfl, rfl⟩ := of_decide_eq_true comes
      rw [fails, refused]
      rfl
    next => cases comes

/-- The background settles in a wait, if it may and the wait is not over at once. -/
def World.settling (refuses : Nat → Option String) :
    Strategy (World.binding refuses : Setting (World κ υ)) where
  after := id
  during trigger w :=
    if trigger.ends w then w
    else if w.allows? refuses then w.settle
    else w
  between _ := rfl
  meanwhile trigger w := by
    split
    · exact .refl
    · split
      next checked => exact .settle (allows_of_allows? checked) .refl
      next => exact .refl

/-- An HTTP server that may not bind its port, a gRPC server, and a runner that is no server. The
token of the run is cancelled. -/
def mixed (address : String) : World Outcome Unit where
  tokens := { issued := 1, cancelled := [⟨0⟩] }
  orchestrator := {
    runners := [.server "http" 0, .server "grpc" 1, .custom "worker" none none]
    hooks := [none] }
  servers := [
    { kind := .http, name := "http", address := "127.0.0.1:80" },
    { kind := .grpc, name := "grpc", address := address }]
  host := isolatedHost
  user := ()

/-- These servers may not bind their ports. -/
def denied (ids : List Nat) (id : Nat) : Option String :=
  if id ∈ ids then some OsError.permissionDenied.message else none

def deniedAt (address : String) : Cause :=
  .server (.single (.bind address OsError.permissionDenied.message))

/-- The stop of the HTTP server fails, and the launch of the gRPC server if it may not bind. -/
def mixedly (ids : List Nat) : Call Outcome → Outcome
  | .startRunner _ (.server _ 1) => if 1 ∈ ids then .error (deniedAt "127.0.0.1:443") else .ok ()
  | .stopRunner _ (.server _ 0) => .error (deniedAt "127.0.0.1:80")
  | _ => .ok ()

section
variable {address : String}

/-- The servers of the example are ready. -/
lemma isReady_mixed : (mixed address).IsReady where
  unclaimed := rfl
  sound := by
    constructor
    · intro t up
      have only : t = ⟨0⟩ := by simpa [mixed, World.isCancelled, Tokens.isCancelled] using up
      rw [only]
      exact Nat.zero_lt_one
    · rintro t ⟨instant, member⟩
      cases member
  servers := by
    rintro id (_ | ⟨_, _ | ⟨_, ⟨⟩⟩⟩)
    · exact ⟨_, rfl, rfl, Nat.succ_pos 4999⟩
    · exact ⟨_, rfl, rfl, Nat.succ_pos 4999⟩
  distinct := by
    show [0, 1].Nodup
    decide

/-- Only the second server of the example is a gRPC server, and it may be refused. -/
lemma refused_mixed {i name id e} (refused : (mixed address).Refused refuses .grpc i name id e) :
    i = 1 ∧ refuses 1 ≠ none := by
  obtain ⟨here, s, reason, there, kind, why, -⟩ := refused
  match i with
  | 0 =>
    cases here
    cases there
    cases kind
  | 1 =>
    cases here
    rw [why]
    exact ⟨rfl, nofun⟩
  | 2 => cases here

/-- In the example, chosen answers make a course obliging. -/
lemma obliging_mixed {ids : List Nat} {course : Course Outcome Unit}
    (answered : course.Answered (mixedly ids)) :
    course.IsObliging (mixedly ids) (mixed address).orchestrator := by
  apply answered.isObliging
  rintro c (_ | ⟨_, _ | ⟨_, _ | ⟨_, ⟨⟩⟩⟩⟩) custom
  · cases custom
  · cases custom
  · rfl

end

/-- A run that is stopped at once. The stop of the gRPC server waits until the background has
settled. -/
lemma run_mixed_bound : ∃ course u,
    (run ⟨0⟩).Runs (World.binding (denied [0])) prompt (mixed "127.0.0.1:0") course
      (some (.error (.single (.runnerStop "http" (deniedAt "127.0.0.1:80"))))) u ∧
    (∀ m ∈ course.made, m.BindsAs (denied [0]) (mixed "127.0.0.1:0")) ∧
    course.Answered (mixedly [0]) := by
  refine ⟨_, _, Plan.follow_runs (World.settling (denied [0])) rfl, ?_,
    Course.answered_of_outcomes rfl⟩
  rintro m (_ | ⟨_, _ | ⟨_, _ | ⟨_, _ | ⟨_, _ | ⟨_, _ | ⟨_, _ | ⟨_, ⟨⟩⟩⟩⟩⟩⟩⟩⟩)
    i name id s call here kind
  · cases call
    cases here
    cases kind
  · cases call
    cases here
    rfl
  all_goals cases call

/-- A run that does not come up. -/
lemma run_mixed_refused : ∃ course u,
    (run ⟨0⟩).Runs (World.binding (denied [0, 1])) prompt (mixed "127.0.0.1:443") course
      (some (.error (.single (.runnerStart "grpc" (deniedAt "127.0.0.1:443"))))) u ∧
    (∀ m ∈ course.made, m.BindsAs (denied [0, 1]) (mixed "127.0.0.1:443")) ∧
    course.Answered (mixedly [0, 1]) := by
  refine ⟨_, _, Plan.follow_runs (World.settling (denied [0, 1])) rfl, ?_,
    Course.answered_of_outcomes rfl⟩
  rintro m (_ | ⟨_, _ | ⟨_, ⟨⟩⟩⟩) i name id s call here kind
  · cases call
    cases here
    cases kind
  · cases call
    cases here
    rfl

/-- Whether or not the gRPC server may bind its port, the failures are reported: that of the HTTP
server by its stop, or that of the gRPC server by its launch. -/
theorem run_binds_mixed :
    (∃ course u, (run ⟨0⟩).Runs (World.binding (denied [0])) prompt (mixed "127.0.0.1:0") course
        (some (.error (.single (.runnerStop "http" (deniedAt "127.0.0.1:80"))))) u ∧
      course.calls = startCalls (mixed "127.0.0.1:0").orchestrator ++
        runnerCalls (mixed "127.0.0.1:0").orchestrator ++
        teardownCalls (mixed "127.0.0.1:0").orchestrator) ∧
    ∃ course u,
      (run ⟨0⟩).Runs (World.binding (denied [0, 1])) prompt (mixed "127.0.0.1:443") course
        (some (.error (.single (.runnerStart "grpc" (deniedAt "127.0.0.1:443"))))) u ∧
      course.calls = [.startRunner 0 (.server "http" 0), .startRunner 1 (.server "grpc" 1)] := by
  constructor
  · obtain ⟨course, u, exec, binds, answered⟩ := run_mixed_bound
    have bound : ∀ k name id e,
        ¬(mixed "127.0.0.1:0").Refused (denied [0]) .grpc k name id e :=
      fun _ _ _ _ refused => (refused_mixed refused).2 rfl
    obtain ⟨-, carriesOn, -⟩ :=
      run_binds exec isReady_mixed (fun _ _ => .done) binds (obliging_mixed answered)
    exact ⟨course, u, exec, (carriesOn bound).calls⟩
  · obtain ⟨course, u, exec, binds, answered⟩ := run_mixed_refused
    have refused : (mixed "127.0.0.1:443").Refused (denied [0, 1]) .grpc 1 "grpc" 1
        (.bind "127.0.0.1:443" OsError.permissionDenied.message) :=
      ⟨rfl, _, _, rfl, rfl, rfl, rfl⟩
    obtain ⟨stopsShort, -, -⟩ :=
      run_binds exec isReady_mixed (fun _ _ => .done) binds (obliging_mixed answered)
    obtain ⟨calls, -⟩ := stopsShort 1 _ _ _ refused fun j before _ _ _ earlier =>
      Nat.ne_of_lt before (refused_mixed earlier).1
    exact ⟨course, u, exec, calls⟩

end Supervision
