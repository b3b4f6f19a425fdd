import Mathlib.Data.List.Nodup
import Supervision.Proofs.Assertions
import Supervision.Proofs.Contexts
import Supervision.Proofs.Standing
import Supervision.Proofs.Teardown

/-!
# The crew of a run

The servers among the runners of an orchestrator are its crew: a run launches them in order, and
stops them in the opposite order. `World.Crew` is what is known of them in between, whatever the
callbacks do elsewhere. By `Plan.Handles.runParts`, a launch returns what the bind comes to
(`launched`), and a stop returns the failure of the bind, and that in time.
-/

namespace Supervision
open Net Server

variable {κ υ α : Type} {refuses : Nat → Option String} {id : Nat} {s : Server} {ctx : Token}
  {w₀ w w' u : World κ υ} {up down own : List Nat}

/-! ## Calls of servers -/

/-- The server that a runner is. -/
def Runner.server? : Runner κ → Option Nat
  | .custom _ _ _ => none
  | .server _ id => some id

/-- The servers among the runners of an orchestrator. -/
def Orchestrator.servers (o : Orchestrator κ) : List Nat :=
  o.runners.filterMap Runner.server?

/-- The server that a call starts or stops. -/
def Call.server? : Call κ → Option Nat
  | .startRunner _ runner => runner.server?
  | .stopRunner _ runner => runner.server?
  | _ => none

/-- What a call does is up to the callbacks, if it calls no server. -/
lemma Call.flow_respects {R : World κ υ → World κ υ → Prop} {b : Behaviour κ υ} {c : Call κ}
    (custom : c.server? = none) (callbacks : ∀ handle t, (b handle t).Respects R) :
    (c.flow b ctx).Respects R := by
  have callback : ∀ {callback : Callback κ}, (callback.call b ctx).Respects R := by
    intro callback
    cases callback with
    | none => exact .done
    | some handle => exact callbacks handle ctx
  cases c with
  | start => exact callback
  | rollback => exact callback
  | startRunner _ runner =>
    cases runner with
    | custom => exact callback
    | server => cases custom
  | stopRunner _ runner =>
    cases runner with
    | custom => exact callback
    | server => cases custom
  | stop => exact callback
  | hook => exact callback

/-- The servers that calls start or stop. -/
def servers (cs : List (Call κ)) : List Nat :=
  cs.filterMap Call.server?

/-- No calls concern no servers. -/
@[simp] lemma servers_nil : servers ([] : List (Call κ)) = [] := rfl

/-- The servers of two lists of calls stand one after the other. -/
@[simp] lemma servers_append {cs cs' : List (Call κ)} :
    servers (cs ++ cs') = servers cs ++ servers cs' :=
  List.filterMap_append

/-- A call that concerns no server adds none. -/
lemma servers_cons_none {c : Call κ} {cs} (custom : c.server? = none) :
    servers (c :: cs) = servers cs :=
  List.filterMap_cons_none custom

/-- A call that concerns a server adds it in front. -/
lemma servers_cons_some {c : Call κ} {cs} (server : c.server? = some id) :
    servers (c :: cs) = id :: servers cs :=
  List.filterMap_cons_some server

/-- Calls of which none concerns a server have no servers. -/
lemma servers_eq_nil {cs : List (Call κ)} (custom : ∀ c ∈ cs, c.server? = none) :
    servers cs = [] :=
  List.filterMap_eq_nil_iff.2 custom

/-- Calls of one kind for all runners have the servers among the runners. -/
lemma servers_mapIdx {f : Nat → Runner κ → Call κ} {runners : List (Runner κ)}
    (same : ∀ i r, (f i r).server? = r.server?) :
    servers (runners.mapIdx f) = runners.filterMap Runner.server? := by
  induction runners generalizing f with
  | nil => rfl
  | cons r rest ih =>
    rw [List.mapIdx_cons, servers, List.filterMap_cons, List.filterMap_cons, same]
    have rest := ih (f := fun i => f (i + 1)) fun i => same (i + 1)
    rw [servers] at rest
    rw [rest]

/-- A teardown stops the servers in reverse order. -/
lemma servers_teardownCalls {parts : Orchestrator κ} :
    servers (Lifecycle.teardownCalls parts) = parts.servers.reverse := by
  have components : servers (parts.stops.mapIdx Call.stop).reverse = [] := by
    apply servers_eq_nil
    intro c member
    obtain ⟨i, _, rfl⟩ := List.mem_mapIdx.1 (List.mem_reverse.1 member)
    rfl
  have hooks : servers (parts.hooks.mapIdx Call.hook) = [] := by
    apply servers_eq_nil
    intro c member
    obtain ⟨i, _, rfl⟩ := List.mem_mapIdx.1 member
    rfl
  rw [Lifecycle.teardownCalls, servers_append, servers_append, components, hooks, List.append_nil,
    List.append_nil, servers, List.filterMap_reverse]
  exact congrArg List.reverse (servers_mapIdx fun _ _ => rfl)

namespace World

/-- What callbacks do leaves the servers of a run alone, and none of the secret tokens is cancelled
by it. -/
structure Yields (own : List Nat) (secret : Token → Prop) (w w' : World κ υ) : Prop where
  servers : ∀ id ∈ own, w.Elsewhere id w'
  tokens : w.Meddles secret none w'

/-- The servers of a run: some hold their tasks, and some have none yet. -/
structure Crew (refuses : Nat → Option String) (w₀ : World κ υ) (up down : List Nat)
    (w : World κ υ) : Prop where
  up : ∀ id ∈ up, ∃ s k, w₀.servers[id]? = some s ∧ w.Stands refuses id s (some k)
  down : ∀ id ∈ down, ∃ s, w₀.servers[id]? = some s ∧ w.Stands refuses id s none

namespace Crew

/-- A crew stays one if each of its servers stands as before. -/
lemma of_stands (crew : w₀.Crew refuses up down w)
    (keeps : ∀ id s task?, id ∈ up ∨ id ∈ down → w.Stands refuses id s task? →
      u.Stands refuses id s task?) : w₀.Crew refuses up down u := by
  constructor
  · intro id member
    obtain ⟨s, k, here, stands⟩ := crew.up id member
    exact ⟨s, k, here, keeps id s _ (.inl member) stands⟩
  · intro id member
    obtain ⟨s, here, stands⟩ := crew.down id member
    exact ⟨s, here, keeps id s _ (.inr member) stands⟩

/-- Some of the servers of a crew form a crew as well. -/
lemma mono {up' down' : List Nat} (crew : w₀.Crew refuses up down w)
    (ups : ∀ id ∈ up', id ∈ up) (downs : ∀ id ∈ down', id ∈ down) :
    w₀.Crew refuses up' down' w :=
  ⟨fun id member => crew.up id (ups id member), fun id member => crew.down id (downs id member)⟩

/-- The servers and tasks of the world are the same. -/
lemma runs_same {p : Flow κ υ α} {r} (crew : w₀.Crew refuses up down w)
    (respects : p.Respects fun v v' : World κ υ => v'.servers = v.servers ∧ v'.tasks = v.tasks)
    (run : p.Runs (binding refuses) w r u) : w₀.Crew refuses up down u :=
  crew.of_stands fun _ _ _ _ stands =>
    stands.runs respects (fun same stands => stands.of_eq same.1 same.2) run

/-- A crew stays one through what yields to it. -/
lemma runs_yielding {secret : Token → Prop} {p : Flow κ υ α} {r}
    (crew : w₀.Crew refuses up down w) (respects : p.Respects (Yields own secret))
    (ups : ∀ id ∈ up, id ∈ own) (downs : ∀ id ∈ down, id ∈ own)
    (run : p.Runs (binding refuses) w r u) : w₀.Crew refuses up down u := by
  apply crew.of_stands
  intro id s task? member stands
  have member : id ∈ own := member.elim (ups id) (downs id)
  exact stands.runs respects (fun yields stands => stands.elsewhere (yields.servers id member)) run

/-- The next server is launched. -/
lemma start {r} (crew : w₀.Crew refuses up (id :: down) w) (other : id ∉ up ++ down)
    (run : (Server.start id).Runs (binding refuses) w r u)
    (binds : ∀ s, w₀.servers[id]? = some s → s.kind = .grpc → w.BindsAs refuses id s) :
    (∀ s, w₀.servers[id]? = some s → r = some (launched refuses id s)) ∧
      (r = some (.ok ()) → w₀.Crew refuses (up ++ [id]) down u) := by
  obtain ⟨s, here, stands⟩ := crew.down id List.mem_cons_self
  obtain ⟨returns, after⟩ := start_binds run stands (binds s here)
  have others : w₀.Crew refuses up down u := by
    refine (crew.mono (fun _ member => member) fun _ => List.mem_cons_of_mem _).of_stands ?_
    intro id' s' task? member stands'
    refine stands'.start_other ?_ run
    rintro rfl
    exact other (List.mem_append.2 member)
  constructor
  · intro s' here'
    cases here.symm.trans here'
    exact returns
  · rintro rfl
    obtain ⟨k, stands⟩ := after (Option.some.inj returns).symm
    refine ⟨fun id' member => ?_, others.down⟩
    rcases List.mem_append.1 member with member | member
    · exact others.up id' member
    · cases List.mem_singleton.1 member
      exact ⟨s, k, here, stands⟩

/-- The next server is stopped. -/
lemma stop {r} (crew : w₀.Crew refuses (id :: up) [] w) (other : id ∉ up)
    (run : (Server.stop id ctx).Runs (binding refuses) w r u)
    (time : ∀ s, w₀.servers[id]? = some s → 0 < s.timeoutMs) (live : w.isCancelled ctx = false) :
    (∀ s, w₀.servers[id]? = some s →
      r = none ∧ u.now < w.now + s.timeoutMs ∨
        ∃ outcome, r = some outcome ∧ ∀ reason, s.kind = .http → refuses id = some reason →
          outcome = .error (.server (.single (.bind s.address reason)))) ∧
      w₀.Crew refuses up [] u := by
  obtain ⟨s, k, here, stands⟩ := crew.up id List.mem_cons_self
  constructor
  · intro s' here'
    cases here.symm.trans here'
    exact stop_reports run stands (time s here) live
  · refine ⟨fun id' member => ?_, nofun⟩
    obtain ⟨s', k', here', stands'⟩ := crew.up id' (List.mem_cons_of_mem _ member)
    have other : id ≠ id' := by
      rintro rfl
      exact other member
    refine ⟨s', k', here', stands'.stop_other other ?_ run⟩
    intro k'' holds
    cases stands.holds.symm.trans holds
    intro same
    cases same
    exact stands'.ne stands other rfl

end Crew

end World

/-! ## What the calls of servers return -/

/-- What a call of a server returns: a launch what its bind comes to, and the stop of an HTTP server
the failure of its bind, unless it still has time. -/
structure Made.Reports (refuses : Nat → Option String) (w₀ : World κ υ) (m : Made κ υ) :
    Prop where
  start : ∀ {i name id s}, m.call = .startRunner i (.server name id) →
    w₀.servers[id]? = some s → m.outcome = some (launched refuses id s)
  stop : ∀ {i name id s}, m.call = .stopRunner i (.server name id) → w₀.servers[id]? = some s →
    m.outcome = none ∧ m.after.now < m.before.now + s.timeoutMs ∨
      ∃ outcome, m.outcome = some outcome ∧ ∀ reason, s.kind = .http → refuses id = some reason →
        outcome = .error (.server (.single (.bind s.address reason)))

/-- A call that concerns no server has nothing to report. -/
lemma Made.reports_of_custom {m : Made κ υ} (custom : m.call.server? = none) :
    m.Reports refuses w₀ := by
  constructor
  · intro i name id s call
    rw [call] at custom
    cases custom
  · intro i name id s call
    rw [call] at custom
    cases custom

/-- If the call launches a gRPC server, its bind comes out as `refuses` says. -/
def Made.BindsAs (refuses : Nat → Option String) (w₀ : World κ υ) (m : Made κ υ) : Prop :=
  ∀ {i name id s}, m.call = .startRunner i (.server name id) → w₀.servers[id]? = some s →
    s.kind = .grpc → m.before.BindsAs refuses id s

/-- What is taken for granted of a call. No runner is stopped with a cancelled context. -/
structure Made.Allowed (refuses : Nat → Option String) (w₀ : World κ υ) (m : Made κ υ) : Prop where
  binds : m.BindsAs refuses w₀
  live : ∀ {i runner}, m.call = .stopRunner i runner → m.before.isCancelled m.ctx = false

/-! ## Plans -/

/-- What is known of the parts of a run. The callbacks leave its servers alone, each server is one
runner only, and has some time to stop. -/
structure World.Employs (w₀ : World κ υ) (b : Behaviour κ υ) (secret : Token → Prop)
    (own : List Nat) : Prop where
  callbacks : ∀ handle t, (b handle t).Respects (World.Yields own secret)
  time : ∀ id ∈ own, ∀ s, w₀.servers[id]? = some s → 0 < s.timeoutMs
  distinct : own.Nodup

namespace Plan
open World

/-- From a crew to another one, the calls of servers return what they are to return. -/
abbrev Handles (refuses : Nat → Option String) (b : Behaviour κ υ) (w₀ : World κ υ)
    (P : World κ υ → Prop) (p : Plan κ υ α) (R : α → World κ υ → Prop) : Prop :=
  Ensures (binding refuses) b (Made.Allowed refuses w₀) (Made.Reports refuses w₀) P p R

variable {b : Behaviour κ υ} {secret : Token → Prop} {c : Call κ} {cs first rest : List (Call κ)}

namespace Handles

/-- A step of the plan itself. -/
lemma ofFlow {flow : Flow κ υ α}
    (respects : flow.Respects fun v v' : World κ υ => v'.servers = v.servers ∧ v'.tasks = v.tasks) :
    Handles refuses b w₀ (w₀.Crew refuses up down) (.ofFlow flow)
      fun _ => w₀.Crew refuses up down :=
  Ensures.ofFlow fun run crew => crew.runs_same respects run

/-- Counting a sample leaves the crew as it is. -/
lemma count {metric : Metric} :
    Handles refuses b w₀ (w₀.Crew refuses up down) (.ofFlow (Flow.count metric))
      fun _ => w₀.Crew refuses up down :=
  ofFlow (.change fun _ => ⟨rfl, rfl⟩)

/-- Publishing a phase leaves the crew as it is. -/
lemma publish {phase : Phase} :
    Handles refuses b w₀ (w₀.Crew refuses up down) (.ofFlow (Flow.publish phase))
      fun _ => w₀.Crew refuses up down :=
  ofFlow (.change fun _ => ⟨rfl, rfl⟩)

/-- Nothing more is asked of the crew. -/
lemma ofFlow_true {P : World κ υ → Prop} {flow : Flow κ υ α} :
    Handles refuses b w₀ P (.ofFlow flow) fun _ _ => True :=
  Ensures.ofFlow fun _ _ => trivial

/-- Noting an answer leaves the crew as it is. -/
lemma crew_note (crew : w₀.Crew refuses up down w) {outcome : Outcome} :
    w₀.Crew refuses up down (c.note outcome w) := by
  apply crew.of_stands
  intro id s task? _ stands
  cases outcome <;> exact stands.of_eq rfl rfl

section
variable (employs : w₀.Employs b secret own)
include employs

/-- A call of no server. -/
lemma attempt_custom (custom : c.server? = none) (ups : ∀ id ∈ up, id ∈ own)
    (downs : ∀ id ∈ down, id ∈ own) :
    Handles refuses b w₀ (w₀.Crew refuses up down) (attempt Call.note ctx c)
      fun _ => w₀.Crew refuses up down := by
  apply Ensures.attempt
  · intro w r u run _ crew
    refine ⟨Made.reports_of_custom custom, fun _ _ => ?_⟩
    exact crew.runs_yielding (Call.flow_respects custom employs.callbacks) ups downs run
  · rintro outcome w _ rfl crew
    exact crew_note crew

/-- The start of a runner takes its server, if it is one, from those that are down to those that are
up. -/
lemma attempt_start {i : Nat} {runner : Runner κ}
    (all : servers (first ++ .startRunner i runner :: rest) = own) :
    Handles refuses b w₀
      (w₀.Crew refuses (servers first) (servers (.startRunner i runner :: rest)))
      (attempt Call.note ctx (.startRunner i runner)) fun outcome w => outcome = .ok () →
        w₀.Crew refuses (servers (first ++ [.startRunner i runner])) (servers rest) w := by
  rw [servers_append] at all ⊢
  cases runner with
  | custom name starting stopping =>
    have custom : (Call.startRunner i (.custom name starting stopping)).server? = none := rfl
    rw [servers_cons_none custom] at all ⊢
    rw [servers_cons_none custom, servers_nil, List.append_nil]
    refine (attempt_custom employs custom ?_ ?_).weaken (fun _ crew => crew) fun _ _ crew _ => crew
    · intro id member
      exact all ▸ List.mem_append_left _ member
    · intro id member
      exact all ▸ List.mem_append_right _ member
  -- a server that is launched once only is none of those that are up
  | server name id =>
    have server : (Call.startRunner i (.server name id) : Call κ).server? = some id := rfl
    have distinct := employs.distinct
    rw [servers_cons_some server] at all ⊢
    rw [servers_cons_some server, servers_nil]
    rw [← all, List.nodup_middle, List.nodup_cons] at distinct
    apply Ensures.attempt
    · intro w r u run allowed crew
      obtain ⟨returns, after⟩ := crew.start distinct.1 run fun s => allowed.binds rfl
      refine ⟨⟨?_, nofun⟩, ?_⟩
      · rintro _ _ _ s ⟨⟩ here
        exact returns s here
      · rintro outcome rfl rfl
        exact after rfl
    · rintro outcome w _ rfl crew succeeds
      exact crew_note (crew succeeds)

/-- The stop of a runner takes its server, if it is one, away from those that are up. -/
lemma attempt_stop {i : Nat} {runner : Runner κ}
    (all : ∀ id ∈ servers (.stopRunner i runner :: rest), id ∈ own)
    (distinct : (servers (.stopRunner i runner :: rest)).Nodup) :
    Handles refuses b w₀ (w₀.Crew refuses (servers (.stopRunner i runner :: rest)) [])
      (attempt Call.note ctx (.stopRunner i runner))
      fun _ => w₀.Crew refuses (servers rest) [] := by
  cases runner with
  | custom name starting stopping =>
    have custom : (Call.stopRunner i (.custom name starting stopping)).server? = none := rfl
    rw [servers_cons_none custom] at all ⊢
    exact attempt_custom employs custom all nofun
  | server name id =>
    have server : (Call.stopRunner i (.server name id) : Call κ).server? = some id := rfl
    rw [servers_cons_some server] at all distinct ⊢
    rw [List.nodup_cons] at distinct
    apply Ensures.attempt
    · intro w r u run allowed here
      have time := employs.time id (all id List.mem_cons_self)
      obtain ⟨returns, after⟩ := here.stop distinct.1 run time (allowed.live rfl)
      refine ⟨⟨nofun, ?_⟩, fun _ _ => after⟩
      rintro _ _ _ s ⟨⟩ here
      exact returns s here
    · rintro outcome w _ rfl crew
      exact crew_note crew

/-! ## The parts of a run -/

open Lifecycle

variable {parts : Orchestrator κ} {starts stops : List (Callback κ)}

/-- Undoing the start of components launches and stops no server. -/
lemma rollback :
    Handles refuses b w₀ (fun _ => True) (Lifecycle.rollback stops) fun _ _ => True := by
  have calls (ctx : Token) : Handles refuses b w₀ (w₀.Crew refuses [] [])
      (callEach Call.note ctx (stops.mapIdx .rollback).reverse) fun _ => w₀.Crew refuses [] [] := by
    apply Ensures.callEach (J := fun _ _ => w₀.Crew refuses [] [])
    intro first c rest split
    have member : c ∈ (stops.mapIdx Call.rollback).reverse := by simp [split]
    obtain ⟨i, _, rfl⟩ := List.mem_mapIdx.1 (List.mem_reverse.1 member)
    exact attempt_custom employs rfl nofun nofun
  refine ofFlow_true.bind fun ctx => ?_
  exact (calls ctx).weaken (fun _ _ => ⟨nofun, nofun⟩) fun _ _ _ => trivial

/-- The start of components leaves all servers down. -/
lemma startWithRollback :
    Handles refuses b w₀ (w₀.Crew refuses [] own) (Lifecycle.startWithRollback ctx starts stops)
      fun r w => r = .ok () → w₀.Crew refuses [] own w := by
  have components : Handles refuses b w₀ (w₀.Crew refuses [] own)
      (tryEach ctx (starts.mapIdx .start)) fun failed w => failed = none →
        w₀.Crew refuses [] own w := by
    apply Ensures.tryEach (J := fun _ _ => w₀.Crew refuses [] own)
    intro first c rest split
    have member : c ∈ starts.mapIdx Call.start := by simp [split]
    have custom : c.server? = none := by
      obtain ⟨i, _, rfl⟩ := List.mem_mapIdx.1 member
      rfl
    have call : Handles refuses b w₀ (w₀.Crew refuses [] own) (attempt Call.note ctx c)
        fun _ => w₀.Crew refuses [] own :=
      attempt_custom employs custom nofun fun _ member => member
    exact call.weaken (fun _ crew => crew) fun _ _ crew _ => crew
  refine components.bind fun failed => ?_
  cases failed with
  | none =>
    refine (count.weaken (fun _ crew => crew rfl) fun _ _ crew => crew).bind fun _ => ?_
    exact Ensures.done fun _ crew _ => crew
  -- after a rollback the start has failed, and nothing is claimed of its crew
  | some failed =>
    refine Ensures.bind (R := fun _ _ => True) ?_ fun _ => Ensures.done fun _ _ => nofun
    exact (rollback employs).weaken (fun _ _ => trivial) fun _ _ _ => trivial

/-- If all runners start, their servers are up. By induction on the runners, those before are up and
the others down. -/
lemma startRunners {runners : List (Runner κ)}
    (all : runners.filterMap Runner.server? = own) :
    Handles refuses b w₀ (w₀.Crew refuses [] own) (Lifecycle.startRunners ctx runners)
      fun r w => r = .ok () → w₀.Crew refuses own [] w := by
  have all : servers (runners.mapIdx Call.startRunner) = own :=
    (servers_mapIdx fun _ _ => rfl).trans all
  have calls : Handles refuses b w₀ (w₀.Crew refuses [] own)
      (tryEach ctx (runners.mapIdx .startRunner)) fun failed w => failed = none →
        w₀.Crew refuses own [] w := by
    rw [← all] at employs ⊢
    apply Ensures.tryEach (J := fun first rest => w₀.Crew refuses (servers first) (servers rest))
    intro first c rest split
    have member : c ∈ runners.mapIdx Call.startRunner := by simp [split]
    obtain ⟨i, _, rfl⟩ := List.mem_mapIdx.1 member
    exact attempt_start employs (by rw [split])
  refine calls.bind fun failed => ?_
  cases failed with
  | none => exact Ensures.done fun _ crew _ => crew rfl
  | some failed => exact Ensures.done fun _ _ => nofun

/-- If all parts start, all servers are up. -/
lemma startParts (all : parts.servers = own) :
    Handles refuses b w₀ (w₀.Crew refuses [] own) (Lifecycle.startParts ctx parts)
      fun r w => r = .ok () → w₀.Crew refuses own [] w := by
  refine (startWithRollback employs).bind fun started => ?_
  cases started with
  | error es => exact Ensures.done fun _ _ => nofun
  | ok => exact (startRunners employs all).weaken (fun _ crew => crew rfl) fun _ _ crew => crew

/-- A teardown stops the servers that are up, one after the other. -/
lemma teardown (all : parts.servers = own) :
    Handles refuses b w₀ (w₀.Crew refuses own []) (Lifecycle.teardown parts) fun _ _ => True := by
  have same : servers (teardownCalls parts) = own.reverse := by rw [servers_teardownCalls, all]
  have calls (ctx : Token) : Handles refuses b w₀ (w₀.Crew refuses own.reverse [])
      (callEach Call.note ctx (teardownCalls parts)) fun _ => w₀.Crew refuses [] [] := by
    rw [← same]
    apply Ensures.callEach (J := fun _ rest => w₀.Crew refuses (servers rest) [])
    intro first c rest split
    -- the servers that are still up are those of the calls to come
    have distinct : (servers (c :: rest)).Nodup := by
      have distinct := List.nodup_reverse.2 employs.distinct
      rw [← same, split, servers_append] at distinct
      exact distinct.of_append_right
    have mine : ∀ id ∈ servers (c :: rest), id ∈ own := by
      intro id member
      rw [← List.mem_reverse, ← same, split, servers_append]
      exact List.mem_append_right _ member
    have custom (custom : c.server? = none) : Handles refuses b w₀
        (w₀.Crew refuses (servers (c :: rest)) []) (attempt Call.note ctx c)
        fun _ => w₀.Crew refuses (servers rest) [] := by
      rw [servers_cons_none custom] at mine ⊢
      exact attempt_custom employs custom mine nofun
    have member : c ∈ teardownCalls parts := by simp [split]
    have kind : c.IsTeardown := isTeardown_teardownCalls c member
    cases kind with
    | runner => exact attempt_stop employs mine distinct
    | component => exact custom rfl
    | hook => exact custom rfl
  have token : Handles refuses b w₀ (w₀.Crew refuses own []) (.ofFlow Flow.freshToken)
      fun _ => w₀.Crew refuses own [] := ofFlow (.step fun _ => ⟨rfl, rfl⟩)
  refine token.bind fun ctx => ?_
  have reversed (w : World κ υ) (crew : w₀.Crew refuses own [] w) :
      w₀.Crew refuses own.reverse [] w :=
    crew.mono (fun _ => List.mem_reverse.1) nofun
  refine ((calls ctx).weaken reversed fun _ _ crew => crew).bind fun failures => ?_
  exact count.bind fun _ => Ensures.done fun _ _ => trivial

/-- In a run, the calls of servers return what they are to return. -/
theorem runParts (all : parts.servers = own) :
    Handles refuses b w₀ (w₀.Crew refuses [] own) (Lifecycle.runParts ctx parts)
      fun _ _ => True := by
  refine publish.bind fun _ => (startParts employs all).bind fun started => ?_
  cases started with
  | error es => exact ofFlow_true.bind fun _ => Ensures.done fun _ _ => trivial
  | ok =>
    refine (count.weaken (fun _ crew => crew rfl) fun _ _ crew => crew).bind fun _ => ?_
    refine publish.bind fun _ => ?_
    have waits : Handles refuses b w₀ (w₀.Crew refuses own []) (.ofFlow (Flow.cancelled ctx))
        fun _ => w₀.Crew refuses own [] := ofFlow (.awaitLook fun _ => ⟨rfl, rfl⟩)
    refine waits.bind fun _ => publish.bind fun _ => (teardown employs all).bind fun result => ?_
    exact ofFlow_true.bind fun _ => Ensures.done fun _ _ => trivial

end

end Handles

end Plan

end Supervision
