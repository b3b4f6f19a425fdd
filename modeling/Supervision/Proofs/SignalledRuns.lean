import Supervision.Proofs.BindFailures
import Supervision.Proofs.Endings
import Supervision.Proofs.Limits

/-!
# Runs that a signal ends

A run beside the watch for signals comes to its end by the clock, if its only parts with something
to do are servers. It is cut short if a gRPC server cannot bind its address; if not, the first
signal that asks for an end brings everything down (`Lifecycle.Concludes`). By
`Lifecycle.run_concludes` the clock comes to an end that an execution of the run has, and by
`Lifecycle.Concludes.ok_iff` it succeeds if every server ends well.
-/

namespace Supervision
open Net Server

namespace Lifecycle
open Plan World

variable {κ υ α : Type} {b : Behaviour κ υ} {ctx : Token} {ms horizon last : Nat} {w : World κ υ}

/-- Servers are the only parts of the orchestrator that have something to do. They have some time to
stop, and nothing has come about yet. -/
structure IsStaged (b : Behaviour κ υ) (ctx : Token) (ms : Nat) (w : World κ υ) : Prop
    extends w.IsReady where
  given : ctx.id < w.tokens.issued
  live : w.isCancelled ctx = false
  unexpected : ¬w.Expects ctx
  quiet : w.signals = []
  calm : w.IsCalm
  idle : ∀ c : Call κ, c.server? = none → ∀ t, c.flow b t = .done (.ok ())
  runners : ∀ r ∈ w.orchestrator.runners, r.server? ≠ none
  timeouts : ∀ id ∈ w.orchestrator.servers, ∀ s, w.servers[id]? = some s → s.timeoutMs = ms
  time : 0 < ms

/-- How a run ends that a signal is to end. -/
inductive Concludes (ms : Nat) (w : World κ υ) : Course κ υ → RunOutcome → World κ υ → Prop where
  /-- A gRPC server could not bind its address. Nothing is stopped, and no time has passed. -/
  | cutShort {course : Course κ υ} {m : Made κ υ} {i : Nat} {name : String} {id : Nat} {s : Server}
    {e : ServerError} {u : World κ υ} :
    w.orchestrator.runners[i]? = some (.server name id) →
    w.servers[id]? = some s →
    s.kind = .grpc →
    m ∈ course.made →
    m.call = .startRunner i (.server name id) →
    bindAddress s.address m.before.host = .error e →
    (∀ m ∈ course.made, ¬m.call.IsTeardown) →
    w.SameMoment u →
    Concludes ms w course (.error (.single (.runnerStart name (.server (.single e))))) u
  /-- Everything is stopped after a signal, and it succeeds if every server ends well. By the time
  of the signal, gRPC servers have bound their addresses. -/
  | broughtDown {up down : Course κ υ} {wc u : World κ υ} {outcome : RunOutcome} :
    (∀ m ∈ up.made, ¬m.call.IsTeardown) →
    wc.signals.any Signal.isShutdown = true →
    (∀ (i : Nat) (name : String) (id : Nat) (s : Server),
      w.orchestrator.runners[i]? = some (.server name id) → w.servers[id]? = some s →
      s.kind = .grpc → wc.addressOf id ≠ none) →
    down.calls = teardownCalls w.orchestrator →
    (outcome = .ok () ↔ AllEndWell ms down) →
    Concludes ms w (up ++ .own wc :: down) outcome u

/-- A run succeeds if every server was asked to stop, and ends well. -/
theorem Concludes.ok_iff {course : Course κ υ} {outcome : RunOutcome} {u : World κ υ}
    (concludes : Concludes ms w course outcome u) :
    outcome = .ok () ↔ ∀ (i : Nat) (name : String) (id : Nat),
      w.orchestrator.runners[i]? = some (.server name id) →
      ∃ m ∈ course.made, m.call = .stopRunner i (.server name id) ∧ m.before.EndsWell ms id := by
  cases concludes with
  | @cutShort course _ i name id _ _ _ runner _ _ _ _ _ quiet _ =>
    refine ⟨nofun, fun well => ?_⟩
    obtain ⟨m, member, call, -⟩ := well i name id runner
    have teardown : m.call.IsTeardown := call ▸ .runner
    exact absurd teardown (quiet m member)
  | @broughtDown up down wc u outcome quiet _ _ calls ok_iff =>
    rw [ok_iff]
    constructor
    · intro well i name id runner
      have call : .stopRunner i (.server name id) ∈ down.calls := by
        rw [calls, mem_teardownCalls]
        exact .inl ⟨i, _, runner, rfl⟩
      obtain ⟨m, member, call⟩ := List.mem_map.1 call
      refine ⟨m, ?_, call, well m member i name id call⟩
      rw [Course.made_append, Course.made_own]
      exact List.mem_append_right _ member
    · intro well m member i name id call
      have called : m.call ∈ teardownCalls w.orchestrator :=
        calls ▸ List.mem_map_of_mem member
      obtain ⟨i', runner, here, same⟩ | ⟨_, _, -, same⟩ | ⟨_, _, -, same⟩ :=
        mem_teardownCalls.1 (call ▸ called)
      · cases same
        obtain ⟨m', member', call', ends⟩ := well i name id here
        rw [Course.made_append, Course.made_own, List.mem_append] at member'
        obtain early | member' := member'
        · have teardown : m'.call.IsTeardown := call' ▸ .runner
          exact absurd teardown (quiet m' early)
        · -- every call of a teardown is made once
          have distinct : (down.made.map Made.call).Nodup := by
            rw [← Course.calls, calls]
            exact nodup_teardownCalls
          rwa [List.inj_on_of_nodup_map distinct member member' (call.trans call'.symm)]
      · cases same
      · cases same

/-- No moment of a course finds the server bound. -/
structure NeverBinds (id : Nat) (course : Course κ υ) : Prop where
  own : ∀ x, .own x ∈ course → x.addressOf id = none
  called : ∀ m ∈ course.made, m.before.addressOf id = none

/-- Some gRPC server cannot bind its address when it is started. -/
def RefusesGrpc (w : World κ υ) (course : Course κ υ) : Prop :=
  ∃ m ∈ course.made, ∃ i name id s e, w.orchestrator.runners[i]? = some (.server name id) ∧
    w.servers[id]? = some s ∧ s.kind = .grpc ∧ m.call = .startRunner i (.server name id) ∧
    bindAddress s.address m.before.host = .error e

/-- A run is over before any time has passed, and has stopped nothing. -/
def EndsAtOnce (w : World κ υ) (course : Course κ υ) (u : World κ υ) : Prop :=
  u.now = w.now ∧ ∀ m ∈ course.made, ¬m.call.IsTeardown

/-- After a signal that asks for an end, a run makes all calls of a teardown. -/
def EndsAfterSignal (w : World κ υ) (course : Course κ υ) : Prop :=
  ∃ (up down : Course κ υ) (x : World κ υ), course = up ++ .own x :: down ∧
    x.signals.any Signal.isShutdown = true ∧ down.calls = teardownCalls w.orchestrator

/-- A run with a server that never binds fails: at once for gRPC, and for HTTP after a signal and a
teardown, unless a gRPC server cannot bind. -/
lemma Concludes.of_neverBinds {course : Course κ υ} {outcome : RunOutcome} {u : World κ υ}
    (concludes : Concludes ms w course outcome u) {i : Nat} {name : String} {id : Nat} {s : Server}
    (runner : w.orchestrator.runners[i]? = some (.server name id)) (here : w.servers[id]? = some s)
    (never : NeverBinds id course) :
    outcome ≠ .ok () ∧ (s.kind = .grpc → EndsAtOnce w course u) ∧
      (RefusesGrpc w course ∨ EndsAfterSignal w course) := by
  refine ⟨fun ok => ?_, fun grpc => ?_, ?_⟩
  · obtain ⟨m, member, -, ends⟩ := concludes.ok_iff.1 ok i name id runner
    exact ends.bound (never.called m member)
  · cases concludes with
    | cutShort _ _ _ _ _ _ quiet same => exact ⟨same.now, quiet⟩
    | @broughtDown up down wc _ _ _ _ bound _ _ =>
      exact absurd (never.own wc (by simp)) (bound i name id s runner here grpc)
  · cases concludes with
    | cutShort runner here kind member call fails _ _ =>
      exact .inl ⟨_, member, _, _, _, _, _, runner, here, kind, call, fails⟩
    | broughtDown _ signal _ calls _ => exact .inr ⟨_, _, _, rfl, signal, calls⟩

/-! ## The run by the clock -/

/-- The world once somebody has begun to watch for signals. -/
def watched (w : World κ υ) : World κ υ :=
  { w with signalWatchers := w.signalWatchers + 1 }

/-- The world once a run has claimed its orchestrator. -/
def claimed (w : World κ υ) : World κ υ :=
  { w with orchestrator := w.orchestrator.taken }

/-- The end of a run: its token is cancelled, and it is said whether it succeeded. -/
def report (ctx : Token) (outcome : RunOutcome) : Flow κ υ Bool :=
  (Activity.change (World.cancel ctx)).bind fun _ => .done outcome.isOk

/-- A run up to its report. -/
def orchestrated (b : Behaviour κ υ) (ctx : Token) : Flow κ υ Bool :=
  ((run ctx).perform b).bind (report ctx)

/-- A run that has come up goes on beside the watch. -/
lemma run_orchestrated {P : World κ υ → Prop} {course : Course κ υ} {outcome : RunOutcome}
    {v : World κ υ} (unclaimed : w.orchestrator.claimed = false)
    (proceeds : (comeUp ctx w.orchestrator.taken).Proceeds (Activity.AtOnce P) b (claimed w) course
      outcome v)
    (calm : ∀ v, P v → ¬Signalled 0 v ∧ v.isCancelled ctx = false) :
    World.clockwork.run horizon (Activity.pair (watching ctx 0) (orchestrated b ctx)) w =
      World.clockwork.run horizon (Activity.pair (watching ctx 0)
        (((goOn ctx w.orchestrator.taken outcome).perform b).bind (report ctx))) v := by
  have claims :
      World.clockwork.run horizon (Activity.pair (watching ctx 0) (orchestrated b ctx)) w =
      World.clockwork.run horizon (Activity.pair (watching ctx 0)
        (((runParts ctx w.orchestrator.taken).perform b).bind (report ctx))) (claimed w) := by
    rw [orchestrated, run_eq, Plan.perform, Activity.bind, run_watching_act]
    simp only [claim_unclaimed unclaimed]
    rfl
  rw [claims, runParts_eq, perform_bind, Activity.bind_assoc]
  exact run_watching_atOnce proceeds.atOnce calm

/-- So is it an execution. -/
lemma runs_of_comeUp {P : World κ υ → Prop} {course rest : Course κ υ} {outcome : RunOutcome}
    {v u : World κ υ} {r : Option RunOutcome} (unclaimed : w.orchestrator.claimed = false)
    (proceeds : (comeUp ctx w.orchestrator.taken).Proceeds (Activity.AtOnce P) b (claimed w) course
      outcome v)
    (goesOn : (goOn ctx w.orchestrator.taken outcome).Runs (signalled ctx) b v rest r u) :
    (run ctx).Runs (signalled ctx) b w (.own w :: (course ++ rest)) r u := by
  rw [run_eq]
  refine .act rfl ?_
  simp only [claim_unclaimed unclaimed]
  rw [runParts_eq]
  refine Runs.bind (proceeds.runs (fun _ => rfl) fun atOnce => ?_) goesOn
  exact atOnce.runs (fun _ => rfl) fun w => ⟨w, .refl, .inl rfl⟩

namespace IsStaged

variable (staged : IsStaged b ctx ms w)
include staged

/-- The starts of runners are starts of the servers that are there. -/
lemma areStarts {w' : World κ υ} (servers : w'.servers = w.servers) :
    AreStarts (runnerCalls w.orchestrator) w' := by
  constructor
  · intro c member
    obtain ⟨i, runner, here, rfl⟩ := mem_runnerCalls.1 member
    cases runner with
    | custom => exact absurd rfl (staged.runners _ (List.mem_of_getElem? here))
    | server name id =>
      obtain ⟨s, there, idle, -⟩ := staged.servers id (Orchestrator.mem_servers here)
      exact ⟨i, name, id, s, rfl, by rw [servers, there], idle⟩
  · have same : Supervision.servers (runnerCalls w.orchestrator) = w.orchestrator.servers :=
      servers_mapIdx fun _ _ => rfl
    rw [same]
    exact staged.distinct

/-- What was launched has tried to bind when it is asked to stop. -/
lemma areStops {x : World κ υ} {t : Token}
    (tried : ∀ (i : Nat) (name : String) (id : Nat) (s : Server),
      w.orchestrator.runners[i]? = some (.server name id) → w.servers[id]? = some s →
      ∃ k, x.HasTried id s k) :
    AreStops ms b t (teardownCalls w.orchestrator) x := by
  constructor
  · intro c member
    obtain ⟨i, runner, here, rfl⟩ | ⟨i, callback, -, rfl⟩ | ⟨i, callback, -, rfl⟩ :=
      mem_teardownCalls.1 member
    · right
      cases runner with
      | custom => exact absurd rfl (staged.runners _ (List.mem_of_getElem? here))
      | server name id =>
        have inside := Orchestrator.mem_servers here
        obtain ⟨s, there, -⟩ := staged.servers id inside
        obtain ⟨k, tried⟩ := tried i name id s here there
        exact ⟨i, name, id, s, k, rfl, tried, staged.timeouts id inside s there⟩
    · exact .inl ⟨rfl, staged.idle _ rfl t⟩
    · exact .inl ⟨rfl, staged.idle _ rfl t⟩
  · rw [servers_teardownCalls, List.nodup_reverse]
    exact staged.distinct

end IsStaged

/-- The first signal that asks for an end brings a run down. -/
lemma goOn_runs {parts : Orchestrator κ} {down : Course κ υ} {outcome : RunOutcome}
    {v x u : World κ υ} (live : v.isCancelled ctx = false)
    (passes : World.clockwork.Passes v x) (signal : x.signals.any Signal.isShutdown = true)
    (falls : (comeDown parts).Proceeds (World.clockwork.Ends horizon) b (x.cancel ctx) down
      outcome u) :
    (goOn ctx parts (.ok ())).Runs (signalled ctx) b v (.own v :: .own (x.cancel ctx) :: down)
      (some outcome) u := by
  have cancelled : (x.cancel ctx).isCancelled ctx = true := isCancelled_cancel.2 (.inr rfl)
  have runs : (comeDown parts).Runs (signalled ctx) b (x.cancel ctx) down (some outcome) u := by
    refine falls.runs (fun _ => rfl) fun ends => (Clockwork.run_runs ends).mono id ?_
    exact fun passes => ⟨_, passes, .inl rfl⟩
  refine .act rfl ?_
  show Plan.Runs _ _ (Plan.bind (.ofFlow (if (v.isCancelled ctx) = true then _ else _)) _) _ _ _ _
  rw [if_neg (by simp [live])]
  exact .resumed ⟨x, passes, .inr ⟨signal, rfl⟩⟩
    (by simp [Trigger.ends, Trigger.whenever, cancelled]) runs

/-- By the clock, it does so at the instant of the signal. -/
lemma run_goOn {parts : Orchestrator κ} {down : Course κ υ} {outcome : RunOutcome} {n : Nat}
    {v u : World κ υ} (live : v.isCancelled ctx = false) (unexpected : ¬v.Expects ctx)
    (quiet : ¬Signalled 0 v) (first : ∀ j < n, ¬Signalled 0 (v.leftAlone j))
    (arrives : Signalled 0 (v.leftAlone n)) (enough : v.now + n ≤ horizon)
    (falls : (comeDown parts).Proceeds (World.clockwork.Ends horizon) b
      ((v.leftAlone n).cancel ctx) down outcome u) :
    World.clockwork.run horizon (Activity.pair (watching ctx 0)
        (((goOn ctx parts (.ok ())).perform b).bind (report ctx))) v =
      (some ((), outcome.isOk), u.cancel ctx) := by
  have waits : ((goOn ctx parts (.ok ())).perform b).bind (report ctx) =
      (Flow.cancelled ctx).bind fun _ => ((comeDown parts).perform b).bind (report ctx) := by
    have waits : (goOn ctx parts (.ok ())).perform b =
        (Flow.cancelled ctx).bind fun _ => (comeDown parts).perform b := by
      refine perform_bind.trans ?_
      rw [perform_ofFlow]
    rw [waits, Activity.bind_assoc]
  have reports : World.clockwork.run horizon (((comeDown parts).perform b).bind (report ctx))
      ((v.leftAlone n).cancel ctx) = (some outcome.isOk, u.cancel ctx) :=
    Clockwork.run_bind falls.ends
  rw [waits, run_watching live unexpected quiet first arrives enough]
  exact Clockwork.run_bind reports

/-- What the clock makes of a run beside the watch for signals: it concludes, and reports how at
that very instant. -/
structure ConcludesBy (horizon : Nat) (b : Behaviour κ υ) (ctx : Token) (ms : Nat) (w : World κ υ)
    (course : Course κ υ) (outcome : RunOutcome) (u : World κ υ) : Prop where
  exec : (run ctx).Runs (signalled ctx) b (watched w) course (some outcome) u
  concludes : Concludes ms (watched w) course outcome u
  reports : ∃ v, v.now = u.now ∧ World.clockwork.run horizon
    (Activity.pair (cancelOnSignal ctx) (orchestrated b ctx)) w = (some ((), outcome.isOk), v)

section
variable {up : Course κ υ} {outcome : RunOutcome} {v : World κ υ} (staged : IsStaged b ctx ms w)
  (proceeds : (comeUp ctx w.orchestrator.taken).Proceeds
    (Activity.AtOnce (claimed (watched w)).SameMoment) b (claimed (watched w)) up outcome v)
  (same : (claimed (watched w)).SameMoment v)
  (calls : ∀ m ∈ up.made, m.call ∈ startCalls w.orchestrator ++ runnerCalls w.orchestrator)

include staged in
/-- Nothing has come about yet. -/
lemma IsStaged.begun (same : (claimed (watched w)).SameMoment v) :
    ¬Signalled 0 v ∧ v.isCancelled ctx = false ∧ ¬v.Expects ctx := by
  obtain ⟨live, unexpected⟩ := live_meddles (.of_eq same.tokens same.incidents)
    staged.live staged.unexpected
  refine ⟨?_, live, unexpected⟩
  have quiet : v.signals = [] := same.signals.trans staged.quiet
  simp [Signalled, quiet]

include staged proceeds in
/-- The watch begins, and the run comes up. -/
lemma IsStaged.begins :
    World.clockwork.run horizon (Activity.pair (cancelOnSignal ctx) (orchestrated b ctx)) w =
      World.clockwork.run horizon (Activity.pair (watching ctx 0)
        (((goOn ctx w.orchestrator.taken outcome).perform b).bind (report ctx))) v := by
  have none : w.signals.length = 0 := by rw [staged.quiet, List.length_nil]
  rw [run_cancelOnSignal staged.live, none]
  exact run_orchestrated (w := watched w) staged.unclaimed proceeds
    fun v same => ⟨(staged.begun same).1, (staged.begun same).2.1⟩

include calls in
/-- On the way up, nothing of a teardown is called. -/
lemma not_teardown_of_calls : ∀ m ∈ up.made, ¬m.call.IsTeardown := by
  intro m member
  rcases List.mem_append.1 (calls m member) with start | start
  · obtain ⟨i, callback, -, same⟩ := mem_startCalls.1 start
    exact same ▸ Call.IsStart.component.not_teardown
  · obtain ⟨i, runner, -, same⟩ := mem_runnerCalls.1 start
    exact same ▸ Call.IsStart.runner.not_teardown

end

section
variable {up : Course κ υ} {v : World κ υ} (staged : IsStaged b ctx ms w)
  (same : (claimed (watched w)).SameMoment v)
  (calls : ∀ m ∈ up.made, m.call ∈ startCalls w.orchestrator ++ runnerCalls w.orchestrator)
include staged same calls

/-- A run that does not come up is over. -/
lemma concludesBy_of_refused {m : Made κ υ} {i : Nat} {name : String} {id : Nat} {s : Server}
    {e : ServerError}
    (proceeds : (comeUp ctx w.orchestrator.taken).Proceeds
      (Activity.AtOnce (claimed (watched w)).SameMoment) b (claimed (watched w)) up
      (.error (.single (.runnerStart name (.server (.single e))))) v)
    (member : m ∈ up.made) (call : m.call = .startRunner i (.server name id))
    (here : w.servers[id]? = some s) (kind : s.kind = .grpc)
    (fails : bindAddress s.address m.before.host = .error e) :
    ConcludesBy horizon b ctx ms w (.own (watched w) :: up)
      (.error (.single (.runnerStart name (.server (.single e))))) v := by
  have place : w.orchestrator.runners[i]? = some (.server name id) := by
    rcases List.mem_append.1 (call ▸ calls m member) with start | start
    · obtain ⟨_, _, -, same⟩ := mem_startCalls.1 start
      cases same
    · obtain ⟨_, _, place, same⟩ := mem_runnerCalls.1 start
      cases same
      exact place
  constructor
  · rw [← List.append_nil up]
    exact runs_of_comeUp (w := watched w) staged.unclaimed proceeds .done
  · exact .cutShort place here kind member call fails (not_teardown_of_calls calls)
      ⟨same.now, same.tokens, same.incidents, same.signals⟩
  · refine ⟨(v.cancel ctx).cancel ctx, rfl, (staged.begins proceeds).trans ?_⟩
    exact run_watching_done (isCancelled_cancel.2 (.inr rfl))

/-- A run that comes up is brought down by the first signal that asks for an end. -/
lemma concludesBy_of_launched {n : Nat}
    (proceeds : (comeUp ctx w.orchestrator.taken).Proceeds
      (Activity.AtOnce (claimed (watched w)).SameMoment) b (claimed (watched w)) up (.ok ()) v)
    (launched : ∀ (i : Nat) (name : String) (id : Nat) (s : Server),
      w.orchestrator.runners[i]? = some (.server name id) → w.servers[id]? = some s →
      v.Launched id s)
    (arrives : Signalled 0 (v.leftAlone n)) (first : ∀ j < n, ¬Signalled 0 (v.leftAlone j))
    (enough : v.now + n + w.orchestrator.servers.length * ms ≤ horizon) :
    ∃ course outcome u, ConcludesBy horizon b ctx ms w course outcome u := by
  obtain ⟨fresh, live, unexpected⟩ := staged.begun same
  let x := (v.leftAlone n).cancel ctx
  have calm : v.IsCalm := by
    rw [IsCalm, same.incidents, same.now]
    exact staged.calm
  -- the first turns come before any time passes, so before the signal as well
  have tried (i : Nat) (name : String) (id : Nat) (s : Server)
      (runner : w.orchestrator.runners[i]? = some (.server name id))
      (here : w.servers[id]? = some s) : ∃ k, x.HasTried id s k := by
    obtain ⟨k, tried⟩ := (launched i name id s runner here).settle calm
    have still : (v.leftAlone n).HasTried id s k :=
      tried.passes (passes_leftAlone_le (Nat.zero_le n))
    exact ⟨k, still.of_same rfl rfl⟩
  have hides : x.Hides fun _ => True := by
    have begun : w.Meddles (fun _ => True) none v := .of_eq same.tokens same.incidents
    have meddles : w.Meddles (fun _ => True) none (v.leftAlone n) :=
      begun.trans (meddles_passes passes_leftAlone)
    refine Hides.meddles (staged.sound.hides.meddles meddles nofun) meddles_cancel ?_
    intro t given
    cases given
    exact Nat.lt_of_lt_of_le staged.given meddles.issued
  have stops : AreStops ms b ⟨x.tokens.issued⟩ (teardownCalls w.orchestrator.taken) x :=
    staged.areStops tried
  have now : x.now = v.now + n := now_leftAlone
  have enough : x.now + w.orchestrator.servers.length * ms ≤ horizon := now ▸ enough
  obtain ⟨down, outcome, u, falls, calls', well⟩ := comeDown_ends stops hides staged.time enough
  -- up to the signal the run has waited, and from there it comes down
  have exec := runs_of_comeUp (w := watched w) staged.unclaimed proceeds
    (goOn_runs live passes_leftAlone arrives falls)
  have split : .own (watched w) :: (up ++ .own v :: .own x :: down) =
      (.own (watched w) :: up ++ [.own v]) ++ .own x :: down := by simp
  rw [split] at exec
  have run := run_goOn live unexpected fresh first arrives
    (now ▸ Nat.le_trans (Nat.le_add_right ..) enough) falls
  refine ⟨_, outcome, u, exec, .broughtDown ?_ arrives ?_ calls' well, u.cancel ctx, rfl,
    (staged.begins proceeds).trans run⟩
  · rw [Course.made_append, Course.made_own, Course.made_own, Course.made_nil, List.append_nil]
    exact not_teardown_of_calls calls
  · intro i name id s runner here kind
    obtain ⟨k, tried⟩ := tried i name id s runner here
    refine tried.tried.resolve_right fun http => ?_
    cases kind.symm.trans http.1

end

/-- By the clock, a run beside the watch for signals comes to the end of an execution of it, if
there is a signal that asks for an end. -/
theorem run_concludes (staged : IsStaged b ctx ms w) {instant : Nat} {s : Signal}
    (member : (instant, .signal s) ∈ w.incidents) (shutdown : s.isShutdown = true)
    (early : w.now ≤ last) (inTime : instant ≤ last)
    (enough : last + w.orchestrator.servers.length * ms ≤ horizon) :
    ∃ course outcome u, ConcludesBy horizon b ctx ms w course outcome u := by
  have idle : ∀ c ∈ startCalls w.orchestrator.taken, c.flow b ctx = .done (.ok ()) :=
    fun c member => staged.idle c (custom_of_mem_startCalls (o := w.orchestrator) member) ctx
  have starts : AreStarts (runnerCalls w.orchestrator.taken) (claimed (watched w)) :=
    staged.areStarts rfl
  obtain ⟨up, outcome, v, proceeds, same, calls, comes⟩ := comeUp_proceeds idle starts
  cases comes with
  | refused called call here kind fails =>
    exact ⟨_, _, _, concludesBy_of_refused staged same calls proceeds called call here kind fails⟩
  | launched all =>
    have member : (instant, .signal s) ∈ v.incidents := same.incidents ▸ member
    have early : v.now ≤ last := same.now ▸ early
    obtain ⟨n, inTime, arrives, first⟩ := exists_signalled member shutdown early inTime
    exact concludesBy_of_launched staged same calls proceeds all arrives first
      (Nat.le_trans (Nat.add_le_add_right inTime _) enough)

end Lifecycle

end Supervision
