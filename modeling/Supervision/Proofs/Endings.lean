import Supervision.Proofs.Attempts
import Supervision.Proofs.Visits

/-!
# Stops by the clock

The stop of a server that was launched ends in time, and it succeeds if the server ends well: it has
bound its address, and its task ends in time, without a panic and without an error that it has
reported (`World.EndsWell`, `Server.stop_ends`). Stops in order end one after the other, and report
no failure if every server ends well (`Plan.callEach_ends`).
-/

namespace Supervision
open Net Server

variable {κ υ α : Type} {id id' k k' n m ms horizon : Nat} {s s' : Server} {t : ServeTask}
  {ctx : Token} {w w' v u : World κ υ}

/-! ## Tasks that have ended -/

namespace World

/-- Nothing changes how a task has ended, or what it has reported. -/
lemma Besides.ended (besides : Besides id w w') (here : w.tasks[k]? = some t) (own : t.server = id)
    (ended : t.hasEnded = true) : ∃ t', w'.tasks[k]? = some t' ∧ t.Alike t' := by
  have alike : t.Alike t := ⟨rfl, rfl, rfl, rfl⟩
  cases besides with
  | turn i =>
    by_cases same : i = k
    · subst same
      refine ⟨t.settleExchanges w.now, ?_, ⟨rfl, rfl, rfl, rfl⟩⟩
      have ended : (t.settleExchanges w.now).hasEnded = true := ended
      rw [taskTurn_some here]
      dsimp only
      rw [if_pos ended, tasks_changeTask, here, Option.map_some]
    · exact ⟨t, (tasks_taskTurn_ne same).trans here, alike⟩
  | incident x =>
    have silent {f : World κ υ → World κ υ} : w.ifLive k f = w := by
      have none : (w.tasks[k]?).any (fun t => !t.hasEnded) = false := by
        rw [here, Option.any_some, ended]
        rfl
      rw [ifLive, if_neg (by simp [none])]
    by_cases doer : x.doer? = some k
    · refine ⟨t, ?_, alike⟩
      cases x with
      | report i e =>
        cases doer
        exact (congrArg (·.tasks[k]?) silent).trans here
      | ending i panicked =>
        cases doer
        exact (congrArg (·.tasks[k]?) silent).trans here
      | _ => cases doer
    · exact alike_meet doer here
  | elsewhere elsewhere => exact ⟨t, (elsewhere.tasks k t own).2 here, alike⟩

/-- An ended task stays ended in the same way as time passes. -/
lemma ended_passes (passes : World.clockwork.Passes w u) (here : w.tasks[k]? = some t)
    (ended : t.hasEnded = true) : ∃ t', u.tasks[k]? = some t' ∧ t.Alike t' := by
  have besides : Relation.ReflTransGen (Besides t.server) w u := besides_of_passes passes
  clear passes
  induction besides with
  | refl => exact ⟨t, here, rfl, rfl, rfl, rfl⟩
  | tail _ step ih =>
    obtain ⟨t', here', alike⟩ := ih
    have ended' : t'.hasEnded = true := by rwa [ServeTask.hasEnded, alike.progress]
    obtain ⟨t'', here'', alike'⟩ := step.ended here' alike.server ended'
    exact ⟨t'', here'', alike'.server.trans alike.server, alike'.progress.trans alike.progress,
      alike'.aborted.trans alike.aborted, alike'.slot.trans alike.slot⟩

/-- What a task has reported remains so. -/
lemma reported_passes {e : ServerError} (passes : World.clockwork.Passes w u)
    (here : w.tasks[k]? = some t) (sound : t.slot.IsSound) (reported : w.reported k = some e) :
    u.reported k = some e := by
  have besides : Relation.ReflTransGen (Besides t.server) w u := besides_of_passes passes
  clear passes
  have keeps : ∃ t', u.tasks[k]? = some t' ∧ t'.server = t.server ∧ t'.slot.IsSound ∧
      u.reported k = some e := by
    induction besides with
    | refl => exact ⟨t, here, rfl, sound, reported⟩
    | tail _ step ih =>
      obtain ⟨t', here', own', sound', reported'⟩ := ih
      obtain ⟨news, minds⟩ := step.minds
      obtain ⟨t'', here'', own''⟩ := minds.forth k ⟨t', here', own'⟩
      obtain ⟨t₀, here₀, -, follows⟩ := minds.back k t'' here'' own''
      cases here'.symm.trans here₀
      exact ⟨t'', here'', own'', follows.slot.sound sound',
        minds.reported here' own' sound' reported'⟩
  exact keeps.choose_spec.2.2.2

/-- The task has ended without a panic, and has reported nothing. -/
def IsDone (k : Nat) (w : World κ υ) : Prop :=
  ∃ t, w.tasks[k]? = some t ∧ t.progress = .ended false ∧ t.slot.content = none

/-- Whether an ended task is done does not change as time passes. -/
lemma isDone_iff (passes : World.clockwork.Passes w u) (here : w.tasks[k]? = some t)
    (ended : t.hasEnded = true) : u.IsDone k ↔ w.IsDone k := by
  obtain ⟨t', here', alike⟩ := ended_passes passes here ended
  constructor
  · rintro ⟨t₁, here₁, stage, content⟩
    cases here'.symm.trans here₁
    exact ⟨t, here, alike.progress.symm.trans stage, by rwa [← alike.slot]⟩
  · rintro ⟨t₁, here₁, stage, content⟩
    cases here.symm.trans here₁
    exact ⟨t', here', alike.progress.trans stage, by rwa [alike.slot]⟩

/-- A task that is done stays done. -/
lemma IsDone.passes (done : w.IsDone k) (passes : World.clockwork.Passes w u) : u.IsDone k := by
  have ⟨t, here, stage, _⟩ := done
  refine (isDone_iff passes here ?_).2 done
  rw [ServeTask.hasEnded, stage]

/-- A server that is asked to stop in this world ends well within `ms` milliseconds. -/
structure EndsWell (ms id : Nat) (w : World κ υ) : Prop where
  /-- It has bound its address. -/
  bound : w.addressOf id ≠ none
  /-- Its task ends in time, without a panic and without an error that it has reported. -/
  ends : ∃ k n, w.held id = some k ∧ n ≤ ms ∧ ((handedOver id k w).leftAlone n).IsDone k

/-- Who leaves a world alone for longer lets more time pass. -/
lemma passes_leftAlone_le (le : n ≤ m) :
    World.clockwork.Passes (w.leftAlone n) (w.leftAlone m) := by
  induction m, le using Nat.le_induction with
  | base => exact .refl
  | succ m _ ih =>
    refine ih.trans (.until ?_)
    show (w.leftAlone m).now < w.now + (m + 1)
    rw [now_leftAlone]
    omega

end World

namespace Server
open World

/-! ## Stops -/

/-- Who looks at a task later sees a later world. -/
lemma passes_look (le : n ≤ m) : World.clockwork.Passes (look k w n) (look k w m) := by
  cases n with
  | zero =>
    cases m with
    | zero => exact .refl
    | succ m => exact passes_leftAlone
  | succ n =>
    cases m with
    | zero => cases le
    | succ m => exact passes_leftAlone_le (Nat.le_of_succ_le_succ le)

/-- The stop of a task that nobody cancels succeeds if the task is done in time. -/
lemma stopTask_ends (here : w.tasks[k]? = some t) (live : w.isCancelled ctx = false)
    (unexpected : ¬w.Expects ctx) (time : 0 < ms) (enough : w.now + ms ≤ horizon) :
    ∃ result u, World.clockwork.run horizon (stopTask k ms ctx) w = (some result, u) ∧
      u.now ≤ w.now + ms ∧
      (result = .ok () ↔ ∃ n ≤ ms, ((w.changeTask k request).leftAlone n).IsDone k) := by
  obtain ⟨n, winner, reached, decided, first⟩ := exists_first k ms ctx w
  have asked : (look k w n).orders k = some { t.orders with graceful := true } := by
    rw [orders_look, World.orders, here, Option.map_some, Option.map_some]
  obtain ⟨t', here', orders'⟩ := Option.map_eq_some_iff.1 asked
  obtain ⟨result, orders, u, run, now, -, ends⟩ := run_finish horizon ms here' orders' decided
  refine ⟨result, u, ?_, ?_, ?_⟩
  · rw [run_stopTask_first enough reached first decided, run]
  · rw [now]
    exact now_look_le reached
  · have live : (look k w n).isCancelled ctx = false := by
      have passes : World.clockwork.Passes (w.changeTask k request) (look k w n) :=
        passes_look (Nat.zero_le n)
      exact (live_passes passes live unexpected).1
    rw [ends.ok_iff]
    constructor
    · intro done
      have done : (look k w n).IsDone k := done
      cases n with
      | zero => exact ⟨0, Nat.zero_le ms, done.passes (passes_look (Nat.zero_le 1))⟩
      | succ n => exact ⟨n, Nat.le_of_succ_le_succ reached, done⟩
    · rintro ⟨m, inTime, done⟩
      show (look k w n).IsDone k
      have done : (look k w (m + 1)).IsDone k := done
      obtain ⟨t₁, here₁, stage, -⟩ := id done
      have ended : t₁.hasEnded = true := by rw [ServeTask.hasEnded, stage]
      have le : n ≤ m + 1 := by
        refine Nat.le_of_not_lt fun later => ?_
        rw [(first (m + 1) later).serves t₁ here₁] at ended
        cases ended
      cases ends with
      | ended here₂ stage₂ =>
        refine (isDone_iff (passes_look le) here₂ ?_).1 done
        rw [ServeTask.hasEnded, stage₂]
      | late _ _ late =>
        -- the time is up only with the last look
        have last : n = m + 1 := by
          cases n with
          | zero =>
            have early : (look k w 0).now = w.now := rfl
            omega
          | succ n =>
            rw [now_look_succ] at late
            omega
        rw [last]
        exact done
      | cancelled _ _ _ cancelled =>
        rw [live] at cancelled
        cases cancelled

/-- A stop concludes at once. -/
lemma run_conclude {result : Except (Errors ServerError) Unit} :
    World.clockwork.run horizon (conclude id s result) w =
      (some result, concluded id s result w) := by
  unfold conclude concluded
  dsimp only
  split
  · rfl
  · rfl

/-- A stop concludes without any time passing. -/
lemma now_concluded {result : Except (Errors ServerError) Unit} :
    (concluded id s result w).now = w.now := by
  unfold concluded
  dsimp only
  split
  · rfl
  · rfl

/-- The steps of a server leave others as they are. -/
lemma hasTried_does (has : w.HasTried id s k) (does : Does id' k' w w') (other : id' ≠ id)
    (foreign : k' ≠ k) : w'.HasTried id s k := by
  cases does with
  | nothing => exact has
  | binds => exact has.of_same rfl rfl
  | spawns =>
    exact has.of_same (servers_changeServer_ne other) (List.getElem?_append_left has.inside)
  | remembers => exact has.of_same (servers_changeServer_ne other) rfl
  | tells => exact has.of_same rfl (tasks_changeTask_ne foreign)
  | logs => exact has.of_same rfl rfl

/-- What is done to another server and its task leaves the server with its own. -/
lemma hasTried_runs {p : Flow κ υ α} {r : Option α} (has : w.HasTried id s k)
    (respects : p.Respects (Does id' k')) (other : id' ≠ id) (foreign : k' ≠ k)
    (run : p.Runs World.clockwork.setting w r u) : u.HasTried id s k := by
  have keeps : p.Respects fun v v' => v.HasTried id s k → v'.HasTried id s k :=
    respects.mono fun does has => hasTried_does has does other foreign
  refine keeps.runs run (fun _ has => has) (fun first rest => rest ∘ first) ?_ ?_ has
  · rintro v _ rfl
    exact fun has => has
  · exact fun passes has => has.passes passes

/-- The stop of a server that has tried to bind its address ends in time, and it succeeds if the
server ends well. -/
theorem stop_ends (has : w.HasTried id s k) (live : w.isCancelled ctx = false)
    (unexpected : ¬w.Expects ctx) (time : 0 < s.timeoutMs)
    (enough : w.now + s.timeoutMs ≤ horizon) :
    ∃ outcome v, World.clockwork.Ends horizon (stop id ctx) w outcome v ∧
      v.now ≤ w.now + s.timeoutMs ∧ (outcome = .ok () ↔ w.EndsWell s.timeoutMs id) ∧
      ∀ id' s' k', id ≠ id' → w.HasTried id' s' k' → v.HasTried id' s' k' := by
  obtain ⟨s', here, -, -, timeout⟩ := server_of_make has.make
  obtain ⟨t, task, own, sound⟩ := has.task
  have serving : s'.serving = some k := by
    have held := has.held
    rwa [World.held, here, Option.bind_some] at held
  let w₁ := w.changeServer id fun s => { s with serving := none }
  rw [← timeout] at time enough ⊢
  obtain ⟨result, u, run, inTime, succeeds⟩ :=
    stopTask_ends (w := w₁) task live unexpected time enough
  let v := concluded id s' result u
  have taken :
      World.clockwork.run horizon (stopTaken id ctx (some (s', k))) w₁ = (some result, v) :=
    (Clockwork.run_bind run).trans run_conclude
  have ends : World.clockwork.Ends horizon (stop id ctx) w (result.mapError .server) v := by
    show World.clockwork.run horizon (Stands.stopResult id ctx (takeTask id w).1)
      (takeTask id w).2 = _
    rw [takeTask_some here serving]
    exact Clockwork.run_bind taken
  refine ⟨_, v, ends, ?_, ?_, fun id' s₀ k' other has' => ?_⟩
  · rw [now_concluded]
    exact inTime
  · have same : result.mapError Cause.server = .ok () ↔ result = .ok () := by
      cases result with
      | ok => exact ⟨fun _ => rfl, fun _ => rfl⟩
      | error =>
        constructor
        · intro same
          cases same
        · intro same
          cases same
    rw [same, succeeds]
    constructor
    · rintro ⟨n, le, done⟩
      have done : ((handedOver id k w).leftAlone n).IsDone k := done
      refine ⟨fun unbound => ?_, k, n, has.held, le, done⟩
      -- its task would have reported why it cannot bind
      obtain ⟨-, reported⟩ := has.tried.resolve_left fun bound => bound unbound
      obtain ⟨e, reported⟩ := Option.ne_none_iff_exists'.1 reported
      have asked : (handedOver id k w).tasks[k]? = some (request t) := (takes here).task task
      have reported : (handedOver id k w).reported k = some e :=
        (takes here).reported.trans reported
      have still := reported_passes (passes_leftAlone (n := n)) asked sound reported
      obtain ⟨t', here', -, content⟩ := done
      rw [World.reported, here', Option.bind_some, content] at still
      cases still
    · rintro ⟨-, k', n, held, le, done⟩
      cases has.held.symm.trans held
      exact ⟨n, le, done⟩
  · have foreign : k ≠ k' := has'.toHolds.ne has.toHolds other
    have has' : w₁.HasTried id' s₀ k' := has'.of_same (servers_changeServer_ne other) rfl
    exact hasTried_runs has' stopTaken_does other foreign (Clockwork.run_runs taken)

end Server

/-! ## Stops in order -/

namespace Plan
open World

variable {b : Behaviour κ υ} {c : Call κ} {cs : List (Call κ)}

/-- The calls stop servers that have tried to bind their addresses, each one once, or do nothing. -/
structure AreStops (ms : Nat) (b : Behaviour κ υ) (ctx : Token) (cs : List (Call κ))
    (w : World κ υ) : Prop where
  each : ∀ c ∈ cs, c.server? = none ∧ c.flow b ctx = .done (.ok ()) ∨
    ∃ i name id s k, c = .stopRunner i (.server name id) ∧ w.HasTried id s k ∧ s.timeoutMs = ms
  distinct : (servers cs).Nodup

/-- What the first of these stops leaves alone are still such stops. -/
lemma AreStops.rest {v : World κ υ} (stops : AreStops ms b ctx (c :: cs) w)
    (kept : ∀ id s k, c.server? ≠ some id → w.HasTried id s k → v.HasTried id s k) :
    AreStops ms b ctx cs v := by
  obtain ⟨each, distinct⟩ := stops
  obtain ⟨-, each⟩ := List.forall_mem_cons.1 each
  constructor
  · intro c' member
    refine (each c' member).imp_right fun ⟨i, name, id, s, k, same, has, timeout⟩ => ?_
    refine ⟨i, name, id, s, k, same, kept id s k (fun server => ?_) has, timeout⟩
    rw [servers_cons_some server, List.nodup_cons] at distinct
    exact distinct.1 (List.mem_filterMap.2 ⟨c', member, same ▸ rfl⟩)
  · cases server : c.server? with
    | none => rwa [servers_cons_none server] at distinct
    | some id =>
      rw [servers_cons_some server, List.nodup_cons] at distinct
      exact distinct.2

/-- Noting an answer leaves a server with its task. -/
lemma hasTried_note {outcome : Outcome} (has : w.HasTried id s k) :
    (c.note outcome w).HasTried id s k := by
  obtain ⟨-, servers, tasks⟩ := note_same c outcome w
  exact has.of_same (by rw [servers]) (by rw [tasks])

/-- The servers that are stopped in a course end well. -/
def AllEndWell (ms : Nat) (course : Course κ υ) : Prop :=
  ∀ m ∈ course.made, ∀ i name id, m.call = .stopRunner i (.server name id) →
    m.before.EndsWell ms id

/-- All servers of a course end well if the one that its first call stops does, and those of the
rest do. -/
lemma allEndWell_cons {m : Made κ υ} {course : Course κ υ} :
    AllEndWell ms (.called m :: .own v :: course) ↔
      (∀ i name id, m.call = .stopRunner i (.server name id) → m.before.EndsWell ms id) ∧
        AllEndWell ms course := by
  rw [AllEndWell, Course.made_called, Course.made_own, List.forall_mem_cons]
  rfl

/-- There is no failure if the first call has succeeded and there is none afterwards. -/
lemma failures_eq_nil {outcome : Outcome} {failures : List LifecycleError} :
    (c.failure? outcome).toList ++ failures = [] ↔ outcome = .ok () ∧ failures = [] := by
  rw [List.append_eq_nil_iff]
  refine and_congr_left fun _ => ?_
  cases outcome with
  | ok => exact ⟨fun _ => rfl, fun _ => rfl⟩
  | error => exact ⟨nofun, nofun⟩

/-- Stops come to their ends one after the other, and there is no failure if all servers end
well. -/
theorem callEach_ends (stops : AreStops ms b ctx cs w) (live : w.isCancelled ctx = false)
    (unexpected : ¬w.Expects ctx) (time : 0 < ms)
    (enough : w.now + (servers cs).length * ms ≤ horizon) :
    ∃ course failures v,
      (callEach Call.note ctx cs).Proceeds (World.clockwork.Ends horizon) b w course failures v ∧
      course.calls = cs ∧ (failures = [] ↔ AllEndWell ms course) := by
  induction cs generalizing w with
  | nil =>
    refine ⟨[], [], w, .done, rfl, fun _ m member => ?_, fun _ => rfl⟩
    cases member
  | cons c rest ih =>
    -- how the rest ends after either kind of first call
    have goesOn {outcome : Outcome} {v : World κ υ}
        (called : World.clockwork.Ends horizon (c.flow b ctx) w outcome v)
        (kept : ∀ id s k, c.server? ≠ some id → w.HasTried id s k → v.HasTried id s k)
        (live : v.isCancelled ctx = false ∧ ¬v.Expects ctx)
        (enough : v.now + (servers rest).length * ms ≤ horizon)
        (well : outcome = .ok () ↔
          ∀ i name id, c = .stopRunner i (.server name id) → w.EndsWell ms id) :
        ∃ course failures v, (callEach Call.note ctx (c :: rest)).Proceeds
            (World.clockwork.Ends horizon) b w course failures v ∧
          course.calls = c :: rest ∧ (failures = [] ↔ AllEndWell ms course) := by
      have same : v.SameMoment (c.note outcome v) := (note_same ..).1
      have stops : AreStops ms b ctx rest (c.note outcome v) :=
        stops.rest fun id s k other has => hasTried_note (kept id s k other has)
      have live := live_meddles (.of_eq same.tokens same.incidents) live.1 live.2
      obtain ⟨course, failures, u, proceeds, calls, rest⟩ :=
        ih stops live.1 live.2 (by rwa [same.now])
      refine ⟨_, _, u, .callEach_next called proceeds, congrArg _ calls, ?_⟩
      rw [failures_eq_nil, allEndWell_cons, well, rest]
    obtain ⟨custom, idle⟩ | ⟨i, name, id, s, k, rfl, has, rfl⟩ := stops.each c List.mem_cons_self
    · rw [servers_cons_none custom] at enough
      refine @goesOn (.ok ()) w ?_ (fun _ _ _ _ has => has) ⟨live, unexpected⟩ enough ?_
      · rw [idle]
        rfl
      · refine ⟨fun _ i name id same => ?_, fun _ => rfl⟩
        rw [same] at custom
        cases custom
    · rw [servers_cons_some rfl, List.length_cons, Nat.succ_mul] at enough
      have within : w.now + s.timeoutMs ≤ horizon := by omega
      obtain ⟨outcome, v, ends, inTime, well, kept⟩ := stop_ends has live unexpected time within
      -- the stop leaves the context alone, so it is still live for the next one
      have meddles : w.Meddles (fun _ => True) none v := by
        refine Activity.Respects.runs (stop_respects.mono fun same => ?_) (Clockwork.run_runs ends)
          (fun _ => .refl) World.Meddles.trans ?_ meddles_passes
        · exact .of_eq same.tokens same.incidents
        · rintro v _ rfl
          exact .refl
      have others (id' : Nat) (s' : Server) (k' : Nat) (other : some id ≠ some id')
          (has' : w.HasTried id' s' k') : v.HasTried id' s' k' :=
        kept id' s' k' (fun same => other (congrArg some same)) has'
      refine goesOn ends others (live_meddles meddles live unexpected) (by omega) ?_
      rw [well]
      constructor
      · intro well i' name' id' same
        cases same
        exact well
      · exact fun well => well i name id rfl

end Plan

namespace Lifecycle
open Plan World

variable {b : Behaviour κ υ} {parts : Orchestrator κ}

/-- A run whose token is cancelled comes to its end, and it succeeds if all servers end well. -/
theorem comeDown_ends (stops : AreStops ms b ⟨w.tokens.issued⟩ (teardownCalls parts) w)
    (hides : w.Hides fun _ => True) (time : 0 < ms)
    (enough : w.now + parts.servers.length * ms ≤ horizon) :
    ∃ course outcome v,
      (comeDown parts).Proceeds (World.clockwork.Ends horizon) b w course outcome v ∧
      course.calls = teardownCalls parts ∧ (outcome = .ok () ↔ AllEndWell ms course) := by
  let w₁ := w.changeOrchestrator fun o => o.publish .stopping
  let w₂ := w₁.freshToken.2
  have stops : AreStops ms b ⟨w.tokens.issued⟩ (teardownCalls parts) w₂ := by
    refine ⟨fun c member => (stops.each c member).imp_right ?_, stops.distinct⟩
    rintro ⟨i, name, id, s, k, same, has, timeout⟩
    exact ⟨i, name, id, s, k, same, has.of_same rfl rfl, timeout⟩
  obtain ⟨live, unexpected⟩ := hides ⟨w.tokens.issued⟩ trivial (Nat.le_refl _)
  have meddles : w₁.Meddles (fun _ => True) none w₂ := .freshToken
  obtain ⟨live, unexpected⟩ := live_meddles meddles live unexpected
  have enough : w₂.now + (servers (teardownCalls parts)).length * ms ≤ horizon := by
    rwa [servers_teardownCalls, List.length_reverse]
  obtain ⟨course, failures, v, proceeds, calls, well⟩ :=
    callEach_ends stops live unexpected time enough
  have falls : (teardown parts).Proceeds (World.clockwork.Ends horizon) b w₁
      (.own w₁ :: (course ++ [.own v])) (Errors.outcome failures)
      (v.count (.phaseDuration .teardown)) := .act (proceeds.bind (.act .done))
  refine ⟨_, _, _, .act (falls.bind (.act .done)), ?_, ?_⟩
  · simpa using calls
  · have made (w w' v v' : World κ υ) :
        Course.made (.own w :: (.own w' :: (course ++ [.own v]) ++ [.own v'])) = course.made := by
      simp
    rw [AllEndWell, made, ← AllEndWell, ← well]
    cases failures with
    | nil => exact ⟨fun _ => rfl, fun _ => rfl⟩
    | cons => exact ⟨nofun, nofun⟩

end Lifecycle

end Supervision
