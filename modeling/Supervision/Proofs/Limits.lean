import Supervision.Proofs.Calls
import Supervision.Proofs.Race
import Supervision.Proofs.Shutdown

/-!
# Limits of time

A shutdown waits for its server no longer than the limit for stops, and for each component as long
as that takes. An activity that leaves the clock alone (`Activity.IsTimely`) comes to its end within
a limit, or is given up at the very instant (`run_within`). `shutdown_bounded` is about everything
that a shutdown calls and records.
-/

namespace Supervision

variable {κ υ α β : Type}

/-! ## Activities that leave the clock alone -/

/-- An activity does not set the clock, and waits for no instant that is past. -/
inductive Activity.IsTimely {σ : Type} (clock : σ → Nat) : Activity σ α → Prop where
  | done {a} :
    IsTimely clock (.done a)
  | act {change next} :
    (∀ s, clock (change s) = clock s) →
    (∀ s, IsTimely clock (next s)) →
    IsTimely clock (.act change next)
  | wait {trigger next} :
    (∀ s alarm, trigger.ready s = false → trigger.alarm s = some alarm → clock s < alarm) →
    (∀ s, IsTimely clock (next s)) →
    IsTimely clock (.wait trigger next)

namespace Activity.IsTimely

variable {σ : Type} {clock : σ → Nat}

/-- A timely activity may go on as another one. -/
lemma bind {p : Activity σ α} {f : α → Activity σ β} (first : p.IsTimely clock)
    (rest : ∀ a, (f a).IsTimely clock) : (p.bind f).IsTimely clock := by
  induction first with
  | done => exact rest _
  | act keeps _ ih => exact .act keeps ih
  | wait ahead _ ih => exact .wait ahead ih

/-- A step that leaves the clock alone is timely. -/
lemma step {f : σ → α × σ} (keeps : ∀ s, clock (f s).2 = clock s) :
    (Activity.step f).IsTimely clock :=
  .act keeps fun _ => .done

/-- A change that leaves the clock alone is timely. -/
lemma change {f : σ → σ} (keeps : ∀ s, clock (f s) = clock s) :
    (Activity.change f).IsTimely clock :=
  .act keeps fun _ => .done

/-- A look is timely. -/
lemma look {f : σ → α} : (Activity.look f).IsTimely clock :=
  .act (fun _ => rfl) fun _ => .done

/-- A wait is timely if its alarm is ahead. -/
lemma awaitLook {trigger : Trigger σ} {f : σ → α}
    (ahead : ∀ s alarm, trigger.ready s = false → trigger.alarm s = some alarm →
      clock s < alarm) : (Activity.awaitLook trigger f).IsTimely clock := by
  refine .act (fun _ => rfl) fun s => ?_
  split
  · exact .done
  · exact .wait ahead fun _ => .done

end Activity.IsTimely

namespace Server
open Activity

variable {id task ms : Nat} {ctx : Token}

/-- What is done at the end of a race is timely, for it does not wait. -/
lemma finish_isTimely {winner : Option RaceWinner} :
    (finish task ms winner : Flow κ υ _).IsTimely World.now := by
  have drain : ((Activity.step (drainSlot task)).bind fun reported =>
      Activity.done (Errors.outcome (winner.toList.flatMap (raceFailure ms) ++ reported.toList)) :
      Flow κ υ _).IsTimely World.now :=
    .bind (.step fun _ => now_drainSlot) fun _ => .done
  unfold finish
  split
  · exact drain
  · exact .bind (.change fun _ => rfl) fun _ => drain

/-- The stop of a task is timely: its timeout is ahead. -/
lemma stopTask_isTimely : (stopTask task ms ctx : Flow κ υ _).IsTimely World.now := by
  refine .bind (.change fun _ => rfl) fun _ => .bind .look fun now => ?_
  have race : (raceTrigger task (now + ms) ctx : Trigger (World κ υ)).IsPunctual :=
    raceTrigger_isPunctual
  exact .bind (.awaitLook fun w alarm waits next => race.ahead w alarm waits next)
    fun _ => finish_isTimely

/-- To take a task takes no time. -/
lemma takeTask_now {w : World κ υ} : (takeTask id w).2.now = w.now := by
  unfold takeTask
  split
  · rfl
  · split <;> rfl

/-- The conclusion of a stop is timely. -/
lemma conclude_isTimely {s : Server} {result : Except (Errors ServerError) Unit} :
    (conclude id s result : Flow κ υ _).IsTimely World.now := by
  refine .bind (.change fun _ => rfl) fun _ => ?_
  dsimp only
  split
  · exact .bind (.change fun _ => rfl) fun _ => .done
  · exact .done

/-- The stop of a server leaves the clock alone. -/
lemma stop_isTimely : (stop id ctx : Flow κ υ Outcome).IsTimely World.now := by
  have stops (taken : Option (Server × Nat)) :
      (stopTaken id ctx taken : Flow κ υ _).IsTimely World.now := by
    cases taken with
    | none => exact .done
    | some taken => exact .bind stopTask_isTimely fun _ => conclude_isTimely
  have shuts : (shutdown id ctx : Flow κ υ _).IsTimely World.now :=
    .bind (.step fun _ => takeTask_now) stops
  exact .bind shuts fun _ => .done

end Server

/-! ## The clock within a limit -/

namespace World
open Activity

variable {deadline jumps ms horizon : Nat} {w : World κ υ}

/-- A wait with a deadline has an alarm ahead, at the deadline or before. -/
lemma exists_alarm_le {trigger : Trigger (World κ υ)} (later : w.now < deadline)
    (ahead : ∀ alarm, trigger.alarm w = some alarm → w.now < alarm) :
    ∃ next, earliest ((trigger.or (.instant World.now deadline)).alarm w) w.nextAlarm = some next ∧
      w.now < next ∧ next ≤ deadline := by
  have own : (trigger.or (.instant World.now deadline)).alarm w =
      earliest (trigger.alarm w) (some deadline) := rfl
  cases first : earliest (trigger.alarm w) (some deadline) with
  | none => cases (earliest_eq_none first).2
  | some limit =>
    obtain ⟨least, -, bound⟩ := earliest_eq_some first
    have bound : limit ≤ deadline := bound deadline rfl
    have later : w.now < limit := by
      obtain alarm | here := least
      · exact ahead limit alarm
      · cases here
        exact later
    rw [own, first]
    cases next : earliest (some limit) w.nextAlarm with
    | none => cases (earliest_eq_none next).1
    | some next' =>
      obtain ⟨least, bound', -⟩ := earliest_eq_some next
      refine ⟨next', rfl, ?_, Nat.le_trans (bound' limit rfl) bound⟩
      obtain here | alarm := least
      · cases here
        exact later
      · exact lt_nextAlarm alarm

/-- Time passes until a wait with a deadline ends, and not beyond the deadline. -/
lemma passTime_deadline (jumps : Nat) {trigger : Trigger (World κ υ)}
    (ahead : ∀ w alarm, trigger.ready w = false → trigger.alarm w = some alarm → w.now < alarm)
    (early : w.now ≤ deadline) (enough : deadline - w.now ≤ jumps) :
    ∃ v, World.clockwork.passTime (trigger.or (.instant World.now deadline)) jumps w = some v ∧
      v.now ≤ deadline := by
  induction jumps generalizing w with
  | zero =>
    have ends : (trigger.or (.instant World.now deadline)).ends w.settle = true := by
      have late : deadline ≤ w.now := by omega
      simp [Trigger.ends, Trigger.or, Trigger.instant, late]
    exact ⟨_, passTime_ready ends, by rwa [now_settle]⟩
  | succ jumps ih =>
    cases ends : (trigger.or (.instant World.now deadline)).ends w.settle with
    | true => exact ⟨_, passTime_ready ends, by rwa [now_settle]⟩
    | false =>
      have waits : trigger.ready w.settle = false ∧ w.settle.now < deadline := by
        simp only [Trigger.ends, Trigger.or, Trigger.instant, Bool.or_eq_false_iff,
          decide_eq_false_iff_not, Nat.not_le] at ends
        exact ends.1
      obtain ⟨next, alarm, later, bound⟩ :=
        exists_alarm_le waits.2 fun alarm => ahead w.settle alarm waits.1
      rw [now_settle] at later
      rw [passTime_alarm ends later alarm]
      apply ih bound
      show deadline - next ≤ jumps
      omega

/-- Up to a deadline, a timely activity comes to its end, or is given up at the instant. -/
lemma run_within_deadline {p : Flow κ υ α} (timely : p.IsTimely World.now)
    (early : w.now ≤ deadline) (enough : deadline ≤ horizon) :
    ∃ outcome v, World.clockwork.run horizon (within World.now deadline p) w = (some outcome, v) ∧
      v.now ≤ deadline ∧ (outcome = none → v.now = deadline) := by
  induction timely generalizing w with
  | @done a => exact ⟨some a, w, rfl, early, nofun⟩
  | act keeps _ ih => exact ih w (Nat.le_trans (Nat.le_of_eq (keeps w)) early)
  | @wait trigger next ahead _ ih =>
    -- the wait ends in `v`, and the time is up there or not
    have goesOn {v : World κ υ} (early : v.now ≤ deadline) :
        ∃ outcome x, World.clockwork.run horizon
          (if trigger.ready v || v.now < deadline then within World.now deadline (next v)
            else .done none) v = (some outcome, x) ∧
          x.now ≤ deadline ∧ (outcome = none → x.now = deadline) := by
      split
      next => exact ih v early
      next late =>
        simp only [Bool.or_eq_true, decide_eq_true_eq, not_or] at late
        exact ⟨none, v, rfl, early, fun _ => by omega⟩
    cases ready : (trigger.or (.instant World.now deadline)).ready w with
    | true =>
      obtain ⟨outcome, x, run, bound⟩ := goesOn early
      refine ⟨outcome, x, ?_, bound⟩
      rw [within, Clockwork.run, if_pos ready]
      exact run
    | false =>
      obtain ⟨v, passes, before⟩ := passTime_deadline (horizon - w.now) ahead early (by omega)
      obtain ⟨outcome, x, run, bound⟩ := goesOn before
      refine ⟨outcome, x, ?_, bound⟩
      have passes : World.clockwork.passTime (trigger.or (.instant World.now deadline))
        (horizon - World.clockwork.now w) w = some v := passes
      rw [within, Clockwork.run, if_neg (by simp [ready]), passes]
      exact run

/-- Within a length of time, a timely activity comes to its end, or is given up when it is over. -/
theorem run_within {p : Flow κ υ α} (timely : p.IsTimely World.now)
    (enough : w.now + ms ≤ horizon) :
    ∃ outcome v, World.clockwork.run horizon (Flow.within ms p) w = (some outcome, v) ∧
      v.now ≤ w.now + ms ∧ (outcome = none → v.now = w.now + ms) :=
  run_within_deadline timely (Nat.le_add_right _ _) enough

end World
/-! ## Shutdowns -/

/-- From one world to another, records were made, and tokens handed out at most. -/
inductive World.Records (w : World κ υ) (rs : List Record) : World κ υ → Prop where
  | intro (handedOut : Nat) :
    Records w rs { w with
      journal := w.journal ++ rs
      tokens := { w.tokens with issued := w.tokens.issued + handedOut } }

namespace World.Records

variable {rs rs' : List Record} {w v x : World κ υ}

/-- Where nothing is done, no records are made. -/
lemma refl : w.Records [] w := by
  have same : w.Records [] _ := .intro 0
  rwa [List.append_nil] at same

/-- Records are made one after the other. -/
lemma trans (first : w.Records rs v) (rest : v.Records rs' x) : w.Records (rs ++ rs') x := by
  cases first with
  | intro m =>
    cases rest with
    | intro n =>
      have both : w.Records (rs ++ rs') _ := .intro (m + n)
      rwa [← List.append_assoc, ← Nat.add_assoc] at both

/-- To note a record makes this one. -/
lemma log {r : Record} : w.Records [r] (w.log r) :=
  .intro 0

/-- To make a token makes no records. -/
lemma freshToken : w.Records [] w.freshToken.2 := by
  have fresh : w.Records [] _ := .intro 1
  rwa [List.append_nil] at fresh

/-- No time passes while records are made. -/
lemma now (records : w.Records rs v) : v.now = w.now := by
  cases records
  rfl

end World.Records

namespace Lifecycle
open Activity

variable {b : Behaviour κ υ} {server : Runner κ} {ctx : Token} {horizon : Nat} {w v u : World κ υ}

/-- The records of a shutdown about the stop of its server. -/
def serverRecords (server : Runner κ) : Option Outcome → List Record
  | some (.ok ()) => []
  | some (.error cause) => [.serverShutdownFailed server.name cause]
  | none => [.serverShutdownTimedOut server.name (.ofMillis stopLimitMs)]

/-- The records of a shutdown about the stop of a component. -/
def stopRecords (c : Call κ) : Outcome → List Record
  | .ok () => []
  | .error cause => [.signalStopFailed c.index cause]

/-- A server was stopped by `m`: the stop came to its end within the limit, or it was given up in a
wait when the time was up. -/
inductive Limited (b : Behaviour κ υ) (m : Made κ υ) : Prop where
  | returned {outcome} :
    m.outcome = some outcome →
    (m.call.flow b m.ctx).Runs World.clockwork.setting m.before (some outcome) m.after →
    m.after.now ≤ m.before.now + stopLimitMs →
    Limited b m
  | givenUp :
    m.outcome = none →
    (m.call.flow b m.ctx).Stuck World.clockwork.setting m.before m.after →
    m.after.now = m.before.now + stopLimitMs →
    Limited b m

/-- From `w` to `v`, a shutdown makes this call of its server, if there is one. -/
inductive StopsServer (b : Behaviour κ υ) :
    Option (Runner κ) → World κ υ → List (Made κ υ) → World κ υ → Prop where
  | absent {w v : World κ υ} :
    w.Records [] v →
    StopsServer b none w [] v
  | stopped {server : Runner κ} {w v : World κ υ} {m : Made κ υ} :
    m.call = .stopRunner 0 server →
    w.Records [] m.before →
    Limited b m →
    m.after.Records (serverRecords server m.outcome) v →
    StopsServer b (some server) w [m] v

/-- From `w` on, calls are made one by one, each as soon as the one before has returned and is on
record. There is no result if the last one does not return. -/
inductive OneByOne : World κ υ → List (Made κ υ) → Option Unit → World κ υ → Prop where
  | nil {w u : World κ υ} :
    w.Records [] u →
    OneByOne w [] (some ()) u
  | returned {m : Made κ υ} {w v u : World κ υ} {outcome rest r} :
    w.Records [] m.before →
    m.outcome = some outcome →
    m.after.Records (stopRecords m.call outcome) v →
    OneByOne v rest r u →
    OneByOne w (m :: rest) r u
  | waiting {m : Made κ υ} {w : World κ υ} :
    w.Records [] m.before →
    m.outcome = none →
    OneByOne w [m] none m.after

/-- What is noted about a stop are its records. -/
lemma noteStop_records {c : Call κ} {outcome : Outcome} :
    w.Records (stopRecords c outcome) (noteStop c outcome w) := by
  cases outcome with
  | ok => exact .refl
  | error cause => exact .log

/-- The context of a stop is there at once, without any records. -/
lemma stopContext_run (given : Option Token) (horizon : Nat) (w : World κ υ) :
    ∃ t v, World.clockwork.run horizon (stopContext given) w = (some t, v) ∧ w.Records [] v := by
  cases live : given.filter fun t => !w.isCancelled t with
  | none =>
    refine ⟨w.freshToken.1, w.freshToken.2, ?_, .freshToken⟩
    simp only [stopContext, look, Bind.bind, Activity.bind, Clockwork.run, live]
    rfl
  | some t =>
    refine ⟨t, w, ?_, .refl⟩
    simp only [stopContext, look, Bind.bind, Activity.bind, Clockwork.run, live]
    rfl

/-- The stop of a runner is timely if the callbacks are. -/
lemma stopRunner_isTimely (timely : ∀ handle t, (b handle t).IsTimely World.now) :
    ((Call.stopRunner 0 server).flow b ctx).IsTimely World.now := by
  cases server with
  | server _ id => exact Server.stop_isTimely
  | custom _ _ stopping =>
    cases stopping with
    | none => exact .done
    | some handle => exact timely handle ctx

/-- The server is stopped within its limit, whatever it does. -/
lemma stopServer_run (server : Runner κ) (ctx : Token)
    (timely : ((Call.stopRunner 0 server).flow b ctx).IsTimely World.now)
    (enough : w.now + stopLimitMs ≤ horizon) :
    ∃ m v course, World.clockwork.run horizon ((stopServer ctx server).perform b) w =
        (some (), v) ∧
      (stopServer ctx server).Runs World.clockwork.setting b w course (some ()) v ∧
      course.made = [m] ∧ StopsServer b (some server) w [m] v ∧
      v.now ≤ w.now + stopLimitMs := by
  obtain ⟨outcome, x, run, bound, late⟩ := World.run_within timely enough
  have within : (Flow.within stopLimitMs ((Call.stopRunner 0 server).flow b ctx)).Runs
    World.clockwork.setting w (some outcome) x := Clockwork.run_runs run
  have limited : Limited b ⟨.stopRunner 0 server, ctx, w, outcome, x⟩ := by
    have begun := runs_look within
    obtain ⟨o, rfl, here⟩ | ⟨rfl, -, stuck⟩ := Runs.of_within begun
    · exact .returned rfl here bound
    · exact .givenUp rfl stuck (late rfl)
  have stopped {v} (records : x.Records (serverRecords server outcome) v) :
      StopsServer b (some server) w [⟨.stopRunner 0 server, ctx, w, outcome, x⟩] v :=
    .stopped rfl .refl limited records
  rcases outcome with _ | ⟨cause | ⟨⟩⟩
  · exact ⟨_, _, _, Clockwork.run_bind run, .callWithin within (.act rfl .done), rfl,
      stopped .log, bound⟩
  · exact ⟨_, _, _, Clockwork.run_bind run, .callWithin within (.act rfl .done), rfl,
      stopped .log, bound⟩
  · exact ⟨_, _, _, Clockwork.run_bind run, .callWithin within .done, rfl, stopped .refl, bound⟩

/-- The calls of stops, one by one. -/
lemma callEach_oneByOne {M : World κ υ → World κ υ → Prop} {cs : List (Call κ)} {course r}
    (run : (Plan.callEach noteStop ctx cs).Runs ⟨Eq, M⟩ b w course r u) :
    OneByOne w course.made (r.map fun _ => ()) u ∧ course.calls <+: cs ∧
      (r.isSome = true → course.calls = cs) := by
  induction cs generalizing w course r with
  | nil =>
    cases run
    exact ⟨.nil .refl, List.prefix_rfl, fun _ => rfl⟩
  | cons c rest ih =>
    cases run with
    | calling here =>
      exact ⟨.waiting .refl rfl, List.prefix_append [c] rest, nofun⟩
    | @call _ _ _ _ outcome x _ _ _ here run =>
      cases run with
      | act move run =>
        cases move
        have run : ((Plan.callEach noteStop ctx rest).bind fun failures =>
          .done ((c.failure? outcome).toList ++ failures)).Runs ⟨Eq, M⟩ b _ _ _ _ := run
        obtain ⟨rfl, here⟩ | ⟨failures, y, first, last, rfl, here, done⟩ := run.of_bind
        · obtain ⟨oneByOne, calls, -⟩ := ih here
          refine ⟨.returned .refl rfl noteStop_records oneByOne, ?_, nofun⟩
          exact (List.prefix_cons_inj c).2 calls
        · cases done
          obtain ⟨oneByOne, -, calls⟩ := ih here
          have calls : first.calls = rest := calls rfl
          rw [List.append_nil]
          refine ⟨.returned .refl rfl noteStop_records oneByOne, ?_, fun _ => ?_⟩
          · simp only [Course.calls_called, Course.calls_own, calls, List.prefix_rfl]
          · simp only [Course.calls_called, Course.calls_own, calls]

/-- A token may be handed out before the stop of the server. -/
lemma StopsServer.after {server : Option (Runner κ)} {made : List (Made κ υ)}
    (records : w.Records [] v) (stops : StopsServer b server v made u) :
    StopsServer b server w made u := by
  cases stops with
  | absent here => exact .absent (records.trans here)
  | stopped call here limited after => exact .stopped call (records.trans here) limited after

/-- A token may be handed out before calls that are made one by one. -/
lemma OneByOne.after {made : List (Made κ υ)} {r : Option Unit} (records : w.Records [] v)
    (calls : OneByOne v made r u) : OneByOne w made r u := by
  cases calls with
  | nil here => exact .nil (records.trans here)
  | returned here outcome after rest => exact .returned (records.trans here) outcome after rest
  | waiting here outcome => exact .waiting (records.trans here) outcome

/-- The stops of components, one by one. -/
lemma stopComponents_oneByOne {M : World κ υ → World κ υ → Prop} {stops : List (Callback κ)}
    {course r}
    (run : (stopComponents stops).Runs ⟨Eq, M⟩ b w course r u) :
    OneByOne w course.made r u ∧ course.calls <+: (stops.mapIdx .stop).reverse ∧
      (r = some () → course.calls = (stops.mapIdx .stop).reverse) := by
  obtain ⟨_, rest, rfl, rfl, run⟩ := run.of_freshToken
  have run : ((Plan.callEach noteStop ⟨w.tokens.issued⟩ (stops.mapIdx .stop).reverse).bind fun _ =>
    .done ()).Runs ⟨Eq, M⟩ b w.freshToken.2 rest r u := run
  rw [Course.made_own, Course.calls_own]
  obtain ⟨rfl, here⟩ | ⟨failures, y, first, last, rfl, here, done⟩ := run.of_bind
  · obtain ⟨oneByOne, calls, -⟩ := callEach_oneByOne here
    exact ⟨oneByOne.after .freshToken, calls, nofun⟩
  · cases done
    obtain ⟨oneByOne, calls, all⟩ := callEach_oneByOne here
    rw [List.append_nil]
    exact ⟨oneByOne.after .freshToken, calls, fun _ => all rfl⟩

/-- To perform a single flow is to follow it. -/
lemma perform_ofFlow {flow : Flow κ υ α} : (Plan.ofFlow flow).perform b = flow := by
  induction flow with
  | done a => rfl
  | act change next ih => simp only [Plan.ofFlow, Plan.perform, ih]
  | wait trigger next ih => simp only [Plan.ofFlow, Plan.perform, ih]

/-- A shutdown comes to the stops of its components in time, whatever its server does. -/
lemma shutdown_begins {given : Option Token} {server : Option (Runner κ)} {stops}
    (timely : ∀ handle t, (b handle t).IsTimely World.now) (enough : w.now + stopLimitMs ≤ horizon) :
    ∃ up v, World.clockwork.run horizon ((shutdown given server stops).perform b) w =
        World.clockwork.run horizon ((stopComponents stops).perform b) v ∧
      StopsServer b server w up.made v ∧ v.now ≤ w.now + stopLimitMs ∧
      ∀ {course r u}, (stopComponents stops).Runs World.clockwork.setting b v course r u →
        (shutdown given server stops).Runs World.clockwork.setting b w (up ++ course) r u := by
  obtain ⟨t, x, context, records⟩ := stopContext_run given horizon w
  have context : World.clockwork.run horizon ((Plan.ofFlow (stopContext given)).perform b) w =
      (some t, x) := by
    rwa [perform_ofFlow]
  obtain ⟨first, here⟩ := Plan.perform_runs_iff.1 (Clockwork.run_runs context)
  have quiet : first.made = [] := here.of_flow.1
  cases server with
  | none =>
    refine ⟨first, x, ?_, ?_, ?_, fun rest => here.bind rest⟩
    · exact (congrArg (World.clockwork.run horizon · w) Plan.perform_bind).trans
        (Clockwork.run_bind context)
    · rw [quiet]
      exact .absent records
    · rw [records.now]
      exact Nat.le_add_right _ _
  | some server =>
    have limit : x.now + stopLimitMs ≤ horizon := by rwa [records.now]
    obtain ⟨m, v, second, stop, run, made, stops, bound⟩ :=
      stopServer_run server t (stopRunner_isTimely timely) limit
    rw [shutdown_eq]
    refine ⟨first ++ second, v, ?_, ?_, ?_, fun rest => ?_⟩
    · rw [Plan.perform_bind, Clockwork.run_bind context, Plan.perform_bind, Clockwork.run_bind stop]
    · rw [Course.made_append, quiet, made]
      exact stops.after records
    · rwa [records.now] at bound
    · rw [List.append_assoc]
      exact here.bind (run.bind rest)

/-- A shutdown stops its server once, and goes on when the server has stopped or its time is up.
Then it stops every component once, one after the other, the last one first. It records the failure
or the delay of its server, and then every failure of a component. -/
theorem shutdown_bounded {given : Option Token} {server : Option (Runner κ)}
    {stops : List (Callback κ)} {r : Option Unit}
    (timely : ∀ handle t, (b handle t).IsTimely World.now)
    (enough : w.now + stopLimitMs ≤ horizon)
    (exec : World.clockwork.run horizon ((shutdown given server stops).perform b) w = (r, u)) :
    ∃ v, ∃ up down : Course κ υ,
      (shutdown given server stops).Runs World.clockwork.setting b w (up ++ down) r u ∧
      StopsServer b server w up.made v ∧ v.now ≤ w.now + stopLimitMs ∧
      OneByOne v down.made r u ∧ down.calls <+: (stops.mapIdx .stop).reverse ∧
      (r = some () → down.calls = (stops.mapIdx .stop).reverse) := by
  obtain ⟨up, v, same, server, bound, goesOn⟩ := shutdown_begins timely enough
  have run := Plan.perform_runs_iff.1 (Clockwork.run_runs (same.symm.trans exec))
  obtain ⟨down, run⟩ := run
  exact ⟨v, up, down, goesOn run, server, bound, stopComponents_oneByOne run⟩

/-- Callbacks that return at once, or never. -/
def promptOrHung : Behaviour (Option Outcome) Unit
  | some outcome, _ => .done outcome
  | none, _ => .wait .never fun _ => .done (.ok ())

/-- A server that never stops. -/
def hung : Runner (Option Outcome) :=
  .custom "hung" none (some none)

/-- Stops of which the first one fails. -/
def oneFails : List (Callback (Option Outcome)) :=
  [some (some (.error (.text "boom"))), some (some (.ok ()))]

/-- Their shutdown by the clock. -/
def hungShutdown : Option Unit × World (Option Outcome) Unit :=
  World.clockwork.run 5000 ((shutdown none (some hung) oneFails).perform promptOrHung) (.around {})

/-- The server is given up after five seconds, and both components are stopped. -/
theorem shutdown_bounded_hung :
    hungShutdown.1 = some () ∧ hungShutdown.2.now = 5000 ∧
      hungShutdown.2.journal =
        [.serverShutdownTimedOut "hung" (.ofMillis 5000), .signalStopFailed 0 (.text "boom")] ∧
      ∃ v, ∃ up down : Course (Option Outcome) Unit,
        (shutdown none (some hung) oneFails).Runs World.clockwork.setting promptOrHung
          (.around {}) (up ++ down) (some ()) hungShutdown.2 ∧
        StopsServer promptOrHung (some hung) (.around {}) up.made v ∧
        OneByOne v down.made (some ()) hungShutdown.2 ∧
        down.calls =
          [.stop 1 (some (some (.ok ()))), .stop 0 (some (some (.error (.text "boom"))))] := by
  have timely : ∀ handle t, (promptOrHung handle t).IsTimely World.now := by
    intro handle t
    cases handle with
    | some outcome => exact .done
    | none => exact .wait (fun _ _ _ never => nomatch never) fun _ => .done
  have returns : hungShutdown.1 = some () := by decide +kernel
  have exec : World.clockwork.run 5000
      ((shutdown none (some hung) oneFails).perform promptOrHung) (.around {}) =
      (some (), hungShutdown.2) := Prod.ext returns rfl
  obtain ⟨v, up, down, run, server, -, components, -, all⟩ :=
    shutdown_bounded timely (Nat.le_refl 5000) exec
  have journal : hungShutdown.2.journal =
      [.serverShutdownTimedOut "hung" (.ofMillis 5000), .signalStopFailed 0 (.text "boom")] := by
    -- records have no decidable equality, and `rfl` needs to see how time passes
    delta hungShutdown Clockwork.run Clockwork.run._f Clockwork.passTime
    rfl
  exact ⟨returns, by decide +kernel, journal, v, up, down, run, server, components, all rfl⟩

end Lifecycle
end Supervision
