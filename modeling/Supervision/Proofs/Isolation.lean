import Supervision.Proofs.Contexts
import Supervision.Proofs.Strategies

/-!
# Isolation

No stop begins with a cancelled context because of the caller, of a start, or of anything but an
earlier stop of the same rollback, teardown or shutdown. `contexts_isolated` says so of runs,
startups, shutdowns and services, whoever else cancels the tokens that they know. The server of a
shutdown is the one part that may share a token with the caller: it is called with a live context,
unless the caller cancels that token between the last step of the shutdown and the call.
-/

namespace Supervision

variable {κ υ α : Type} {S : Setting (World κ υ)} {b : Behaviour κ υ} {w u : World κ υ}
  {course : Course κ υ} {ctx : Token} {secret : Token → Prop}

namespace Course

variable {kind : Call κ → Prop}

/-- The context of the other kind is not that of the starts. -/
lemma Separates.own (separates : course.Separates ctx w kind) (old : ctx.id < w.tokens.issued)
    (other : ∀ c, c.IsStart → ¬kind c) :
    ∃ own : Token, w.tokens.issued ≤ own.id ∧ course.Gives fun c t => kind c ↔ t = own := by
  obtain ⟨own, fresh, gives⟩ := separates
  refine ⟨own, fresh, gives.mono fun c t => ?_⟩
  rintro (⟨start, rfl⟩ | ⟨kind, rfl⟩)
  · refine iff_of_false (other c start) ?_
    rintro rfl
    exact Nat.not_lt.2 fresh old
  · exact iff_of_true kind rfl

/-- The starts have the context that they share. -/
lemma Separates.starts (separates : course.Separates ctx w kind)
    (other : ∀ c, c.IsStart → ¬kind c) : course.Gives fun c t => c.IsStart → t = ctx := by
  obtain ⟨own, -, gives⟩ := separates
  refine gives.mono fun c t => ?_
  rintro (⟨-, same⟩ | ⟨kind, -⟩) start
  · exact same
  · exact absurd kind (other c start)

/-- No call is of a kind that neither the starts nor the other calls are of. -/
lemma Separates.only {kind' : Call κ → Prop} (separates : course.Separates ctx w kind)
    (start : ∀ c, c.IsStart → ¬kind' c) (other : ∀ c, kind c → ¬kind' c) :
    course.Gives fun c _ => ¬kind' c := by
  obtain ⟨own, -, gives⟩ := separates
  refine gives.mono fun c t => ?_
  rintro (⟨here, -⟩ | ⟨here, -⟩)
  · exact start c here
  · exact other c here

/-- Where a kind of call does not occur, it is isolated. -/
lemma isolates_of_gives (gives : course.Gives fun c _ => ¬kind c) : course.Isolates kind := by
  intro earlier m later split here
  refine absurd here (gives m ?_)
  rw [split]
  exact List.mem_append_right _ List.mem_cons_self

end Course

namespace Lifecycle
open Plan World

variable {starts stops : List (Callback κ)}

/-- In a run, rollbacks and teardowns are isolated, and all starts have the token of the run. -/
lemma run_isolates {r} (exec : (run ctx).Runs S b w course r u) (old : ctx.id < w.tokens.issued)
    (discreet : course.IsDiscreet (course.HandsOut w) S) (sound : w.IsSound) :
    course.Isolates Call.IsRollback ∧ course.Isolates Call.IsTeardown ∧
      course.Gives fun c t => c.IsStart → t = ctx := by
  -- the kind that does not occur is isolated for that reason
  obtain separates | separates := run_gives exec discreet
  · obtain ⟨own, fresh, gives⟩ := separates.own old (by rintro _ ⟨⟩ ⟨⟩)
    refine ⟨exec.isolates careful_run discreet sound fresh gives, ?_, ?_⟩
    · exact Course.isolates_of_gives (separates.only (by rintro _ ⟨⟩ ⟨⟩) (by rintro _ ⟨⟩ ⟨⟩))
    · exact separates.starts (by rintro _ ⟨⟩ ⟨⟩)
  · obtain ⟨own, fresh, gives⟩ := separates.own old (by rintro _ ⟨⟩ ⟨⟩)
    refine ⟨?_, exec.isolates careful_run discreet sound fresh gives, ?_⟩
    · exact Course.isolates_of_gives (separates.only (by rintro _ ⟨⟩ ⟨⟩) (by rintro _ ⟨⟩ ⟨⟩))
    · exact separates.starts (by rintro _ ⟨⟩ ⟨⟩)

/-- In a startup, the rollback is isolated, and all starts have the token that is given. -/
lemma start_isolates {r} (exec : (start ctx starts stops).Runs S b w course r u)
    (old : ctx.id < w.tokens.issued) (discreet : course.IsDiscreet (course.HandsOut w) S)
    (sound : w.IsSound) :
    course.Isolates Call.IsRollback ∧ course.Gives fun c t => c.IsStart → t = ctx := by
  have separates : course.Separates ctx w Call.IsRollback := by
    obtain starts | ⟨-, separates⟩ := start_gives exec discreet
    · exact starts.separates
    · exact separates
  obtain ⟨own, fresh, gives⟩ := separates.own old (by rintro _ ⟨⟩ ⟨⟩)
  refine ⟨exec.isolates careful_start discreet sound fresh gives, ?_⟩
  exact separates.starts (by rintro _ ⟨⟩ ⟨⟩)

/-- In a shutdown, the stops of components are isolated, and its server has a live context, unless
the caller cancels it right before the call. -/
lemma shutdown_isolates {given : Option Token} {server : Option (Runner κ)} {r}
    (exec : (shutdown given server stops).Runs S b w course r u)
    (old : ∀ t, given = some t → t.id < w.tokens.issued)
    (discreet : course.IsDiscreet (course.HandsOut w) S) (sound : w.IsSound) :
    course.Isolates Call.IsStop ∧ course.StopsAsSeen S given ∧
      ((∀ t, given = some t → S.Spares t) → course.StopsLive) := by
  obtain ⟨⟨t, own, younger, fresh, gives⟩, seen⟩ :=
    shutdown_gives exec old sound.hides (fun m member young => ⟨young, m, member, rfl⟩) discreet
  refine ⟨exec.isolates careful_shutdown discreet sound fresh (gives.mono fun c t' => ?_), seen,
    seen.stopsLive⟩
  rintro (⟨runner, rfl⟩ | ⟨component, rfl⟩)
  · refine iff_of_false runner.not_component ?_
    rintro rfl
    exact Nat.lt_irrefl _ younger
  · exact iff_of_true component rfl

/-- In a service, rollback and stops are isolated, its server has a live context, and all starts
have the token of the service. -/
lemma serveUntil_isolates {server : Runner κ} {signal : Flow κ υ Unit} {r}
    (exec : (serveUntil server starts stops signal).Runs S b w course r u)
    (calm : signal.Respects (Meddles (course.HandsOut w) none))
    (discreet : course.IsDiscreet (course.HandsOut w) S) (sound : w.IsSound) :
    course.Isolates Call.IsRollback ∧ course.Isolates Call.IsStop ∧
      course.StopsLive ∧
      course.Gives fun c t => c.IsStart → t = ⟨w.tokens.issued⟩ := by
  have handsOut : ∀ m ∈ course.made, w.tokens.issued ≤ m.ctx.id → course.HandsOut w m.ctx :=
    fun m member young => ⟨young, m, member, rfl⟩
  obtain separates | ⟨⟨t, own, younger, fresh, gives⟩, seen⟩ :=
    serveUntil_gives exec calm sound.hides handsOut discreet
  · -- nothing is stopped after a startup that is undone or not over
    obtain ⟨own, fresh, gives⟩ := separates.own (Nat.lt_succ_self _) (by rintro _ ⟨⟩ ⟨⟩)
    refine ⟨?_, ?_, fun m member stop => ?_, separates.starts (by rintro _ ⟨⟩ ⟨⟩)⟩
    · exact exec.isolates (careful_serveUntil calm) discreet sound (Nat.le_of_succ_le fresh) gives
    · exact Course.isolates_of_gives (separates.only (by rintro _ ⟨⟩ ⟨⟩) (by rintro _ ⟨⟩ ⟨⟩))
    · exact absurd stop (separates.only (by rintro _ ⟨⟩ ⟨⟩) (by rintro _ ⟨⟩ ⟨⟩) m member)
  · refine ⟨?_, ?_, fun m member stop => ?_, ?_⟩
    · refine Course.isolates_of_gives (gives.mono fun c t' => ?_)
      rintro (⟨⟨⟩, -⟩ | ⟨⟨⟩, -⟩ | ⟨⟨⟩, -⟩) ⟨⟩
    · refine exec.isolates (careful_serveUntil calm) discreet sound (Nat.le_of_succ_le fresh) ?_
      refine gives.mono fun c t' => ?_
      -- the token of the service and that of the server are both older
      rintro (⟨start, rfl⟩ | ⟨runner, rfl⟩ | ⟨component, rfl⟩)
      · refine iff_of_false (by rintro ⟨⟩; cases start) ?_
        rintro rfl
        exact Nat.lt_irrefl _ fresh
      · refine iff_of_false runner.not_component ?_
        rintro rfl
        exact Nat.lt_irrefl _ younger
      · exact iff_of_true component rfl
    · obtain live | ⟨given, x, here, looked, move⟩ := seen m member stop
      · exact live
      · -- nobody but its callbacks has the token of the service, so it stays as it was seen
        have young : w.tokens.issued ≤ m.ctx.id :=
          Nat.le_of_eq (congrArg Token.id (Option.some.inj given))
        have hidden : course.HandsOut w m.ctx := handsOut m member young
        have unexpected : ¬x.Expects m.ctx := by
          refine exec.unexpected (careful_serveUntil calm) discreet hidden ?_ x here
          exact (sound.hides m.ctx hidden young).2
        rw [Bool.eq_false_iff, Ne,
          (discreet.between x m.before move).isCancelled_iff hidden unexpected]
        exact Bool.eq_false_iff.1 looked
    · refine gives.mono fun c t' => ?_
      rintro (⟨-, same⟩ | ⟨⟨⟩, -⟩ | ⟨⟨⟩, -⟩) start
      · exact same
      · cases start
      · cases start

/-- Whenever the caller's token is cancelled and whatever callbacks do with the contexts that they
are given, a stop begins with a cancelled context if and only if an earlier stop of the same
rollback, teardown or shutdown has cancelled its own. The server of a service is called with a
context that is not cancelled. So is the server of a shutdown where nothing comes between two own
steps, or nothing at least that cancels the token of the caller. Elsewhere there is one exception:
this token, if it is cancelled after the shutdown has seen that it is not, right before the call.
All starts are given the token of their run. -/
theorem contexts_isolated (sound : w.IsSound) :
    (∀ {ctx course r u}, (run ctx).Runs S b w course r u → ctx.id < w.tokens.issued →
      course.IsDiscreet (course.HandsOut w) S →
      course.Isolates Call.IsRollback ∧ course.Isolates Call.IsTeardown ∧
        course.Gives fun c t => c.IsStart → t = ctx) ∧
    (∀ {ctx starts stops course r u}, (start ctx starts stops).Runs S b w course r u →
      ctx.id < w.tokens.issued → course.IsDiscreet (course.HandsOut w) S →
      course.Isolates Call.IsRollback ∧ course.Gives fun c t => c.IsStart → t = ctx) ∧
    (∀ {given server stops course r u}, (shutdown given server stops).Runs S b w course r u →
      (∀ t, given = some t → t.id < w.tokens.issued) →
      course.IsDiscreet (course.HandsOut w) S →
      course.Isolates Call.IsStop ∧ course.StopsAsSeen S given ∧
        ((∀ t, given = some t → S.Spares t) → course.StopsLive)) ∧
    ∀ {server starts stops signal course r u},
      (serveUntil server starts stops signal).Runs S b w course r u →
      signal.Respects (Meddles (course.HandsOut w) none) →
      course.IsDiscreet (course.HandsOut w) S →
      course.Isolates Call.IsRollback ∧ course.Isolates Call.IsStop ∧ course.StopsLive ∧
        course.Gives fun c t => c.IsStart → t = ⟨w.tokens.issued⟩ := by
  refine ⟨?_, ?_, ?_, ?_⟩
  · intro ctx course r u exec old discreet
    exact run_isolates exec old discreet sound
  · intro ctx starts stops course r u exec old discreet
    exact start_isolates exec old discreet sound
  · intro given server stops course r u exec old discreet
    exact shutdown_isolates exec old discreet sound
  · intro server starts stops signal course r u exec calm discreet
    exact serveUntil_isolates exec calm discreet sound

/-- A callback cancels its context if its handle says so, and returns the outcome in it. -/
def cancelling {υ : Type} : Behaviour (Bool × Outcome) υ :=
  fun (cancels, outcome) ctx =>
    if cancels then .act (World.cancel ctx) fun _ => .done outcome else .done outcome

/-- These callbacks cancel no token but their contexts. -/
lemma cancelling_respects {handle : Bool × Outcome} {t : Token} :
    (cancelling handle t : Flow _ υ _).Respects (Meddles secret (some t)) := by
  obtain ⟨cancels, outcome⟩ := handle
  cases cancels with
  | true => exact .act (fun w => meddles_cancel) fun _ => .done
  | false => exact .done

/-- By the clock, the courses of such callbacks are discreet. -/
lemma cancelling_isDiscreet {p : Plan (Bool × Outcome) υ α} {w course r u}
    (exec : p.Runs World.clockwork.setting cancelling w course r u) :
    course.IsDiscreet secret World.clockwork.setting := by
  refine exec.isDiscreet (fun w w' same => ?_) (fun w w' => meddles_passes)
    fun _ _ => cancelling_respects
  cases same
  exact .refl

/-- To wait for a signal cancels no token. -/
lemma awaitSignal_respects {υ : Type} :
    (awaitSignal : Flow κ υ Unit).Respects (Meddles secret none) :=
  .bind (.step fun _ => .of_eq rfl rfl) fun _ => .awaitLook fun _ => .refl

/-- The last of three components does not start, and the stop of the second one cancels its
context. -/
def meddling : Orchestrator (Bool × Outcome) where
  components := [⟨some (false, .ok ()), some (false, .ok ())⟩,
    ⟨some (false, .ok ()), some (true, .ok ())⟩, ⟨some (false, .error (.text "refused")), none⟩]

/-- Somebody has cancelled a token, and nobody knows of any other one. A signal is to come. -/
def meddlingWorld : World (Bool × Outcome) Unit :=
  { World.around meddling with
    tokens := { issued := 1, cancelled := [⟨0⟩] }, incidents := [(7, .signal .terminate)] }

/-- All tokens of this world exist. -/
lemma meddlingWorld_isSound : meddlingWorld.IsSound := by
  refine ⟨fun t cancelled => ?_, fun t expected => ?_⟩
  · obtain rfl : t = ⟨0⟩ := by
      simpa [meddlingWorld, isCancelled, Tokens.isCancelled] using cancelled
    decide
  · obtain ⟨instant, member⟩ := expected
    cases List.mem_singleton.1 member

/-- A server with nothing to do. -/
def idleServer : Runner (Bool × Outcome) :=
  .custom "worker" none none

/-- The run of these components by the clock, with the contexts that were cancelled. -/
lemma meddling_runs :
    ∃ course u, (run ⟨0⟩).Runs World.clockwork.setting cancelling meddlingWorld course
        (some (.error (.single (.start 2 (.text "refused"))))) u ∧
      course.made.map (fun m => m.before.isCancelled m.ctx) = [true, true, true, false, true] :=
  ⟨_, _, Plan.follow_runs (World.clockwork.leap 0) rfl, rfl⟩

/-- Their shutdown with the cancelled token by the clock. -/
lemma meddling_shutsDown :
    ∃ course u, (shutdown (some ⟨0⟩) (some idleServer) meddling.stops).Runs
        World.clockwork.setting cancelling meddlingWorld course (some ()) u ∧
      course.made.map (fun m => m.before.isCancelled m.ctx) = [false, false, false, true] :=
  ⟨_, _, Plan.follow_runs (World.clockwork.leap 0) rfl, rfl⟩

/-- The first start cancels the token of the service, and its server gets another one at the
end. -/
lemma meddling_serves :
    ∃ course u, (serveUntil idleServer [some (true, .ok ()), none]
        [none, some (true, .ok ())] awaitSignal).Runs
        World.clockwork.setting cancelling meddlingWorld course (some (.ok ())) u ∧
      course.made.map (fun m => m.before.isCancelled m.ctx) =
        [false, true, true, false, false, true] :=
  ⟨_, _, Plan.follow_runs (World.clockwork.leap 7) rfl, rfl⟩

/-- A run of these components, a shutdown of them, and a service. -/
theorem contexts_isolated_meddling :
    (∃ course u, (run ⟨0⟩).Runs World.clockwork.setting cancelling meddlingWorld course
        (some (.error (.single (.start 2 (.text "refused"))))) u ∧
      course.made.map (fun m => m.before.isCancelled m.ctx) = [true, true, true, false, true] ∧
      course.Isolates Call.IsRollback) ∧
    (∃ course u, (shutdown (some ⟨0⟩) (some idleServer) meddling.stops).Runs
        World.clockwork.setting cancelling meddlingWorld course (some ()) u ∧
      course.made.map (fun m => m.before.isCancelled m.ctx) = [false, false, false, true] ∧
      course.Isolates Call.IsStop ∧ course.StopsLive) ∧
    ∃ course u, (serveUntil idleServer [some (true, .ok ()), none]
        [none, some (true, .ok ())] awaitSignal).Runs
        World.clockwork.setting cancelling meddlingWorld course (some (.ok ())) u ∧
      course.made.map (fun m => m.before.isCancelled m.ctx) =
        [false, true, true, false, false, true] ∧
      course.Isolates Call.IsStop ∧ course.StopsLive := by
  obtain ⟨runs, -, shutsDown, serves⟩ := contexts_isolated meddlingWorld_isSound
  have old : (⟨0⟩ : Token).id < meddlingWorld.tokens.issued := by decide
  refine ⟨?_, ?_, ?_⟩
  · obtain ⟨course, u, exec, contexts⟩ := meddling_runs
    obtain ⟨isolated, -⟩ := runs exec old (cancelling_isDiscreet exec)
    exact ⟨course, u, exec, contexts, isolated⟩
  · obtain ⟨course, u, exec, contexts⟩ := meddling_shutsDown
    have given : ∀ t, some (⟨0⟩ : Token) = some t → t.id < meddlingWorld.tokens.issued := by
      rintro t ⟨⟩
      exact old
    obtain ⟨isolated, -, live⟩ := shutsDown exec given (cancelling_isDiscreet exec)
    refine ⟨course, u, exec, contexts, isolated, live fun t _ => ?_⟩
    exact Setting.spares_of_eq (fun _ _ => Eq.symm) t
  · obtain ⟨course, u, exec, contexts⟩ := meddling_serves
    obtain ⟨-, isolated, live, -⟩ :=
      serves exec awaitSignal_respects (cancelling_isDiscreet exec)
    exact ⟨course, u, exec, contexts, isolated, live⟩

end Lifecycle

end Supervision
