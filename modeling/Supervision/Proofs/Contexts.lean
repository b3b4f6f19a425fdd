import Supervision.Proofs.Discretion
import Supervision.Proofs.Shutdown
import Supervision.Proofs.Startup

/-!
# Contexts of calls

Which context each call of a service is given. All starts share the token of the run, and every
rollback, every teardown and the stops of every shutdown have a token of their own, which is handed
out for them (`run_gives`, `start_gives`, `shutdown_gives`, `serveUntil_gives`). The lemmas are in
the order of the definitions.
-/

namespace Supervision

variable {κ υ α β : Type} {S : Setting (World κ υ)} {b : Behaviour κ υ} {w u : World κ υ}
  {course : Course κ υ} {r : Option α}

namespace Call

/-- The start of a component or a runner. -/
inductive IsStart : Call κ → Prop where
  | component {i callback} : IsStart (.start i callback)
  | runner {i runner} : IsStart (.startRunner i runner)

/-- The stop of a component after a failed start. -/
inductive IsRollback : Call κ → Prop where
  | intro {i callback} : IsRollback (.rollback i callback)

/-- The stop of a component. -/
inductive IsStop : Call κ → Prop where
  | intro {i callback} : IsStop (.stop i callback)

/-- The stop of a runner. -/
inductive IsRunnerStop : Call κ → Prop where
  | intro {i runner} : IsRunnerStop (.stopRunner i runner)

/-- A call of a teardown. -/
inductive IsTeardown : Call κ → Prop where
  | runner {i runner} : IsTeardown (.stopRunner i runner)
  | component {i callback} : IsTeardown (.stop i callback)
  | hook {i callback} : IsTeardown (.hook i callback)

/-- A start is no stop of a runner. -/
lemma IsStart.not_runnerStop {c : Call κ} (start : c.IsStart) : ¬c.IsRunnerStop := by
  cases start <;> exact nofun

/-- The stop of a runner is not that of a component. -/
lemma IsRunnerStop.not_component {c : Call κ} (runner : c.IsRunnerStop) : ¬c.IsStop := by
  cases runner
  exact nofun

end Call

namespace Plan

/-- The own steps of a plan cancel no token. -/
abbrev IsCareful (secret : Token → Prop) (p : Plan κ υ α) : Prop :=
  p.Heeds (World.Meddles secret none) fun _ _ => True

/-- A flow makes no calls, and hands out tokens at most. -/
lemma Runs.of_quiet {secret : Token → Prop} {flow : Flow κ υ β} {f : β → Plan κ υ α}
    (run : (ofFlow flow >>= f).Runs S b w course r u)
    (calm : flow.Respects (World.Meddles secret none)) (discreet : course.IsDiscreet secret S) :
    r = none ∧ course.made = [] ∨
      ∃ a v first rest, course = first ++ rest ∧ Course.made first = [] ∧
        w.Meddles secret none v ∧ Course.IsDiscreet secret S rest ∧
        (f a).Runs S b v rest r u := by
  obtain ⟨rfl, here⟩ | ⟨a, v, first, rest, rfl, here, next⟩ := run.of_bind
  · exact .inl ⟨rfl, here.of_flow.1⟩
  · rw [Course.isDiscreet_append] at discreet
    have heeds : IsCareful secret (.ofFlow flow : Plan κ υ β) := .ofFlow calm
    have none := here.of_flow.1
    have chain := here.chain heeds discreet.1
    rw [none] at chain
    cases chain with
    | nil meddles => exact .inr ⟨a, v, first, rest, rfl, none, meddles, discreet.2, next⟩

end Plan

namespace Setting

/-- Nobody cancels this token between two own steps. -/
def Spares (S : Setting (World κ υ)) (t : Token) : Prop :=
  ∀ w w', S.between w w' → w.isCancelled t = false → w'.isCancelled t = false

/-- Where nothing comes between two own steps, every token is spared. -/
lemma spares_of_eq (nothing : ∀ w w', S.between w w' → w' = w) (t : Token) : S.Spares t := by
  intro w w' move live
  rw [nothing w w' move]
  exact live

end Setting

/-! ## Starts and what follows them -/

namespace Course

/-- All calls are starts, with this context. -/
def Starts (ctx : Token) (course : Course κ υ) : Prop :=
  course.Gives fun c t => c.IsStart ∧ t = ctx

/-- All starts have this context, and the calls of another kind have one that did not exist in the
world `w`. -/
def Separates (ctx : Token) (w : World κ υ) (kind : Call κ → Prop) (course : Course κ υ) : Prop :=
  ∃ own : Token, w.tokens.issued ≤ own.id ∧
    course.Gives fun c t => c.IsStart ∧ t = ctx ∨ kind c ∧ t = own

variable {ctx : Token} {first rest : Course κ υ} {kind : Call κ → Prop} {v : World κ υ}

/-- What calls nothing gives no contexts. -/
lemma gives_of_made_nil {C : Call κ → Token → Prop} (none : first.made = []) : first.Gives C := by
  rw [Gives, none]
  simp

/-- Where there are only starts, all starts have one context and nothing else has another. -/
lemma Starts.separates (starts : first.Starts ctx) : first.Separates ctx w kind :=
  ⟨⟨w.tokens.issued⟩, Nat.le_refl _, starts.mono fun _ _ => .inl⟩

/-- Starts with the common context may come before the rest. -/
lemma Separates.after (separates : rest.Separates ctx v kind) (starts : first.Starts ctx)
    (older : w.tokens.issued ≤ v.tokens.issued) : (first ++ rest).Separates ctx w kind := by
  obtain ⟨own, fresh, gives⟩ := separates
  refine ⟨own, Nat.le_trans older fresh, Course.gives_append.2 ⟨?_, gives⟩⟩
  exact starts.mono fun _ _ => .inl

/-- What calls nothing may come after the rest. -/
lemma Separates.before (separates : first.Separates ctx w kind) (none : rest.made = []) :
    (first ++ rest).Separates ctx w kind := by
  obtain ⟨own, fresh, gives⟩ := separates
  exact ⟨own, fresh, Course.gives_append.2 ⟨gives, gives_of_made_nil none⟩⟩

/-- Servers are stopped with contexts that are not cancelled. -/
def StopsLive (course : Course κ υ) : Prop :=
  ∀ m ∈ course.made, m.call.IsRunnerStop → m.before.isCancelled m.ctx = false

/-- Servers are stopped with contexts that are not cancelled, but for one exception: the given one,
which others may cancel right after the plan has seen that it is not. -/
def StopsAsSeen (S : Setting (World κ υ)) (given : Option Token) (course : Course κ υ) : Prop :=
  ∀ m ∈ course.made, m.call.IsRunnerStop →
    m.before.isCancelled m.ctx = false ∨
      given = some m.ctx ∧
        ∃ w, .own w ∈ course ∧ w.isCancelled m.ctx = false ∧ S.between w m.before

/-- Without a cancellation right before the call there is no exception. -/
lemma StopsAsSeen.stopsLive {given : Option Token} (seen : course.StopsAsSeen S given)
    (spares : ∀ t, given = some t → S.Spares t) : course.StopsLive := by
  intro m member stop
  obtain live | ⟨given, x, -, looked, move⟩ := seen m member stop
  · exact live
  · exact spares m.ctx given x m.before move looked

/-- All starts have this context, and the stops of components have one that did not exist in the
world `w`. The server is stopped with a context that is older than that, and not cancelled. -/
def Serves (S : Setting (World κ υ)) (ctx : Token) (w : World κ υ) (course : Course κ υ) : Prop :=
  (∃ t own : Token, t.id < own.id ∧ w.tokens.issued ≤ own.id ∧
      course.Gives fun c t' =>
        c.IsStart ∧ t' = ctx ∨ c.IsRunnerStop ∧ t' = t ∨ c.IsStop ∧ t' = own) ∧
    course.StopsAsSeen S (some ctx)

/-- Where there are only starts, no server is stopped. -/
lemma Starts.serves (starts : first.Starts ctx) (old : ctx.id < w.tokens.issued) :
    first.Serves S ctx w := by
  refine ⟨⟨ctx, ⟨w.tokens.issued⟩, old, Nat.le_refl _, starts.mono fun _ _ => .inl⟩, ?_⟩
  intro m member stop
  cases (starts m member).1.not_runnerStop stop

/-- Starts of a service may come before the rest. -/
lemma Serves.after (serves : rest.Serves S ctx v) (starts : first.Starts ctx)
    (older : w.tokens.issued ≤ v.tokens.issued) : (first ++ rest).Serves S ctx w := by
  obtain ⟨⟨t, own, younger, fresh, gives⟩, live⟩ := serves
  refine ⟨⟨t, own, younger, Nat.le_trans older fresh, Course.gives_append.2 ⟨?_, gives⟩⟩, ?_⟩
  · exact starts.mono fun _ _ => .inl
  · intro m member stop
    rw [made_append] at member
    rcases List.mem_append.1 member with start | member
    · cases (starts m start).1.not_runnerStop stop
    · obtain here | ⟨given, x, own, looked, move⟩ := live m member stop
      · exact .inl here
      · exact .inr ⟨given, x, List.mem_append_right _ own, looked, move⟩

end Course

namespace Lifecycle
open Plan World

variable {secret : Token → Prop} {ctx : Token} {starts stops : List (Callback κ)}
  {parts : Orchestrator κ} {C : Call κ → Token → Prop}

/-! ## Own steps -/

/-- The note of a call leaves the tokens alone. -/
lemma meddles_note {c : Call κ} {outcome} : w.Meddles secret none (c.note outcome w) := by
  cases outcome <;> exact .of_eq rfl rfl

/-- The note of a stop leaves the tokens alone. -/
lemma meddles_noteStop {c : Call κ} {outcome} : w.Meddles secret none (noteStop c outcome w) := by
  cases outcome <;> exact .of_eq rfl rfl

/-- To publish a phase is to leave the tokens alone. -/
lemma heeds_publish {phase : Phase} :
    Heeds (Meddles secret none) C (.ofFlow (Flow.publish phase) : Plan κ υ _) :=
  .ofFlow (.change fun _ => .of_eq rfl rfl)

/-- To count a sample is to leave the tokens alone. -/
lemma heeds_count {m : Metric} :
    Heeds (Meddles secret none) C (.ofFlow (Flow.count m) : Plan κ υ _) :=
  .ofFlow (.change fun _ => .of_eq rfl rfl)

/-- To wait for a cancellation is to leave the tokens alone. -/
lemma heeds_cancelled {t : Token} :
    Heeds (Meddles secret none) C (.ofFlow (Flow.cancelled t) : Plan κ υ _) :=
  .ofFlow (.awaitLook fun _ => .refl)

/-- To hand out a token cancels none. -/
lemma heeds_freshToken : Heeds (Meddles secret none) C (.ofFlow Flow.freshToken : Plan κ υ _) :=
  .ofFlow (.step fun _ => .freshToken)

/-- To choose the context for a stop cancels no token. -/
lemma heeds_stopContext {given : Option Token} :
    Heeds (Meddles secret none) C (.ofFlow (stopContext given) : Plan κ υ _) := by
  refine .ofFlow (.bind (.look fun _ => .refl) fun live => ?_)
  cases live with
  | none => exact .step fun _ => .freshToken
  | some t => exact .done

/-- Calls up to the first failure share the context that they are given. -/
lemma heeds_tryEach {cs : List (Call κ)} (gives : ∀ c ∈ cs, C c ctx) :
    Heeds (Meddles secret none) C (tryEach ctx cs : Plan κ υ _) :=
  .tryEach (fun _ _ _ => meddles_note) gives

/-- Calls whatever fails share the context that they are given. -/
lemma heeds_callEach {cs : List (Call κ)} (gives : ∀ c ∈ cs, C c ctx) :
    Heeds (Meddles secret none) C (callEach Call.note ctx cs : Plan κ υ _) :=
  .callEach (fun _ _ _ => meddles_note) gives

/-- A rollback cancels no token itself. -/
lemma careful_rollback : IsCareful secret (rollback stops : Plan κ υ _) :=
  heeds_freshToken.bind fun _ => heeds_callEach fun _ _ => trivial

/-- A start with rollback cancels no token itself. -/
lemma careful_startWithRollback :
    IsCareful secret (startWithRollback ctx starts stops : Plan κ υ _) := by
  refine (heeds_tryEach fun _ _ => trivial).bind fun failed => ?_
  cases failed with
  | none => exact heeds_count.bind fun _ => .done
  | some f => exact careful_rollback.bind fun _ => .done

/-- A startup cancels no token itself. -/
lemma careful_start : IsCareful secret (start ctx starts stops : Plan κ υ _) :=
  careful_startWithRollback.bind fun _ => .done

/-- The start of all parts cancels no token itself. -/
lemma careful_startParts : IsCareful secret (startParts ctx parts : Plan κ υ _) := by
  refine careful_startWithRollback.bind fun started => ?_
  cases started with
  | error => exact .done
  | ok =>
    refine (heeds_tryEach fun _ _ => trivial).bind fun failed => ?_
    cases failed with
    | none => exact .done
    | some f => exact .done

/-- A teardown cancels no token itself. -/
lemma careful_teardown : IsCareful secret (teardown parts : Plan κ υ _) := by
  refine heeds_freshToken.bind fun _ => (heeds_callEach fun _ _ => trivial).bind fun _ => ?_
  exact heeds_count.bind fun _ => .done

/-- The run of some parts cancels no token itself. -/
lemma careful_runParts : IsCareful secret (runParts ctx parts : Plan κ υ _) := by
  refine heeds_publish.bind fun _ => careful_startParts.bind fun started => ?_
  cases started with
  | error => exact heeds_publish.bind fun _ => .done
  | ok =>
    refine heeds_count.bind fun _ => heeds_publish.bind fun _ => heeds_cancelled.bind fun _ => ?_
    refine heeds_publish.bind fun _ => careful_teardown.bind fun _ => ?_
    exact heeds_publish.bind fun _ => .done

/-- A run cancels no token itself. -/
lemma careful_run : IsCareful secret (run ctx : Plan κ υ _) := by
  rw [run_eq]
  refine .act (fun w => ?_) fun w => ?_
  · unfold claim
    split <;> exact .of_eq rfl rfl
  · split
    · exact .done
    · exact careful_runParts

/-- The stop of a server cancels no token itself. -/
lemma careful_stopServer {server : Runner κ} :
    IsCareful secret (stopServer ctx server : Plan κ υ _) := by
  refine .callWithin trivial fun outcome => ?_
  split
  · exact .done
  · exact .ofFlow (.change fun _ => .of_eq rfl rfl)
  · exact .ofFlow (.change fun _ => .of_eq rfl rfl)

/-- The stops of the components cancel no token themselves. -/
lemma careful_stopComponents : IsCareful secret (stopComponents stops : Plan κ υ _) := by
  refine heeds_freshToken.bind fun _ => Heeds.bind ?_ fun _ => .done
  exact .callEach (fun _ _ _ => meddles_noteStop) fun _ _ => trivial

/-- A shutdown cancels no token itself. -/
lemma careful_shutdown {given : Option Token} {server : Option (Runner κ)} :
    IsCareful secret (shutdown given server stops : Plan κ υ _) := by
  refine heeds_stopContext.bind fun t => ?_
  cases server with
  | none => exact careful_stopComponents
  | some server => exact careful_stopServer.bind fun _ => careful_stopComponents

/-- A service cancels no token itself if its signal does not. -/
lemma careful_serveUntil {server : Runner κ} {signal : Flow κ υ Unit}
    (calm : signal.Respects (Meddles secret none)) :
    IsCareful secret (serveUntil server starts stops signal) := by
  refine heeds_freshToken.bind fun t => careful_start.bind fun started => ?_
  cases started with
  | error => exact .done
  | ok =>
    refine .call trivial fun outcome => ?_
    cases outcome with
    | error => exact .done
    | ok => exact (Heeds.ofFlow calm).bind fun _ => careful_shutdown.bind fun _ => .done

/-! ## Contexts of the parts -/

/-- A rollback has a token of its own, which is handed out at its beginning. -/
lemma rollback_gives {r} (run : (rollback stops).Runs S b w course r u) :
    course.Gives fun c t => c.IsRollback ∧ t = ⟨w.tokens.issued⟩ := by
  obtain ⟨v, rest, rfl, -, run⟩ := run.of_freshToken
  rw [Course.gives_own]
  have stopping : Heeds (Meddles (fun _ => True) none)
      (fun c t => c.IsRollback ∧ t = ⟨w.tokens.issued⟩)
      (callEach Call.note ⟨w.tokens.issued⟩ (stops.mapIdx .rollback).reverse : Plan κ υ _) := by
    refine heeds_callEach fun c member => ?_
    obtain ⟨i, _, rfl⟩ := List.mem_mapIdx.1 (List.mem_reverse.1 member)
    exact ⟨.intro, rfl⟩
  exact stopping.gives run

/-- All starts have the context that is given, and a rollback has one of its own. -/
lemma startWithRollback_gives {r}
    (run : (startWithRollback ctx starts stops).Runs S b w course r u)
    (discreet : course.IsDiscreet secret S) :
    course.Starts ctx ∨ r ≠ some (.ok ()) ∧ course.Separates ctx w Call.IsRollback := by
  have starting : Heeds (Meddles secret none) (fun c t => c.IsStart ∧ t = ctx)
      (tryEach ctx (starts.mapIdx .start) : Plan κ υ _) := by
    refine heeds_tryEach fun c member => ?_
    obtain ⟨i, _, rfl⟩ := List.mem_mapIdx.1 member
    exact ⟨.component, rfl⟩
  obtain ⟨rfl, up⟩ | ⟨failed, v, up, rest, rfl, up', run⟩ := run.of_bind
  · exact .inl (starting.gives up)
  · rw [Course.isDiscreet_append] at discreet
    have given : Course.Starts ctx up := starting.gives up'
    cases failed with
    | none =>
      obtain ⟨x, rest, rfl, -, run⟩ := run.of_change
      cases run
      exact .inl (Course.gives_append.2 ⟨given, by simp⟩)
    | some f =>
      have older : w.tokens.issued ≤ v.tokens.issued := (up'.chain starting discreet.1).issued_le
      -- the rollback may be cut short by a call that does not return
      have separates {stops : List (Callback κ)} {down t r}
          (run : (rollback stops).Runs S b v down r t) :
          Course.Separates ctx w Call.IsRollback (up ++ down) := by
        refine .after (v := v) ⟨⟨v.tokens.issued⟩, Nat.le_refl _, ?_⟩ given older
        exact (rollback_gives run).mono fun _ _ => .inr
      right
      obtain ⟨rfl, down⟩ | ⟨es, x, down, rest, rfl, down', run⟩ := run.of_bind
      · exact ⟨nofun, separates down⟩
      · cases run
        rw [List.append_nil]
        exact ⟨nofun, separates down'⟩

/-- The starts of a startup have the context that is given, and its rollback has one of its own. -/
lemma start_gives {r} (run : (start ctx starts stops).Runs S b w course r u)
    (discreet : course.IsDiscreet secret S) :
    course.Starts ctx ∨ r ≠ some (.ok ()) ∧ course.Separates ctx w Call.IsRollback := by
  obtain ⟨rfl, up⟩ | ⟨started, v, up, rest, rfl, up', done⟩ := run.of_bind
  · obtain starts | ⟨-, separates⟩ := startWithRollback_gives up discreet
    · exact .inl starts
    · exact .inr ⟨nofun, separates⟩
  · cases done
    rw [List.append_nil] at discreet ⊢
    obtain starts | ⟨failed, separates⟩ := startWithRollback_gives up' discreet
    · exact .inl starts
    · refine .inr ⟨fun ok => ?_, separates⟩
      cases started with
      | ok => exact failed rfl
      | error => cases ok

/-- The starts of runners have the context that is given. -/
lemma startRunners_gives {runners : List (Runner κ)} {r}
    (run : (startRunners ctx runners).Runs S b w course r u) : course.Starts ctx := by
  have starting : Heeds (Meddles (fun _ => True) none) (fun c t => c.IsStart ∧ t = ctx)
      (startRunners ctx runners : Plan κ υ _) := by
    refine (heeds_tryEach fun c member => ?_).bind fun failed => ?_
    · obtain ⟨i, _, rfl⟩ := List.mem_mapIdx.1 member
      exact ⟨.runner, rfl⟩
    · cases failed with
      | none => exact .done
      | some f => exact .done
  exact starting.gives run

/-- Components and runners start with the context that is given, and a rollback has one of its
own. -/
lemma startParts_gives {r} (run : (startParts ctx parts).Runs S b w course r u)
    (discreet : course.IsDiscreet secret S) :
    course.Starts ctx ∨ r ≠ some (.ok ()) ∧ course.Separates ctx w Call.IsRollback := by
  obtain ⟨rfl, up⟩ | ⟨started, v, up, rest, rfl, up', next⟩ := run.of_bind
  · exact startWithRollback_gives up discreet
  · rw [Course.isDiscreet_append] at discreet
    obtain starts | ⟨failed, separates⟩ := startWithRollback_gives up' discreet.1
    · left
      cases started with
      | error =>
        cases next
        exact Course.gives_append.2 ⟨starts, Course.gives_nil⟩
      | ok => exact Course.gives_append.2 ⟨starts, startRunners_gives next⟩
    · cases started with
      | error =>
        cases next
        exact .inr ⟨nofun, separates.before rfl⟩
      | ok => exact absurd rfl failed

/-- What a teardown calls is a call of a teardown. -/
lemma isTeardown_teardownCalls : ∀ c ∈ teardownCalls parts, c.IsTeardown := by
  intro c member
  rcases mem_teardownCalls.1 member with ⟨i, _, -, rfl⟩ | ⟨i, _, -, rfl⟩ | ⟨i, _, -, rfl⟩
  · exact .runner
  · exact .component
  · exact .hook

/-- A teardown has a token of its own, which is handed out at its beginning. -/
lemma teardown_gives {r} (run : (teardown parts).Runs S b w course r u) :
    course.Gives fun c t => c.IsTeardown ∧ t = ⟨w.tokens.issued⟩ := by
  obtain ⟨v, rest, rfl, -, run⟩ := run.of_freshToken
  rw [Course.gives_own]
  have stopping : Heeds (Meddles (fun _ => True) none)
      (fun c t => c.IsTeardown ∧ t = ⟨w.tokens.issued⟩) (do
        let failures ← callEach Call.note ⟨w.tokens.issued⟩ (teardownCalls parts)
        .ofFlow (Flow.count (.phaseDuration .teardown))
        return Errors.outcome failures : Plan κ υ RunOutcome) := by
    refine (heeds_callEach fun c member => ?_).bind fun _ => heeds_count.bind fun _ => .done
    exact ⟨isTeardown_teardownCalls c member, rfl⟩
  exact stopping.gives run

/-- To publish a phase respects every secret. -/
lemma publish_calm {phase : Phase} :
    (Flow.publish phase : Flow κ υ Unit).Respects (Meddles secret none) :=
  .change fun _ => .of_eq rfl rfl

/-- Before a teardown, the run does not call anything. -/
lemma separates_of_quiet {flow : Flow κ υ α} {f : α → Plan κ υ β} {r}
    {kind : Call κ → Prop} (run : (ofFlow flow >>= f).Runs S b w course r u)
    (calm : flow.Respects (Meddles secret none)) (discreet : course.IsDiscreet secret S)
    (next : ∀ a v rest, Course.IsDiscreet secret S rest → (f a).Runs S b v rest r u →
      Course.Separates ctx v kind rest) :
    course.Separates ctx w kind := by
  obtain ⟨-, none⟩ | ⟨a, v, first, rest, rfl, none, meddles, discreet, run⟩ :=
    run.of_quiet calm discreet
  · exact Course.Starts.separates (Course.gives_of_made_nil none)
  · exact (next a v rest discreet run).after (Course.gives_of_made_nil none) meddles.issued

/-- The starts of a run have the context that is given. The rollback or the teardown has one of its
own. -/
lemma runParts_gives {r} (run : (runParts ctx parts).Runs S b w course r u)
    (discreet : course.IsDiscreet secret S) :
    course.Separates ctx w Call.IsRollback ∨ course.Separates ctx w Call.IsTeardown := by
  obtain ⟨-, none⟩ | ⟨-, v, first, rest, rfl, none, ⟨older, -, -, -⟩, discreet, run⟩ :=
    run.of_quiet publish_calm discreet
  · exact .inl (Course.Starts.separates (Course.gives_of_made_nil none))
  have quiet : Course.Starts ctx first := Course.gives_of_made_nil none
  obtain ⟨rfl, up⟩ | ⟨started, x, up, rest, rfl, up', run⟩ := run.of_bind
  · obtain starts | ⟨-, separates⟩ := startParts_gives up discreet
    · exact .inl (starts.separates.after quiet older)
    · exact .inl (separates.after quiet older)
  rw [Course.isDiscreet_append] at discreet
  cases started with
  | error es =>
    -- what remains is to publish that the run has failed
    have silent : Course.made rest = [] := by
      obtain ⟨y, rest, rfl, -, run⟩ := run.of_change
      cases run
      rfl
    left
    obtain starts | ⟨-, separates⟩ := startParts_gives up' discreet.1
    · exact (starts.separates.before silent).after quiet older
    · exact (separates.before silent).after quiet older
  | ok =>
    right
    have up : Course.Starts ctx up := by
      obtain starts | ⟨failed, -⟩ := startParts_gives up' discreet.1
      · exact starts
      · exact absurd rfl failed
    have older' : v.tokens.issued ≤ x.tokens.issued :=
      (up'.chain careful_startParts discreet.1).issued_le
    -- from the end of the startup to the teardown, four steps call nothing
    refine Course.Separates.after (.after ?_ up older') quiet older
    refine separates_of_quiet run (.change fun _ => .of_eq rfl rfl) discreet.2
      fun _ v₁ rest₁ discreet run => ?_
    refine separates_of_quiet run publish_calm discreet fun _ v₂ rest₂ discreet run => ?_
    refine separates_of_quiet run (.awaitLook fun _ => .refl) discreet
      fun _ v₃ rest₃ discreet run => ?_
    refine separates_of_quiet run publish_calm discreet fun _ v₄ rest₄ discreet run => ?_
    have separates {down t r} (run : (teardown parts).Runs S b v₄ down r t) :
        Course.Separates ctx v₄ Call.IsTeardown down :=
      ⟨⟨v₄.tokens.issued⟩, Nat.le_refl _, (teardown_gives run).mono fun _ _ => .inr⟩
    obtain ⟨rfl, down⟩ | ⟨result, y, down, rest₅, rfl, down', run⟩ := run.of_bind
    · exact separates down
    · obtain ⟨z, rest₆, rfl, -, run⟩ := run.of_change
      cases run
      exact (separates down').before rfl

/-- The starts of a run have its token, and its rollback or its teardown has one of its own. -/
lemma run_gives {r} (run : (run ctx).Runs S b w course r u)
    (discreet : course.IsDiscreet secret S) :
    course.Separates ctx w Call.IsRollback ∨ course.Separates ctx w Call.IsTeardown := by
  have claims : (Activity.step claim : Flow κ υ _).Respects (Meddles secret none) := by
    refine .step fun w => ?_
    unfold claim
    split <;> exact .of_eq rfl rfl
  obtain ⟨-, none⟩ | ⟨got, v, first, rest, rfl, none, ⟨older, -, -, -⟩, discreet, run⟩ :=
    Runs.of_quiet run claims discreet
  · exact .inl (Course.Starts.separates (Course.gives_of_made_nil none))
  have quiet : Course.Starts ctx first := Course.gives_of_made_nil none
  cases got with
  | none =>
    cases run
    exact .inl (Course.Starts.separates (Course.gives_append.2 ⟨quiet, Course.gives_nil⟩))
  | some parts =>
    obtain separates | separates := runParts_gives run discreet
    · exact .inl (separates.after quiet older)
    · exact .inr (separates.after quiet older)

/-! ## Contexts of a shutdown -/

/-- The context for a stop is the one that is given if it is not cancelled. Otherwise it is handed
out. -/
lemma stopContext_cases {given : Option Token} {f : Token → Plan κ υ α} {r}
    (run : (ofFlow (stopContext given) >>= f).Runs S b w course r u) :
    (∃ t v rest, given = some t ∧ w.isCancelled t = false ∧ course = .own w :: rest ∧
      S.between w v ∧ (f t).Runs S b v rest r u) ∨
    ∃ x v rest, course = .own w :: .own x :: rest ∧ S.between w x ∧
      S.between x.freshToken.2 v ∧ (f ⟨x.tokens.issued⟩).Runs S b v rest r u := by
  cases run with
  | @act _ _ _ x rest _ _ move run =>
    dsimp only [Activity.bind] at run
    cases live : given.filter fun t => !w.isCancelled t with
    | none =>
      rw [live] at run
      cases run with
      | act move' run => exact .inr ⟨x, _, _, rfl, move, move', run⟩
    | some t =>
      rw [live] at run
      obtain ⟨here, live⟩ := Option.filter_eq_some_iff.1 live
      exact .inl ⟨t, x, rest, here, by simpa using live, rfl, move, run⟩

/-- The stop of a server is one call, which is made at once. It ends when the call has returned or
is given up. -/
lemma stopServer_made {server : Runner κ} {r}
    (run : (stopServer ctx server).Runs S b w course r u) :
    ∃ outcome v, course.made = [⟨.stopRunner 0 server, ctx, w, outcome, v⟩] ∧
      (r = some () ∨ outcome = none) := by
  cases run with
  | @callWithin _ _ _ _ _ outcome v rest _ _ _ run =>
    have quiet : Course.made rest = [] ∧ r = some () := by
      dsimp only at run
      split at run
      · cases run
        exact ⟨rfl, rfl⟩
      · cases run with
        | act _ run =>
          cases run
          exact ⟨rfl, rfl⟩
      · cases run with
        | act _ run =>
          cases run
          exact ⟨rfl, rfl⟩
    refine ⟨outcome, v, ?_, .inl quiet.2⟩
    rw [Course.made_called, quiet.1]
  | callingWithin => exact ⟨none, u, rfl, .inr rfl⟩

/-- The components are stopped with a token of their own, which is handed out at the beginning. -/
lemma stopComponents_gives {r} (run : (stopComponents stops).Runs S b w course r u) :
    course.Gives fun c t => c.IsStop ∧ t = ⟨w.tokens.issued⟩ := by
  obtain ⟨v, rest, rfl, -, run⟩ := run.of_freshToken
  rw [Course.gives_own]
  have stopping : Heeds (Meddles (fun _ => True) none)
      (fun c t => c.IsStop ∧ t = ⟨w.tokens.issued⟩) (do
        let _ ← callEach noteStop ⟨w.tokens.issued⟩ (stops.mapIdx .stop).reverse
        : Plan κ υ Unit) := by
    refine (Heeds.callEach (fun _ _ _ => meddles_noteStop) fun c member => ?_).bind fun _ => .done
    obtain ⟨i, _, rfl⟩ := List.mem_mapIdx.1 (List.mem_reverse.1 member)
    exact ⟨.intro, rfl⟩
  exact stopping.gives run

/-- The server is stopped at once, and the components with a context that is handed out after
that. -/
lemma stopAll_gives {t : Token} {server : Option (Runner κ)} {r : Option Unit}
    (run : (match server with
      | some server => stopServer t server >>= fun _ => stopComponents stops
      | none => stopComponents stops : Plan κ υ Unit).Runs S b w course r u)
    (discreet : course.IsDiscreet secret S) :
    (∃ own : Token, w.tokens.issued ≤ own.id ∧
        course.Gives fun c t' => c.IsRunnerStop ∧ t' = t ∨ c.IsStop ∧ t' = own) ∧
      ∀ m ∈ course.made, m.call.IsRunnerStop → m.before = w := by
  cases server with
  | none =>
    have gives : course.Gives fun c t => c.IsStop ∧ t = ⟨w.tokens.issued⟩ :=
      stopComponents_gives run
    refine ⟨⟨⟨w.tokens.issued⟩, Nat.le_refl _, gives.mono fun _ _ => .inr⟩, fun m member stop => ?_⟩
    cases stop.not_component (gives m member).1
  | some server =>
    obtain ⟨rfl, here⟩ | ⟨stopped, v, first, rest, rfl, here, run⟩ := run.of_bind
    · obtain ⟨outcome, v, made, -⟩ := stopServer_made here
      refine ⟨⟨⟨w.tokens.issued⟩, Nat.le_refl _, ?_⟩, by simp [made]⟩
      rw [Course.Gives, made, List.forall_mem_singleton]
      exact .inl ⟨.intro, rfl⟩
    · rw [Course.isDiscreet_append] at discreet
      have older : w.tokens.issued ≤ v.tokens.issued :=
        (here.chain careful_stopServer discreet.1).issued_le
      obtain ⟨outcome, x, made, -⟩ := stopServer_made here
      have gives := stopComponents_gives run
      constructor
      · refine ⟨⟨v.tokens.issued⟩, older, Course.gives_append.2 ⟨?_, gives.mono fun _ _ => .inr⟩⟩
        rw [Course.Gives, made, List.forall_mem_singleton]
        exact .inl ⟨.intro, rfl⟩
      · rw [Course.made_append, made, List.forall_mem_append, List.forall_mem_singleton]
        refine ⟨fun _ => rfl, fun m member stop => ?_⟩
        cases stop.not_component (gives m member).1

/-- A shutdown calls its server with a context that was not cancelled when it looked, and its
components with one of their own. -/
lemma shutdown_gives {given : Option Token} {server : Option (Runner κ)} {r}
    (run : (shutdown given server stops).Runs S b w course r u)
    (old : ∀ t, given = some t → t.id < w.tokens.issued) (hides : w.Hides secret)
    (own : ∀ m ∈ course.made, w.tokens.issued ≤ m.ctx.id → secret m.ctx)
    (discreet : course.IsDiscreet secret S) :
    (∃ t own : Token, t.id < own.id ∧ w.tokens.issued ≤ own.id ∧
        course.Gives fun c t' => c.IsRunnerStop ∧ t' = t ∨ c.IsStop ∧ t' = own) ∧
      course.StopsAsSeen S given := by
  obtain ⟨t, v, rest, rfl, live, rfl, move, run⟩ | ⟨x, v, rest, rfl, move, move', run⟩ :=
    stopContext_cases run
  · rw [Course.isDiscreet_own] at discreet
    obtain ⟨⟨fresh, young, gives⟩, at'⟩ := stopAll_gives run discreet
    have older : w.tokens.issued ≤ v.tokens.issued := (discreet.between _ _ move).issued
    refine ⟨⟨t, fresh, ?_, Nat.le_trans older young, gives⟩, fun m member stop => ?_⟩
    · exact Nat.lt_of_lt_of_le (old t rfl) (Nat.le_trans older young)
    · obtain ⟨-, rfl⟩ | ⟨component, -⟩ := gives m member
      · rw [at' m member stop]
        exact .inr ⟨rfl, w, List.mem_cons_self, live, move⟩
      · cases stop.not_component component
  · rw [Course.isDiscreet_own, Course.isDiscreet_own] at discreet
    obtain ⟨⟨fresh, young, gives⟩, at'⟩ := stopAll_gives run discreet
    have older : w.tokens.issued ≤ x.tokens.issued := (discreet.between _ _ move).issued
    have handed : x.tokens.issued < v.tokens.issued := (discreet.between _ _ move').issued
    refine ⟨⟨⟨x.tokens.issued⟩, fresh, ?_, ?_, gives⟩, fun m member stop => ?_⟩
    · exact Nat.lt_of_lt_of_le handed young
    · exact Nat.le_trans older (Nat.le_trans (Nat.le_of_lt handed) young)
    · obtain ⟨-, same⟩ | ⟨component, -⟩ := gives m member
      · have hidden : secret m.ctx := own m member (by rw [same]; exact older)
        have hides : x.Hides secret := hides.meddles (discreet.between _ _ move) nofun
        obtain ⟨down, unexpected⟩ := hides m.ctx hidden (Nat.le_of_eq (by rw [same]))
        -- nobody has the token that was handed out for the server
        have meddles : x.freshToken.2.Meddles secret none v := discreet.between _ _ move'
        rw [at' m member stop, Bool.eq_false_iff, Ne, meddles.isCancelled_iff hidden unexpected]
        exact .inl (Bool.eq_false_iff.1 down)
      · cases stop.not_component component

/-- So it is with the shutdown of a service that is given the token of the service. -/
lemma shutdown_serves {server : Option (Runner κ)} {r}
    (run : (shutdown (some ctx) server stops).Runs S b w course r u)
    (old : ctx.id < w.tokens.issued) (hides : w.Hides secret)
    (own : ∀ m ∈ course.made, w.tokens.issued ≤ m.ctx.id → secret m.ctx)
    (discreet : course.IsDiscreet secret S) : course.Serves S ctx w := by
  obtain ⟨⟨t, own, younger, fresh, gives⟩, live⟩ :=
    shutdown_gives run (fun t given => by cases given; exact old) hides own discreet
  exact ⟨⟨t, own, younger, fresh, gives.mono fun _ _ => .inr⟩, live⟩

/-- From the start of the server on, a service has its own token, and one for the components. -/
lemma serving_gives {server : Runner κ} {signal : Flow κ υ Unit} {r}
    (run : (Plan.call (.startRunner 0 server) ctx .done >>= fun
      | .error cause => return .error (Call.error (.startRunner 0 server) cause)
      | .ok () => do
        .ofFlow signal
        shutdown (some ctx) (some server) stops
        return .ok () : Plan κ υ (Except LifecycleError Unit)).Runs S b w course r u)
    (old : ctx.id < w.tokens.issued)
    (calm : signal.Respects (Meddles secret none)) (hides : w.Hides secret)
    (own : ∀ m ∈ course.made, w.tokens.issued ≤ m.ctx.id → secret m.ctx)
    (discreet : course.IsDiscreet secret S) : course.Serves S ctx w := by
  have starts {outcome v} :
      Course.Starts ctx [.called ⟨.startRunner 0 server, ctx, w, outcome, v⟩] := by
    rw [Course.Starts, Course.gives_called]
    exact ⟨⟨.runner, rfl⟩, Course.gives_nil⟩
  cases run with
  | calling => exact starts.serves old
  | @call _ _ _ _ outcome v rest _ _ made run =>
    have call : w.Meddles secret (some ctx) v := discreet.calls _ List.mem_cons_self
    have old' : ctx.id < v.tokens.issued := Nat.lt_of_lt_of_le old call.issued
    -- the server is a start as well; what comes after it is the service proper
    suffices serves : Course.Serves S ctx v rest from serves.after starts call.issued
    cases outcome with
    | error =>
      cases run
      exact Course.Starts.serves Course.gives_nil old'
    | ok =>
      have hides : v.Hides secret := by
        refine hides.meddles call fun t given => ?_
        cases given
        exact old
      have discreet : Course.IsDiscreet secret S rest :=
        ⟨discreet.between, discreet.meanwhile, fun m member =>
          discreet.calls m (List.mem_cons_of_mem _ member)⟩
      obtain ⟨-, none⟩ | ⟨-, x, first, rest, rfl, none, meddles, discreet, run⟩ :=
        Runs.of_quiet run calm discreet
      · exact Course.Starts.serves (Course.gives_of_made_nil none) old'
      · have serves {r y} (run : (shutdown (some ctx) (some server) stops).Runs S b x rest r y) :
            Course.Serves S ctx x rest := by
          refine shutdown_serves run (Nat.lt_of_lt_of_le old' meddles.issued)
            (hides.meddles meddles nofun) (fun m member young => own m ?_ ?_) discreet
          · rw [Course.made_called, Course.made_append]
            exact List.mem_cons_of_mem _ (List.mem_append_right _ member)
          · exact Nat.le_trans call.issued (Nat.le_trans meddles.issued young)
        refine .after ?_ (Course.gives_of_made_nil none) meddles.issued
        obtain ⟨rfl, down⟩ | ⟨finished, y, down, rest, rfl, down', done⟩ := run.of_bind
        · exact serves down
        · cases done
          exact serves (by rwa [List.append_nil])

/-- The starts of a service share a token of its own. So does its server at the end, unless the
token is cancelled by then. -/
lemma serveUntil_gives {server : Runner κ} {signal : Flow κ υ Unit} {r}
    (run : (serveUntil server starts stops signal).Runs S b w course r u)
    (calm : signal.Respects (Meddles secret none)) (hides : w.Hides secret)
    (own : ∀ m ∈ course.made, w.tokens.issued ≤ m.ctx.id → secret m.ctx)
    (discreet : course.IsDiscreet secret S) :
    course.Separates ⟨w.tokens.issued⟩ w.freshToken.2 Call.IsRollback ∨
      course.Serves S ⟨w.tokens.issued⟩ w.freshToken.2 := by
  obtain ⟨v, rest, rfl, move, run⟩ := run.of_freshToken
  rw [Course.isDiscreet_own] at discreet
  have older : w.freshToken.2.tokens.issued ≤ v.tokens.issued := (discreet.between _ _ move).issued
  have separates {course : Course κ υ}
      (separates : course.Separates ⟨w.tokens.issued⟩ v Call.IsRollback) :
      Course.Separates ⟨w.tokens.issued⟩ w.freshToken.2 Call.IsRollback (.own w :: course) := by
    have quiet : Course.Starts ⟨w.tokens.issued⟩ [.own w] := Course.gives_of_made_nil rfl
    exact separates.after quiet older
  obtain ⟨rfl, up⟩ | ⟨started, x, up, rest, rfl, up', run⟩ := run.of_bind
  · obtain starts | ⟨-, undoes⟩ := start_gives up discreet
    · exact .inl (separates starts.separates)
    · exact .inl (separates undoes)
  rw [Course.isDiscreet_append] at discreet
  obtain starts | ⟨failed, undoes⟩ := start_gives up' discreet.1
  · cases started with
    | error =>
      cases run
      exact .inl (separates (starts.separates.before rfl))
    | ok =>
      right
      have handed : w.Meddles secret none v :=
        Meddles.freshToken.trans (discreet.1.between _ _ move)
      have chain : Chain secret v up.made x := up'.chain careful_start discreet.1
      -- the starts had no token but the one of the service
      have hides : x.Hides secret := by
        refine chain.hides (fun m member => ?_) (hides.meddles handed nofun)
        rw [(starts m member).2]
        exact older
      have issued : w.tokens.issued < x.tokens.issued := Nat.lt_of_lt_of_le older chain.issued_le
      have serves : Course.Serves S ⟨w.tokens.issued⟩ x rest := by
        refine serving_gives run issued calm hides (fun m member young => own m ?_ ?_) discreet.2
        · rw [Course.made_own, Course.made_append]
          exact List.mem_append_right _ member
        · exact Nat.le_trans (Nat.le_of_lt issued) young
      have starts : Course.Starts ⟨w.tokens.issued⟩ (.own w :: up) := Course.gives_own.2 starts
      exact serves.after starts issued
  · cases started with
    | error =>
      cases run
      exact .inl (separates (undoes.before rfl))
    | ok => exact absurd rfl failed

end Lifecycle

end Supervision
