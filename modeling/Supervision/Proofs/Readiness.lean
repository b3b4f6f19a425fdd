import Supervision.Http.Router
import Supervision.Proofs.Phases

/-!
# Readiness and phases

A request for readiness takes the phase when it arrives, and then waits for its checks. `Probed` is
an orchestrator with any number of runs and any number of such requests, in every order of their
steps; a `Probe` keeps the world that it met. `readiness` says what an answer depends on: the phase
at the arrival and the results of the checks. So an answer may say yes once the teardown has begun,
as it does in `ready_once_stopped`, but only where the run was cancelled during the checks.
-/

namespace Supervision
open Lifecycle Http

variable {κ υ α β γ : Type}

/-! ## Flows that leave the phases alone -/

/-- A flow that changes no phase as long as it does not come to have the orchestrator itself, and
whose results satisfy `Q`. -/
inductive Lodger (Q : α → Prop) : Flow κ υ α → Prop where
  | done {a} :
    Q a →
    Lodger Q (.done a)
  | act {change next} :
    (∀ w : World κ υ, (change w).orchestrator.claimed = w.orchestrator.claimed →
      w.SamePhases (change w)) →
    (∀ w : World κ υ, (change w).orchestrator.claimed = w.orchestrator.claimed →
      Lodger Q (next w)) →
    Lodger Q (.act change next)
  | wait {trigger next} :
    (∀ w : World κ υ, Lodger Q (next w)) →
    Lodger Q (.wait trigger next)

namespace Lodger

variable {P : α → Prop} {Q : β → Prop} {R : γ → Prop}

/-- A step that leaves the orchestrator alone is one of a lodger. -/
lemma own {change : World κ υ → World κ υ} {next : World κ υ → Flow κ υ β}
    (same : ∀ w, (change w).orchestrator = w.orchestrator) (rest : ∀ w, Lodger Q (next w)) :
    Lodger Q (.act change next) :=
  .act (fun w _ => .of_eq (same w)) fun w _ => rest w

/-- One lodger after another is a lodger. -/
lemma bind {p : Flow κ υ α} {f : α → Flow κ υ β} (first : Lodger P p)
    (rest : ∀ a, P a → Lodger Q (f a)) : Lodger Q (p.bind f) := by
  induction first with
  | done result => exact rest _ result
  | act keeps _ ih => exact .act keeps ih
  | wait _ ih => exact .wait ih

/-- A run that would come to have the orchestrator is no case. -/
lemma of_visitor {p : Flow κ υ γ} (visitor : Visitor p) : Lodger (fun _ => True) p := by
  induction visitor with
  | done => exact .done trivial
  | own same _ ih => exact .own same ih
  | wait _ ih => exact .wait ih
  | register _ ih => exact .act (fun w _ => World.samePhases_registerIn _) fun w _ => ih _
  | run _ ih =>
    rw [run_eq]
    have late {w : World κ υ}
        (same : (claim w).2.orchestrator.claimed = w.orchestrator.claimed) :
        claim w = (none, w) := by
      cases claimed : w.orchestrator.claimed with
      | true => exact claim_claimed claimed
      | false =>
        rw [claim_unclaimed claimed, claimed] at same
        cases same
    refine .act (fun w same => ?_) fun w same => ?_
    · rw [late same]
      exact .of_eq rfl
    · dsimp only
      rw [late same]
      exact ih _

/-- A lodger that goes on while another one waits is a lodger. -/
lemma behind {trigger : Trigger (World κ υ)} {resume : World κ υ → Flow κ υ β → Flow κ υ γ}
    {ended : β → Flow κ υ γ} {p : Flow κ υ β} (lodger : Lodger Q p)
    (resumes : ∀ w q, Lodger Q q → Lodger R (resume w q))
    (ends : ∀ b, Q b → Lodger R (ended b)) : Lodger R (Activity.behind trigger resume ended p) := by
  induction lodger with
  | done result => exact ends _ result
  | act keeps _ ih => exact .act keeps ih
  | wait next ih =>
    refine .wait fun w => ?_
    split
    · exact resumes w _ (.wait next)
    · exact ih w

/-- Two lodgers in turn are a lodger. -/
lemma merge {leftEnded : α → Flow κ υ β → Flow κ υ γ} {rightEnded : Flow κ υ α → β → Flow κ υ γ}
    {p : Flow κ υ α} {q : Flow κ υ β} (left : Lodger P p) (right : Lodger Q q)
    (leftEnds : ∀ a q, P a → Lodger Q q → Lodger R (leftEnded a q))
    (rightEnds : ∀ p b, Lodger P p → Q b → Lodger R (rightEnded p b)) :
    Lodger R (Activity.merge leftEnded rightEnded p q) := by
  induction left generalizing q with
  | done result => exact leftEnds _ q result right
  | act keeps _ ih => exact .act keeps fun w same => ih w same right
  -- the left side waits, so the right one goes on
  | wait next ih =>
    exact right.behind (fun w q right => ih w right) fun b => rightEnds _ b (.wait next)

/-- Two lodgers side by side are a lodger. -/
lemma pair {p : Flow κ υ α} {q : Flow κ υ β} (left : Lodger P p) (right : Lodger Q q) :
    Lodger (fun r : α × β => P r.1 ∧ Q r.2) (Activity.pair p q) :=
  left.merge right
    (fun _ _ result right => right.bind fun _ result' => .done ⟨result, result'⟩)
    (fun _ _ left result' => left.bind fun _ result => .done ⟨result, result'⟩)

/-- As long as it does not come to have the orchestrator, a lodger leaves its phase as it is. -/
lemma advance {p q : Flow κ υ α} {w w' : World κ υ} (lodger : Lodger P p) (step : p.Advance w q w')
    (same : w'.orchestrator.claimed = w.orchestrator.claimed) :
    Lodger P q ∧ w.SamePhases w' := by
  cases lodger with
  | done => cases step
  | act keeps rest =>
    cases step with
    | act => exact ⟨rest w same, keeps w same⟩
  | wait rest =>
    cases step with
    | resume => exact ⟨rest w, .of_eq rfl⟩

end Lodger

/-! ## Answers -/

namespace Http

/-- What a request for readiness can be answered that met this world. -/
def Answers (w : World κ υ) (r : Response) : Prop :=
  ∃ results : List CheckResult,
    results.map (·.name) = w.orchestrator.health.readiness.map (·.1) ∧
    r = respond ((HealthResponse.ofResults results).inPhase (some w.orchestrator.phase))

/-- The answer is yes if and only if the service runs and no check has failed. -/
lemma status_eq_200_iff {results : List CheckResult} {φ : Phase} :
    (respond ((HealthResponse.ofResults results).inPhase (some φ))).status = 200 ↔
      φ = .running ∧ ∀ result ∈ results, result.error = none := by
  have healthy : (respond ((HealthResponse.ofResults results).inPhase (some φ))).status = 200 ↔
      ((HealthResponse.ofResults results).inPhase (some φ)).isHealthy = true := by
    rw [respond, Response.json]
    cases ((HealthResponse.ofResults results).inPhase (some φ)).isHealthy with
    | true => simp
    | false => simp
  rw [healthy]
  by_cases running : φ = .running
  · simp [HealthResponse.inPhase, HealthResponse.ofResults, HealthResponse.isHealthy, running]
  · simp [HealthResponse.inPhase, HealthResponse.isHealthy, running]

variable {b : Behaviour κ υ} {side : HealthSide} {ctx : Token}

/-- A check lodges if the callbacks are visitors, and its result has its name. -/
lemma lodger_runCheck (visitors : ∀ handle t, Visitor (b handle t)) (name : String)
    (check : Callback κ) :
    Lodger (fun result => result.name = name) (Health.runCheck b side ctx name check) := by
  have called : Lodger (fun _ => True) (check.call b ctx) := by
    cases check with
    | none => exact .done trivial
    | some handle => exact .of_visitor (visitors handle ctx)
  refine called.bind fun outcome _ => ?_
  cases outcome with
  | ok => exact .done rfl
  | error cause => exact .own (fun _ => rfl) fun _ => .own (fun _ => rfl) fun _ => .done rfl

/-- Checks side by side lodge, and their results have their names in order. -/
lemma lodger_all (visitors : ∀ handle t, Visitor (b handle t)) (checks : NameMap (Callback κ)) :
    Lodger (fun results => results.map (·.name) = checks.map (·.1))
      (Activity.all (checks.map fun c => Health.runCheck b side ctx c.1 c.2)) := by
  induction checks with
  | nil => exact .done rfl
  | cons c checks ih =>
    refine ((lodger_runCheck visitors c.1 c.2).pair ih).bind fun results named => .done ?_
    rw [List.map_cons, List.map_cons, named.1, named.2]

/-- All checks of a side lodge, and the response is that of their results. -/
lemma lodger_runChecks (visitors : ∀ handle t, Visitor (b handle t))
    (checks : NameMap (Callback κ)) :
    Lodger
      (fun response => ∃ results : List CheckResult,
        results.map (·.name) = checks.map (·.1) ∧ response = .ofResults results)
      (Health.runChecks b side checks) :=
  .own (fun _ => rfl) fun _ => (lodger_all visitors checks).bind fun results named =>
    .done ⟨results, named, rfl⟩

/-- A request takes the phase and the checks in one step. -/
lemma arrives {target : String} {w w' : World κ υ} {p : Flow κ υ Response}
    (visitors : ∀ handle t, Visitor (b handle t))
    (route : Route.ofPath? (pathOf target) = some .ready)
    (step : (Router.handle ⟨true, true⟩ b "GET" target).Advance w p w') :
    w' = w ∧ Lodger (Answers w) p := by
  have ready : Router.handle ⟨true, true⟩ b "GET" target = Router.ready ⟨true, true⟩ b := by
    rw [Router.handle, route]
    rfl
  rw [ready] at step
  cases step with
  | act =>
    refine ⟨rfl, (lodger_runChecks visitors w.orchestrator.health.readiness).bind ?_⟩
    rintro response ⟨results, named, rfl⟩
    exact .done ⟨results, named, rfl⟩

end Http

/-! ## Phases of a system -/

/-- Of a run that has been running, the phase is one from then on. -/
lemma Phase.of_running_prefix {φ : Phase} (later : Phase.running.path <+: φ.path) :
    φ = .running ∨ φ = .stopping ∨ φ = .stopped := by
  revert later
  cases φ <;> decide

/-- The phases up to a phase determine it. -/
lemma Phase.path_inj {φ ψ : Phase} (same : φ.path = ψ.path) : φ = ψ := by
  revert same
  cases φ <;> cases ψ <;> decide

/-- The present phase is the last one of the path. -/
lemma World.phase_of_path {w : World κ υ} {φ : Phase} (path : w.orchestrator.published = φ.path) :
    w.orchestrator.phase = φ := by
  have last : w.orchestrator.published.getLast? = some w.orchestrator.phase :=
    List.getLast?_concat
  rw [path] at last
  cases φ <;> exact (Option.some.inj last).symm

/-- A step of the run that leads takes back no phase. -/
lemma Performance.IsAt.grows {P Q : Performance κ υ RunOutcome} {w w' : World κ υ} {φ : Phase}
    (here : P.IsAt φ) (world : w.IsIn φ) (step : P.Step w Q w') :
    w.orchestrator.published <+: w'.orchestrator.published := by
  cases step with
  | act =>
    cases here with
    | plan phased =>
      cases phased with
      | own same _ =>
        simp only [same w, List.prefix_rfl]
      | @publish φ ψ _ _ _ => exact ⟨[ψ], rfl⟩
  | resume _ => exact List.prefix_rfl
  | part step =>
    cases here with
    | part _ guest =>
      have stays : w'.orchestrator.published = φ.path := (guest.advance world step).2.published
      simp only [world.published, stays, List.prefix_rfl]

namespace System

variable {b : Behaviour κ υ} {S T : System κ υ} {who : Option Nat}

/-- What has been published stays published. -/
lemma IsLed.grows {i : Nat} {first : Performance κ υ RunOutcome} {φ : Phase}
    (visitors : ∀ handle t, Visitor (b handle t)) (led : S.IsLed i first φ)
    (step : S.Step b who T) : S.published <+: T.published := by
  by_cases same : T.published = S.published
  · simp only [same, List.prefix_rfl]
  · have leads : who = some i := (led.step visitors step).2 same
    cases step with
    | call => cases leads
    | register => cases leads
    | elsewhere => cases leads
    | turn => exact absurd rfl same
    | go place step =>
      cases leads
      cases led.here.symm.trans place
      exact led.first.grows led.world step

/-- The phases of an orchestrator are in order: no run has begun, or one has the orchestrator. -/
def InOrder (S : System κ υ) : Prop :=
  S.IsWaiting ∨ ∃ i first φ, S.IsLed i first φ

/-- Where phases are in order, those published form a path. -/
lemma InOrder.path (order : S.InOrder) : ∃ φ : Phase, S.published = φ.path := by
  rcases order with waiting | ⟨i, first, φ, led⟩
  · exact ⟨.configuring, waiting.published⟩
  · exact ⟨φ, led.world.published⟩

/-- A step keeps the phases in order, and takes back none. -/
lemma InOrder.step (visitors : ∀ handle t, Visitor (b handle t)) (order : S.InOrder)
    (step : S.Step b who T) : T.InOrder ∧ S.published <+: T.published := by
  rcases order with waiting | ⟨i, first, φ, led⟩
  · obtain ⟨same, next⟩ := waiting.step step
    rw [same]
    refine ⟨?_, List.prefix_rfl⟩
    rcases next with waiting | ⟨i, first, led⟩
    · exact .inl waiting
    · exact .inr ⟨i, first, _, led⟩
  · obtain ⟨next, ψ, led'⟩ := (led.step visitors step).1
    exact ⟨.inr ⟨i, next, ψ, led'⟩, led.grows visitors step⟩

/-- Phases stay in order as long as nobody publishes anything. -/
lemma InOrder.of_same {w : World κ υ} (order : S.InOrder) (same : S.world.SamePhases w) :
    InOrder ⟨S.runs, w⟩ := by
  rcases order with waiting | ⟨i, first, φ, led⟩
  · exact .inl ⟨same.claimed.trans waiting.unclaimed, same.published.trans waiting.published,
      waiting.idle⟩
  · exact .inr ⟨i, first, φ, led.of_same same⟩

end System

/-! ## Requests for readiness -/

/-- A request for readiness: the world that it met, and what remains of its answer. -/
structure Probe (κ υ : Type) where
  met : World κ υ
  rest : Flow κ υ Response

/-- The runs of an orchestrator with the world around it, and the requests that have arrived. -/
structure Probed (κ υ : Type) extends System κ υ where
  probes : List (Probe κ υ)

namespace Probed

/-- The system goes on, a request for readiness arrives at the router of the orchestrator, or one
goes on. No check runs the orchestrator itself before anything else has. -/
inductive Step (b : Behaviour κ υ) (S : Probed κ υ) : Probed κ υ → Prop where
  | system {who T} :
    S.toSystem.Step b who T →
    Step b S ⟨T, S.probes⟩
  | arrive {target p w} :
    Route.ofPath? (pathOf target) = some .ready →
    (Router.handle ⟨true, true⟩ b "GET" target).Advance S.world p w →
    Step b S ⟨⟨S.runs, w⟩, S.probes ++ [⟨S.world, p⟩]⟩
  | goOn {i probe p w} :
    S.probes[i]? = some probe →
    probe.rest.Advance S.world p w →
    w.orchestrator.claimed = S.world.orchestrator.claimed →
    Step b S ⟨⟨S.runs, w⟩, S.probes.set i ⟨probe.met, p⟩⟩

/-- Any number of steps. -/
inductive Reaches (b : Behaviour κ υ) (S : Probed κ υ) : Probed κ υ → Prop where
  | refl :
    Reaches b S S
  | tail {T U} :
    Reaches b S T →
    T.Step b U →
    Reaches b S U

/-- A request is answered by what it met, and it met an earlier world. -/
structure IsSound (S : Probed κ υ) (probe : Probe κ υ) : Prop where
  answers : Lodger (Answers probe.met) probe.rest
  path : ∃ φ : Phase, probe.met.orchestrator.published = φ.path
  earlier : probe.met.orchestrator.published <+: S.published

variable {b : Behaviour κ υ} {S T : Probed κ υ}

/-- What a probe met remains an earlier world. -/
lemma IsSound.later {probe : Probe κ υ} (sound : S.IsSound probe)
    (grows : S.published <+: T.published) : T.IsSound probe :=
  ⟨sound.answers, sound.path, sound.earlier.trans grows⟩

/-- A step keeps the phases in order and the probes sound. -/
lemma step_sound (visitors : ∀ handle t, Visitor (b handle t)) (order : S.InOrder)
    (sound : ∀ probe ∈ S.probes, S.IsSound probe) (step : S.Step b T) :
    T.InOrder ∧ ∀ probe ∈ T.probes, T.IsSound probe := by
  cases step with
  | system step =>
    obtain ⟨order, grows⟩ := order.step visitors step
    exact ⟨order, fun probe member => (sound probe member).later grows⟩
  | arrive route step =>
    obtain ⟨rfl, answers⟩ := arrives visitors route step
    refine ⟨order, fun probe member => ?_⟩
    rcases List.mem_append.1 member with old | new
    · exact (sound probe old).later List.prefix_rfl
    · rw [List.mem_singleton.1 new]
      exact ⟨answers, order.path, List.prefix_rfl⟩
  | @goOn i probe p w here step claimed =>
    have probed : S.IsSound probe := sound probe (List.mem_of_getElem? here)
    obtain ⟨answers, same⟩ := probed.answers.advance step claimed
    have grows : S.published <+: w.orchestrator.published := by
      simp only [System.published, same.published, List.prefix_rfl]
    refine ⟨order.of_same same, fun probe' member => ?_⟩
    rcases List.mem_or_eq_of_mem_set member with old | rfl
    · exact (sound probe' old).later grows
    · exact ⟨answers, probed.path, probed.earlier.trans grows⟩

/-- Phases are in order and probes sound after any number of steps. -/
lemma Reaches.sound (visitors : ∀ handle t, Visitor (b handle t)) (order : S.InOrder)
    (none : S.probes = []) (reaches : S.Reaches b T) :
    T.InOrder ∧ ∀ probe ∈ T.probes, T.IsSound probe := by
  induction reaches with
  | refl =>
    rw [none]
    exact ⟨order, nofun⟩
  | tail _ step ih => exact step_sound visitors ih.1 ih.2 step

/-- Whatever runs, registrations, callbacks and requests do, a request for readiness is answered by
the phase that it met and the results of its checks: yes if and only if the service ran when it
arrived and no check failed. When it is answered yes, the service runs, or its teardown has begun
or ended; it runs if and only if nothing has been published since the arrival. -/
theorem readiness {w : World κ υ} (visitors : ∀ handle t, Visitor (b handle t))
    (unclaimed : w.orchestrator.claimed = false)
    (fresh : w.orchestrator.published = [.configuring]) (reaches : Reaches b ⟨⟨[], w⟩, []⟩ S)
    {probe : Probe κ υ} {r : Response} (here : probe ∈ S.probes) (answered : probe.rest = .done r) :
    (∃ results : List CheckResult,
      results.map (·.name) = probe.met.orchestrator.health.readiness.map (·.1) ∧
      r = respond ((HealthResponse.ofResults results).inPhase (some probe.met.orchestrator.phase)) ∧
      (r.status = 200 ↔
        probe.met.orchestrator.phase = .running ∧ ∀ result ∈ results, result.error = none)) ∧
    probe.met.orchestrator.published <+: S.published ∧
    (r.status = 200 →
      (S.world.orchestrator.phase = .running ∨ S.world.orchestrator.phase = .stopping ∨
        S.world.orchestrator.phase = .stopped) ∧
      (S.world.orchestrator.phase = .running ↔
        S.published = probe.met.orchestrator.published)) := by
  have start : System.InOrder ⟨[], w⟩ := .inl ⟨unclaimed, fresh, nofun⟩
  obtain ⟨order, sound⟩ := reaches.sound visitors start rfl
  obtain ⟨answers, ⟨φ, met⟩, earlier⟩ := sound probe here
  obtain ⟨ψ, now⟩ := order.path
  have metPhase : probe.met.orchestrator.phase = φ := World.phase_of_path met
  have nowPhase : S.world.orchestrator.phase = ψ := World.phase_of_path now
  rw [answered] at answers
  cases answers with
  | done answers =>
    obtain ⟨results, named, rfl⟩ := answers
    refine ⟨⟨results, named, rfl, status_eq_200_iff⟩, earlier, fun yes => ?_⟩
    obtain ⟨running, -⟩ := status_eq_200_iff.1 yes
    obtain rfl : φ = .running := metPhase.symm.trans running
    rw [met, now] at earlier
    rw [nowPhase, now, met]
    refine ⟨Phase.of_running_prefix earlier, fun running => ?_, fun same => Phase.path_inj same⟩
    rw [running]

/-- A check that gives way once. -/
def yielding : Behaviour Unit Unit :=
  fun _ _ => .wait .always fun _ => .done (.ok ())

/-- An orchestrator with this check for readiness alone. -/
def checked : Orchestrator Unit where
  health := { readiness := [("slow", some ())] }

/-- A request that arrives while the service runs, and is answered after the teardown. -/
theorem readiness_yielding :
    ∃ S : Probed Unit Unit,
      Reaches yielding ⟨⟨[], (World.around checked).cancel ⟨0⟩⟩, []⟩ S ∧
      S.world.orchestrator.phase = .stopped ∧
      ∃ probe ∈ S.probes, ∃ r, probe.rest = .done r ∧ r.status = 200 ∧
        probe.met.orchestrator.phase = .running ∧
        S.published ≠ probe.met.orchestrator.published := by
  obtain ⟨S, reaches, stopped, probe, here, r, answered, yes⟩ : ∃ S : Probed Unit Unit,
      Reaches yielding ⟨⟨[], (World.around checked).cancel ⟨0⟩⟩, []⟩ S ∧
      S.world.orchestrator.phase = .stopped ∧
      ∃ probe ∈ S.probes, ∃ r, probe.rest = .done r ∧ r.status = 200 := by
    have called : Reaches yielding ⟨⟨[], (World.around checked).cancel ⟨0⟩⟩, []⟩
        ⟨⟨[.plan (run ⟨0⟩)], (World.around checked).cancel ⟨0⟩⟩, []⟩ := .tail .refl (.system .call)
    have starts := (called.tail (.system (.go (i := 0) rfl .act))).tail
      (.system (.go (i := 0) rfl .act))
    have runs := ((starts.tail (.system (.go (i := 0) rfl .act))).tail
      (.system (.go (i := 0) rfl .act))).tail (.system (.go (i := 0) rfl .act))
    have route : Route.ofPath? (pathOf "/readyz") = some .ready := by decide
    have asks := (runs.tail (.arrive route .act)).tail (.goOn (i := 0) rfl .act rfl)
    have stops := (asks.tail (.system (.go (i := 0) rfl .act))).tail
      (.system (.go (i := 0) rfl .act))
    have downs := ((stops.tail (.system (.go (i := 0) rfl .act))).tail
      (.system (.go (i := 0) rfl .act))).tail (.system (.go (i := 0) rfl .act))
    have answers := downs.tail (.goOn (i := 0) rfl (.resume rfl) rfl)
    exact ⟨_, answers, rfl, _, List.mem_cons_self, _, rfl, rfl⟩
  have sound := readiness (fun _ _ => .wait fun _ => .done) rfl rfl reaches here answered
  obtain ⟨⟨results, -, -, healthy⟩, -, afterwards⟩ := sound
  refine ⟨S, reaches, stopped, probe, here, r, answered, yes, (healthy.1 yes).1, fun same => ?_⟩
  have running := ((afterwards yes).2.2 same).symm.trans stopped
  cases running

end Probed

/-! ## By the clock -/

/-- A check that cancels the run and takes some time. -/
def cancelling : Behaviour Unit Unit := fun _ _ => do
  Activity.change (World.cancel ⟨0⟩)
  Flow.sleep 10
  return .ok ()

/-- A request for readiness, and the phase when it is answered. -/
def asked : Flow Unit Unit (Nat × Phase) := do
  let r ← Router.handle ⟨true, true⟩ cancelling "GET" "/readyz"
  let φ ← Activity.look fun w => w.orchestrator.phase
  return (r.status, φ)

/-- The answer is yes though the teardown has begun and ended. -/
theorem ready_once_stopped :
    (World.clockwork.run 10 (Activity.pair ((run ⟨0⟩).perform cancelling) asked)
      (World.around Probed.checked)).1.map (·.2) = some (200, .stopped) := by
  decide +kernel

end Supervision
