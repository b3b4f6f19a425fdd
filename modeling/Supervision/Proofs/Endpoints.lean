import Supervision.Http.Router
import Supervision.Proofs.Checkup

/-!
# Health endpoints

What the endpoints for liveness and readiness answer. Liveness depends on its checks alone.
Readiness depends on its checks and on the phase at the arrival of the request, and the phase comes
first: a service that does not run is unavailable, however its checks end (`health_endpoint`).
-/

namespace Supervision.Http
open Activity Health

variable {κ υ : Type} {b : Behaviour κ υ} {side : HealthSide} {router : Router} {target : String}
  {w u : World κ υ} {phase? : Option Phase} {checks : NameMap (Callback κ)}
  {outcomes : List Outcome}

/-- The side that a path asks about. -/
def askedSide? (path : String) : Option HealthSide :=
  if path = "/healthz" || path = "/livez" then some .liveness
  else if path = "/readyz" then some .readiness
  else none

/-- The phase on which the answer about a side depends. -/
def Router.decisive? (router : Router) (side : HealthSide) (w : World κ υ) : Option Phase :=
  match side with
  | .liveness => none
  | .readiness => router.phase? w

/-- A request for a health endpoint runs the checks that it meets, and answers by the phase that it
meets. -/
lemma handle_asked (asks : askedSide? (pathOf target) = some side) :
    router.handle b "GET" target =
      .act id fun w => (runChecks b side (router.checks side w)).bind fun response =>
        .done (respond (response.inPhase (router.decisive? side w))) := by
  unfold askedSide? at asks
  split at asks
  next live =>
    cases asks
    -- liveness has two paths, and no route before it has either of them
    have route : Route.ofPath? (pathOf target) = some .live := by
      rw [Route.ofPath?, if_pos live, if_neg]
      rw [Bool.or_eq_true, decide_eq_true_iff, decide_eq_true_iff] at live
      rcases live with live | live <;> rw [live] <;> decide
    rw [Router.handle, route]
    rfl
  next notLive =>
    split at asks
    next ready =>
      cases asks
      have route : Route.ofPath? (pathOf target) = some .ready := by
        rw [Route.ofPath?, if_neg notLive, if_pos ready, if_neg]
        rw [ready]
        decide
      rw [Router.handle, route]
      rfl
    next => cases asks

/-- The decisive phase is known, and the service does not run in it. -/
def IsAway (phase? : Option Phase) : Prop :=
  ∃ φ, phase? = some φ ∧ φ ≠ .running

/-- What an answer says by the decisive phase and the outcomes of the checks. -/
structure Verdict (phase? : Option Phase) (checks : NameMap (Callback κ))
    (outcomes : List Outcome) (response : HealthResponse) : Prop where
  results : response.results = resultsOf checks outcomes
  names : response.results.map (·.name) = checks.map Prod.fst
  phase : response.phase = phase?
  unavailable : response.status = .unavailable ↔ IsAway phase?
  degraded : response.status = .degraded ↔ ¬IsAway phase? ∧ ∃ cause, .error cause ∈ outcomes
  ok : response.status = .ok ↔ ¬IsAway phase? ∧ ∀ o ∈ outcomes, o = .ok ()

/-- An answer without a phase gets the one that it is put in. -/
lemma phase_inPhase {r : HealthResponse} (unknown : r.phase = none) :
    (r.inPhase phase?).phase = phase? := by
  cases phase? with
  | none => exact unknown
  | some φ => rfl

/-- A phase does not change the results. -/
lemma results_inPhase (phase? : Option Phase) (r : HealthResponse) :
    (r.inPhase phase?).results = r.results := by
  cases phase? <;> rfl

/-- The phase comes first. -/
lemma status_inPhase_away {r : HealthResponse} (away : IsAway phase?) :
    (r.inPhase phase?).status = .unavailable := by
  obtain ⟨φ, rfl, stands⟩ := away
  exact if_neg stands

/-- A phase in which the service runs does not change the status. -/
lemma status_inPhase {r : HealthResponse} (present : ¬IsAway phase?) :
    (r.inPhase phase?).status = r.status := by
  cases phase? with
  | none => rfl
  | some φ =>
    have runs : φ = .running := by
      by_contra stands
      exact present ⟨φ, rfl, stands⟩
    exact if_pos runs

/-- The results alone never tell that the service is unavailable. -/
lemma status_ofResults_cases (results : List CheckResult) :
    (HealthResponse.ofResults results).status = .ok ∨
      (HealthResponse.ofResults results).status = .degraded := by
  rw [HealthResponse.ofResults]
  split
  · exact .inr rfl
  · exact .inl rfl

/-- Some check fails if not all of them succeed. -/
lemma exists_error_iff : (∃ cause, .error cause ∈ outcomes) ↔ ¬∀ o ∈ outcomes, o = .ok () := by
  constructor
  · rintro ⟨cause, member⟩ passed
    cases passed _ member
  · intro failed
    simp only [not_forall] at failed
    obtain ⟨o, member, failed⟩ := failed
    cases o with
    | ok => exact absurd rfl failed
    | error cause => exact ⟨cause, member⟩

/-- An answer that is put in a phase gives the verdict on it and on the outcomes. -/
lemma verdict_inPhase {R : String × Callback κ → Outcome → Prop} (phase? : Option Phase)
    (ends : List.Forall₂ R checks outcomes) :
    Verdict phase? checks outcomes
      ((HealthResponse.ofResults (resultsOf checks outcomes)).inPhase phase?) := by
  have results := results_inPhase phase? (.ofResults (resultsOf checks outcomes))
  have names := (congrArg (List.map (·.name)) results).trans (names_resultsOf ends)
  have passed := status_ofResults ends
  by_cases away : IsAway phase?
  · have status := status_inPhase_away (r := .ofResults (resultsOf checks outcomes)) away
    refine ⟨results, names, phase_inPhase rfl, iff_of_true status away, ?_, ?_⟩ <;>
      rw [status] <;> simp [away]
  · have status := status_inPhase (r := .ofResults (resultsOf checks outcomes)) away
    have failed := not_congr passed
    rw [← exists_error_iff] at failed
    refine ⟨results, names, phase_inPhase rfl, ?_, ?_, ?_⟩ <;> rw [status]
    · obtain ok | degraded := status_ofResults_cases (resultsOf checks outcomes)
      · simp [ok, away]
      · simp [degraded, away]
    · rw [← failed, and_iff_right away]
      obtain ok | degraded := status_ofResults_cases (resultsOf checks outcomes)
      · simp [ok]
      · simp [degraded]
    · rw [passed, and_iff_right away]

/-- A health endpoint answers by the outcomes of the checks that the request meets and the phase
that it meets, whatever else goes on. -/
lemma handle_answers {S : Setting (World κ υ)} {r : Response}
    (asks : askedSide? (pathOf target) = some side)
    (run : (router.handle b "GET" target).Runs S w (some r) u) :
    ∃ ctx outcomes,
      List.Forall₂ (fun c o => (c.2.call b ctx).MayEnd o) (router.checks side w) outcomes ∧
      r = respond ((HealthResponse.ofResults (resultsOf (router.checks side w) outcomes)).inPhase
        (router.decisive? side w)) := by
  rw [handle_asked asks] at run
  cases run with
  | act _ run =>
    obtain ⟨⟨⟩, -⟩ | ⟨response, v, run, rest⟩ := runs_bind_iff.1 run
    cases rest
    obtain ⟨ctx, outcomes, ends, rfl⟩ := runChecks_ends run
    exact ⟨ctx, outcomes, ends, rfl⟩

/-- Whatever else goes on, the answer of a health endpoint follows from the outcomes of the checks
that the request meets, and for readiness from the phase that it meets. If the checks end, there is
an answer. If every check has an outcome of its own, two requests that meet the same checks and the
same decisive phase get the same answer. -/
theorem health_endpoint (asks : askedSide? (pathOf target) = some side) :
    (∀ {S : Setting (World κ υ)} {r u}, (router.handle b "GET" target).Runs S w (some r) u →
      ∃ ctx outcomes response,
        List.Forall₂ (fun c o => (c.2.call b ctx).MayEnd o) (router.checks side w) outcomes ∧
        response = (HealthResponse.ofResults (resultsOf (router.checks side w) outcomes)).inPhase
          (router.decisive? side w) ∧
        Verdict (router.decisive? side w) (router.checks side w) outcomes response ∧
        r = .json (if response.status = .ok then 200 else 503) response.body) ∧
    (∀ {duration : κ → Nat} {horizon}, Durations duration b →
      w.now + slowest duration (router.checks side w) ≤ horizon →
      ∃ r u, World.clockwork.run horizon (router.handle b "GET" target) w = (some r, u) ∧
        u.now = w.now + slowest duration (router.checks side w)) ∧
    (∀ {outcome : κ → Outcome} {b' : Behaviour κ υ} {other : Router} {target' : String}
      {w' : World κ υ} {S S' : Setting (World κ υ)} {r r' u u'},
      (∀ handle ctx o, (b handle ctx).MayEnd o ∨ (b' handle ctx).MayEnd o → o = outcome handle) →
      askedSide? (pathOf target') = some side →
      other.checks side w' = router.checks side w →
      other.decisive? side w' = router.decisive? side w →
      (router.handle b "GET" target).Runs S w (some r) u →
      (other.handle b' "GET" target').Runs S' w' (some r') u' → r' = r) := by
  refine ⟨fun run => ?_, fun durations enough => ?_, fun determined asks' checks phase run run' => ?_⟩
  · obtain ⟨ctx, outcomes, ends, rfl⟩ := handle_answers asks run
    refine ⟨ctx, outcomes, _, ends, rfl, verdict_inPhase _ ends, ?_⟩
    simp [respond, HealthResponse.isHealthy]
  · have lasts : (runChecks b side (router.checks side w)).Lasts World.now _ w.now :=
      lasts_runChecks durations
    obtain ⟨r, u, run, now⟩ := World.run_lasts (lasts.map (f := fun response =>
      respond (response.inPhase (router.decisive? side w)))) rfl enough
    refine ⟨r, u, ?_, now⟩
    rw [handle_asked asks]
    exact run
  · obtain ⟨ctx, outcomes, ends, rfl⟩ := handle_answers asks run
    obtain ⟨ctx', outcomes', ends', rfl⟩ := handle_answers asks' run'
    rw [checks] at ends' ⊢
    rw [phase, resultsOf_determined (fun _ _ _ may => determined _ _ _ (.inl may)) ends,
      resultsOf_determined (fun _ _ _ may => determined _ _ _ (.inr may)) ends']

/-- Checks that let the service run, and then end. -/
def promoting : Behaviour Outcome Unit := fun outcome _ => do
  Flow.publish .running
  return outcome

/-- The checks of the example take no time. -/
lemma promoting_durations : Durations (fun _ => 0) promoting := by
  intro outcome ctx n
  exact .act (Nat.le_refl n) (fun _ same => same) fun _ _ => .done

/-- A service that starts, with two checks, of which one fails. -/
def startingWorld : World Outcome Unit where
  orchestrator :=
    { phase := .starting
      health := .build [⟨.readiness, "db", some (.error (.text "down"))⟩,
        ⟨.readiness, "cache", some (.ok ())⟩] }
  host := Net.isolatedHost
  user := ()

/-- A request for readiness that meets this service. -/
def startingRequest : Flow Outcome Unit Response :=
  (Router.mk true true).handle promoting "GET" "/readyz?full"

/-- The answer to it. -/
def startingAnswer : HealthResponse :=
  ⟨.unavailable, some .starting, [⟨"cache", none⟩, ⟨"db", some "down"⟩]⟩

/-- The phase at the arrival comes before the failed check, and it counts although the service runs
when the answer is given. -/
theorem health_endpoint_promoting :
    ∃ u, World.clockwork.run 0 startingRequest startingWorld =
        (some (.json 503 startingAnswer.body), u) ∧
      u.now = 0 ∧ u.orchestrator.phase = .running := by
  have asks : askedSide? (pathOf "/readyz?full") = some .readiness := by decide +kernel
  have enough : startingWorld.now + slowest (fun _ => 0)
      ((Router.mk true true).checks .readiness startingWorld) ≤ 0 := by decide +kernel
  obtain ⟨r, u, run, now⟩ := (health_endpoint asks).2.1 promoting_durations enough
  have told : World.clockwork.run 0 startingRequest startingWorld = (some r, u) := run
  have answer : (World.clockwork.run 0 startingRequest startingWorld).1 =
      some (.json 503 startingAnswer.body) := by decide +kernel
  have runs : (World.clockwork.run 0 startingRequest startingWorld).2.orchestrator.phase =
      .running := by decide +kernel
  rw [told] at answer runs
  obtain rfl := Option.some.inj answer
  exact ⟨u, told, now.trans (by decide +kernel), runs⟩

end Supervision.Http
