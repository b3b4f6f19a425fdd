import Supervision.Proofs.Checks
import Supervision.Proofs.Ledger
import Supervision.Proofs.Linearization

/-!
# Registrations

Until it runs, an orchestrator holds the parts of the registrations that it has accepted, in their
order, and it can be told from the registrations alone which ones it accepts. A registration that is
refused changes nothing. An error of the later run has the index of its part among the accepted
registrations of that kind. `registerIn_inOrder` says all of this.
-/

namespace Supervision
open Lifecycle

variable {κ υ : Type}

namespace Registration

/-- The registration is one of the HTTP server. -/
def isHttp : Registration κ → Bool
  | httpServer _ => true
  | _ => false

/-- The answer of an orchestrator that no run has claimed. -/
def answer (httpConfigured : Bool) : Registration κ → Except LifecycleError Unit
  | httpServer _ => if httpConfigured then .error .httpAlreadyConfigured else .ok ()
  | healthCheck name _ _ => if name = "" then .error .healthCheckNameRequired else .ok ()
  | _ => .ok ()

/-- The registrations that were accepted, in order. -/
def accepted (rs : List (Registration κ)) (answers : List (Except LifecycleError Unit)) :
    List (Registration κ) :=
  ((rs.zip answers).filter fun x => x.2.isOk).map Prod.fst

end Registration

/-- The part of a call has its place among the parts of its kind that were registered. -/
def Call.IsOf (rs : List (Registration κ)) : Call κ → Prop
  | start i callback =>
    ∃ c, (rs.filterMap Registration.component?)[i]? = some c ∧ callback = c.start
  | rollback i callback =>
    ∃ c, (rs.filterMap Registration.component?)[i]? = some c ∧ callback = c.stop
  | startRunner i runner => (rs.filterMap Registration.runner?)[i]? = some runner
  | stopRunner i runner => (rs.filterMap Registration.runner?)[i]? = some runner
  | stop i callback =>
    ∃ c, (rs.filterMap Registration.component?)[i]? = some c ∧ callback = c.stop
  | hook i callback => (rs.filterMap Registration.hook?)[i]? = some callback

/-! ## One registration -/

/-- The parts of an orchestrator that no run has claimed are those of the registrations, of which at
most one is of the HTTP server. -/
structure Orchestrator.Enrols (o : Orchestrator κ) (rs : List (Registration κ)) : Prop where
  unclaimed : o.claimed = false
  holds : o.Holds rs
  http : o.httpConfigured = rs.any Registration.isHttp
  single : rs.countP Registration.isHttp ≤ 1

namespace Orchestrator

variable {o o' : Orchestrator κ} {r : Registration κ} {rs : List (Registration κ)}

/-- An accepted registration is answered by a success, and may have configured the HTTP server. -/
lemma answer_of_accept_ok (accepted : o.accept r = .ok o') :
    r.answer o.httpConfigured = .ok () ∧ o'.httpConfigured = (o.httpConfigured || r.isHttp) := by
  have same : o.httpConfigured = (o.httpConfigured || false) := (Bool.or_false _).symm
  cases r with
  | runner =>
    cases accepted
    exact ⟨rfl, same⟩
  | httpServer =>
    rw [accept] at accepted
    split at accepted
    · cases accepted
    next first =>
      cases accepted
      exact ⟨if_neg first, (Bool.or_true _).symm⟩
  | grpcServer =>
    cases accepted
    exact ⟨rfl, same⟩
  | component =>
    cases accepted
    exact ⟨rfl, same⟩
  | hook =>
    cases accepted
    exact ⟨rfl, same⟩
  | healthCheck =>
    rw [accept] at accepted
    split at accepted
    · cases accepted
    next named =>
      cases accepted
      exact ⟨if_neg fun empty => named (String.isEmpty_iff.2 empty), same⟩
  | healthReporter =>
    cases accepted
    exact ⟨rfl, same⟩

/-- A refused registration is answered by its error, and configures nothing. -/
lemma answer_of_accept_error {e} (refused : o.accept r = .error e) :
    r.answer o.httpConfigured = .error e ∧ (o.httpConfigured || r.isHttp) = o.httpConfigured := by
  cases r with
  | runner => cases refused
  | httpServer =>
    rw [accept] at refused
    split at refused
    next configured =>
      cases refused
      exact ⟨if_pos configured, by simp [configured]⟩
    · cases refused
  | grpcServer => cases refused
  | component => cases refused
  | hook => cases refused
  | healthCheck =>
    rw [accept] at refused
    split at refused
    next empty =>
      cases refused
      exact ⟨if_pos (String.isEmpty_iff.1 empty), Bool.or_false _⟩
    · cases refused
  | healthReporter => cases refused

/-- A second HTTP server is not accepted. -/
lemma isHttp_of_accept_ok (accepted : o.accept r = .ok o') (configured : o.httpConfigured = true) :
    r.isHttp = false := by
  cases r with
  | httpServer =>
    rw [accept, if_pos configured] at accepted
    cases accepted
  | _ => rfl

/-- An orchestrator without parts enrols nobody. -/
lemma Enrols.empty : ({} : Orchestrator κ).Enrols [] :=
  ⟨rfl, ⟨rfl, rfl, rfl⟩, rfl, Nat.zero_le 1⟩

/-- An accepted registration is enrolled behind the earlier ones. -/
lemma Enrols.accept (enrols : o.Enrols rs) (accepted : o.accept r = .ok o') :
    o'.Enrols (rs ++ [r]) where
  unclaimed := (accept_eq_ok accepted).2.2.2.trans enrols.unclaimed
  holds := enrols.holds.accept accepted
  http := by
    rw [(answer_of_accept_ok accepted).2, enrols.http, List.any_append]
    simp
  single := by
    rw [List.countP_append]
    by_cases configured : o.httpConfigured = true
    · simp [isHttp_of_accept_ok accepted configured, enrols.single]
    · have none : rs.countP Registration.isHttp = 0 := by
        rw [List.countP_eq_zero]
        intro r member isHttp
        apply configured
        rw [enrols.http]
        exact List.any_eq_true.2 ⟨r, member, isHttp⟩
      rw [none, Nat.zero_add]
      exact List.countP_le_length

end Orchestrator

namespace Lifecycle

variable {w : World κ υ} {r : Registration κ} {rs earlier : List (Registration κ)}

/-- A registration is accepted, or it changes nothing. -/
lemma registerIn_enrols (enrols : w.orchestrator.Enrols earlier) :
    (registerIn r w).1 = r.answer (earlier.any Registration.isHttp) ∧
      ∃ now : List (Registration κ), now = (if (registerIn r w).1.isOk then [r] else []) ∧
        (registerIn r w).2.orchestrator.Enrols (earlier ++ now) ∧
        (earlier ++ now).any Registration.isHttp =
          (earlier.any Registration.isHttp || r.isHttp) := by
  rw [← enrols.http]
  cases accepts : w.orchestrator.accept r with
  | error e =>
    obtain ⟨answer, same⟩ := Orchestrator.answer_of_accept_error accepts
    rw [registerIn_error enrols.unclaimed accepts, answer]
    refine ⟨rfl, [], rfl, ?_⟩
    rw [List.append_nil, same, enrols.http]
    exact ⟨enrols, rfl⟩
  | ok o =>
    obtain ⟨answer, http⟩ := Orchestrator.answer_of_accept_ok accepts
    rw [registerIn_ok enrols.unclaimed accepts, answer]
    have enrols := enrols.accept accepts
    exact ⟨rfl, [r], rfl, enrols, enrols.http.symm.trans http⟩

/-- A registration that is refused changes nothing, whatever the reason. -/
lemma registerIn_refused {e} (refused : (registerIn r w).1 = .error e) :
    (registerIn r w).2 = w := by
  unfold registerIn at refused ⊢
  split
  · rfl
  next accepts =>
    rw [accepts] at refused
    cases refused

/-! ## Registrations in order -/

/-- The first registration is accepted if its answer is a success. -/
lemma accepted_cons {answer : Except LifecycleError Unit} {answers} :
    Registration.accepted (r :: rs) (answer :: answers) =
      (if answer.isOk then [r] else []) ++ Registration.accepted rs answers := by
  rw [Registration.accepted, List.zip_cons_cons, List.filter_cons]
  split <;> rfl

/-- By induction over the registrations, each one is answered by what was accepted before it, and
the accepted ones are enrolled in order. -/
lemma inOrder_registerIn (enrols : w.orchestrator.Enrols earlier) :
    (World.inOrder registerIn rs w).2.orchestrator.Enrols
        (earlier ++ Registration.accepted rs (World.inOrder registerIn rs w).1) ∧
      ∀ (i : Nat) (r : Registration κ), rs[i]? = some r →
        (World.inOrder registerIn rs w).1[i]? =
          some (r.answer ((earlier ++ rs.take i).any Registration.isHttp)) := by
  induction rs generalizing w earlier with
  | nil =>
    refine ⟨?_, fun _ _ here => nomatch here⟩
    show w.orchestrator.Enrols (earlier ++ [])
    rw [List.append_nil]
    exact enrols
  -- what the first one answered is part of the earlier ones for the rest
  | cons first rs ih =>
    obtain ⟨answer, now, taken, enrols', http⟩ := registerIn_enrols (r := first) enrols
    obtain ⟨all, answers⟩ := ih enrols'
    rw [World.inOrder_cons]
    constructor
    · rw [accepted_cons, ← taken, ← List.append_assoc]
      exact all
    · intro i r here
      cases i with
      | zero =>
        cases here
        rw [List.take_zero, List.append_nil]
        exact congrArg some answer
      | succ i =>
        have later := answers i r here
        rw [List.any_append, http, Bool.or_assoc] at later
        rw [List.take_succ_cons, List.any_append, List.any_cons]
        exact later

/-! ## The later run -/

variable {parts : Orchestrator κ} {c : Call κ}

/-- Every stop belongs to a component. -/
lemma exists_component {i : Nat} {callback} (here : parts.stops[i]? = some callback) :
    ∃ component, parts.components[i]? = some component ∧ component.stop = callback := by
  rw [Orchestrator.stops, List.getElem?_map] at here
  exact Option.map_eq_some_iff.1 here

/-- Every call of a start has its place among the registered components. -/
lemma isOf_startCalls (holds : parts.Holds rs) (member : c ∈ startCalls parts) : c.IsOf rs := by
  obtain ⟨i, callback, here, rfl⟩ := mem_startCalls.1 member
  rw [Orchestrator.starts, List.getElem?_map] at here
  obtain ⟨component, there, rfl⟩ := Option.map_eq_some_iff.1 here
  rw [Call.IsOf, ← holds.components]
  exact ⟨component, there, rfl⟩

/-- Every call that undoes a start has its place among the registered components. -/
lemma isOf_rollbackCalls {k : Nat} (holds : parts.Holds rs) (member : c ∈ rollbackCalls parts k) :
    c.IsOf rs := by
  obtain ⟨i, callback, here, rfl⟩ := mem_rollbackCalls.1 member
  rw [List.getElem?_take] at here
  split at here
  · obtain ⟨component, there, rfl⟩ := exists_component here
    rw [Call.IsOf, ← holds.components]
    exact ⟨component, there, rfl⟩
  · cases here

/-- Every start of a runner has its place among the registered runners. -/
lemma isOf_runnerCalls (holds : parts.Holds rs) (member : c ∈ runnerCalls parts) : c.IsOf rs := by
  obtain ⟨i, runner, here, rfl⟩ := mem_runnerCalls.1 member
  rw [Call.IsOf, ← holds.runners]
  exact here

/-- Every call of a teardown has its place among the registered parts. -/
lemma isOf_teardownCalls (holds : parts.Holds rs) (member : c ∈ teardownCalls parts) :
    c.IsOf rs := by
  rcases mem_teardownCalls.1 member with
    ⟨i, runner, here, rfl⟩ | ⟨i, callback, here, rfl⟩ | ⟨i, callback, here, rfl⟩
  · rw [Call.IsOf, ← holds.runners]
    exact here
  · obtain ⟨component, there, rfl⟩ := exists_component here
    rw [Call.IsOf, ← holds.components]
    exact ⟨component, there, rfl⟩
  · rw [Call.IsOf, ← holds.hooks]
    exact here

/-- A run calls the registered parts, each under its own index. -/
lemma isOf_of_transcript {l : Ledger κ} {r : RunOutcome} {a}
    (transcript : Transcript parts l r) (holds : parts.Holds rs) (member : a ∈ l.answers) :
    a.1.IsOf rs := by
  have call : a.1 ∈ l.answers.map Prod.fst := List.mem_map_of_mem member
  -- a run ends in one of three ways, and in each the calls are known
  cases transcript with
  | rolledBack here calls =>
    simp only [Ledger.answers_append, Ledger.answers_cons, Ledger.answers_nil, Ledger.answers_told,
      Item.answer?, Option.toList_none, Option.toList_some, List.map_append, List.map_cons, calls,
      Answers.map_succeeded, List.mem_append, List.append_nil, List.nil_append, List.append_assoc,
      List.cons_append, List.mem_cons] at call
    rcases call with early | rfl | undone
    · exact isOf_startCalls holds (List.mem_of_mem_take early)
    · exact isOf_startCalls holds (List.mem_of_getElem? here)
    · exact isOf_rollbackCalls holds undone
  | stoppedShort here =>
    simp only [Ledger.answers_append, Ledger.answers_cons, Ledger.answers_nil, Ledger.answers_told,
      Item.answer?, Option.toList_none, Option.toList_some, List.map_append, List.map_cons,
      List.map_nil, Answers.map_succeeded, List.mem_append, List.append_nil, List.nil_append,
      List.append_assoc, List.cons_append, List.mem_cons, List.not_mem_nil, or_false] at call
    rcases call with started | early | rfl
    · exact isOf_startCalls holds started
    · exact isOf_runnerCalls holds (List.mem_of_mem_take early)
    · exact isOf_runnerCalls holds (List.mem_of_getElem? here)
  | cameDown calls =>
    simp only [Ledger.answers_append, Ledger.answers_cons, Ledger.answers_nil, Ledger.answers_told,
      Item.answer?, Option.toList_none, List.map_append, calls, Answers.map_succeeded,
      List.mem_append, List.append_nil, List.nil_append, List.append_assoc, List.cons_append] at call
    rcases call with started | started | stopped
    · exact isOf_startCalls holds started
    · exact isOf_runnerCalls holds started
    · exact isOf_teardownCalls holds stopped

/-- An error of a run is that of a registered part whose call has failed. -/
lemma run_blames {S : Setting (World κ υ)} {b : Behaviour κ υ} {ctx : Token} {course es u e}
    (exec : (run ctx).Runs S b w course (some (.error es)) u)
    (unclaimed : w.orchestrator.claimed = false) (holds : w.orchestrator.Holds rs)
    (member : e ∈ es.toList) :
    ∃ c cause, c.IsOf rs ∧ e = c.error cause ∧ (c, .error cause) ∈ course.answers := by
  obtain ⟨l, -, answers, ends⟩ := run_transcript exec unclaimed
  have transcript := ends _ rfl
  rw [answers]
  have member : e ∈ members (.error es) := member
  rw [transcript.members_eq] at member
  obtain ⟨⟨c, outcome⟩, answered, failure⟩ := List.mem_filterMap.1 member
  cases outcome with
  | ok => cases failure
  | error cause =>
    cases failure
    exact ⟨c, cause, isOf_of_transcript transcript holds answered, rfl, answered⟩

/-- Registrations with an orchestrator that has none: how each of them is answered, that the parts
and their numbers are those of the accepted ones, and that a refused one changes nothing. A callback
that is missing succeeds at once. Each error of a later run names the place of its part among the
accepted registrations of that kind. -/
theorem registerIn_inOrder (fresh : w.orchestrator = {}) :
    let after := World.inOrder registerIn rs w
    let o := after.2.orchestrator
    let accepted := Registration.accepted rs after.1
    (∀ (i : Nat) (r : Registration κ), rs[i]? = some r →
      after.1[i]? = some (r.answer ((rs.take i).any Registration.isHttp))) ∧
    (o.starts.length = o.stops.length ∧
      ∀ (i : Nat) (c : Component κ), (accepted.filterMap Registration.component?)[i]? = some c →
        o.starts[i]? = some c.start ∧ o.stops[i]? = some c.stop) ∧
    (∀ (b : Behaviour κ υ) ctx, Callback.call b none ctx = pure (.ok ())) ∧
    (o.Holds accepted ∧
      o.runners.length = accepted.countP (·.runner?.isSome) ∧
      o.starts.length = accepted.countP (·.component?.isSome) ∧
      o.hooks.length = accepted.countP (·.hook?.isSome)) ∧
    accepted.countP Registration.isHttp ≤ 1 ∧
    (∀ (v : World κ υ) r e, (registerIn r v).1 = .error e → (registerIn r v).2 = v) ∧
    ∀ {S : Setting (World κ υ)} {b : Behaviour κ υ} {ctx : Token} {v course es u},
      v.orchestrator.claimed = false → v.orchestrator.Holds accepted →
      (run ctx).Runs S b v course (some (.error es)) u →
      ∀ e ∈ es.toList, ∃ c cause, c.IsOf accepted ∧ e = c.error cause ∧
        (c, .error cause) ∈ course.answers := by
  have start : w.orchestrator.Enrols [] := by
    rw [fresh]
    exact .empty
  obtain ⟨enrols, answers⟩ := inOrder_registerIn start
  have components := enrols.holds.components
  have runners := enrols.holds.runners
  have hooks := enrols.holds.hooks
  refine ⟨answers, ⟨?_, fun i c here => ?_⟩, fun _ _ => rfl, ⟨enrols.holds, ?_, ?_, ?_⟩,
    enrols.single, fun _ _ _ => registerIn_refused, fun unclaimed holds exec e member => ?_⟩
  · rw [Orchestrator.starts, Orchestrator.stops, List.length_map, List.length_map]
  · rw [Orchestrator.starts, Orchestrator.stops, List.getElem?_map, List.getElem?_map, components]
    exact ⟨congrArg (Option.map _) here, congrArg (Option.map _) here⟩
  · rw [runners, List.length_filterMap_eq_countP]
    rfl
  · rw [Orchestrator.starts, List.length_map, components, List.length_filterMap_eq_countP]
    rfl
  · rw [hooks, List.length_filterMap_eq_countP]
    rfl
  · exact run_blames exec unclaimed holds member

/-- Five registrations, of which two are refused, and the last component does not stop. -/
def fiveRegistrations : List (Registration Outcome) :=
  [.component ⟨none, none⟩, .httpServer (.custom "http" none none),
    .httpServer (.custom "other" none none), .healthCheck "" none none,
    .component ⟨none, some (.error (.text "stuck"))⟩]

/-- The component that does not stop is the fifth to be registered, and the second component. -/
theorem registerIn_inOrder_fiveRegistrations :
    let after := World.inOrder registerIn fiveRegistrations (World.around {})
    after.1 = [.ok (), .ok (), .error .httpAlreadyConfigured, .error .healthCheckNameRequired,
      .ok ()] ∧
    after.2.orchestrator.starts.length = 2 ∧
    ∃ course u, (run ⟨0⟩).Runs World.clockwork.setting prompt (after.2.cancel ⟨0⟩) course
        (some (.error (.single (.stop 1 (.text "stuck"))))) u ∧
      ∃ c cause, c.IsOf (Registration.accepted fiveRegistrations after.1) ∧
        .stop 1 (.text "stuck") = c.error cause ∧ (c, .error cause) ∈ course.answers := by
  intro after
  obtain ⟨-, -, -, ⟨holds, -, components, -⟩, -, -, blames⟩ :=
    @registerIn_inOrder _ _ (World.around {}) fiveRegistrations rfl
  refine ⟨rfl, components, ?_⟩
  have exec : (run ⟨0⟩).Runs World.clockwork.setting prompt (after.2.cancel ⟨0⟩) _
      (some (.error (.single (.stop 1 (.text "stuck"))))) _ :=
    Plan.follow_runs (World.clockwork.leap 0) rfl
  have holds : (after.2.cancel ⟨0⟩).orchestrator.Holds
      (Registration.accepted fiveRegistrations after.1) := holds
  have member : LifecycleError.stop 1 (.text "stuck") ∈
      (Errors.single (LifecycleError.stop 1 (.text "stuck"))).toList := List.mem_cons_self
  exact ⟨_, _, exec, blames rfl holds exec _ member⟩

end Lifecycle

end Supervision
