import Mathlib.Data.List.Dedup
import Mathlib.Data.List.Induction
import Mathlib.Tactic.Lemma
import Supervision.Health.Check
import Supervision.Lifecycle.Run
import Supervision.Proofs.Calls

/-!
# Registered health checks

Whatever calls register health checks, in whatever order (`HealthCall`), a side keeps for each name
the check of the last registration of that name there, and nothing else. Calls without a name change
nothing, the sides do not depend on one another, and the order of different names does not matter:
`performAll_keeps_last`.
-/

namespace Supervision

variable {κ υ α : Type}

/-! ## Maps by name -/

namespace NameMap

variable {m m' : NameMap α} {name key : String} {v : α}

/-- The names ascend, so that no name occurs twice. -/
def IsSorted (m : NameMap α) : Prop :=
  m.Pairwise fun a b => a.1 < b.1

/-- There is nothing under a name in the empty map. -/
@[simp]
lemma get?_nil : get? name ([] : NameMap α) = none := rfl

/-- Under its own name there is the first entry, and under any other what the rest has. -/
@[simp]
lemma get?_cons : get? name ((key, v) :: m) = if name = key then some v else get? name m := by
  by_cases same : name = key
  · simp [get?, same]
  · simp [get?, List.lookup_cons, same, beq_false_of_ne same]

/-- The last value put under a name is the one that is there. -/
@[simp]
lemma get?_insert : get? name (insert key v m) = if name = key then some v else get? name m := by
  induction m with
  | nil => simp [insert]
  | cons entry rest ih =>
    obtain ⟨first, value⟩ := entry
    rw [insert]
    by_cases below : key < first
    · rw [if_pos below, get?_cons]
    · rw [if_neg below]
      by_cases same : key = first
      · rw [if_pos same, get?_cons, get?_cons, ← same]
        by_cases here : name = key <;> simp [here]
      · rw [if_neg same, get?_cons, get?_cons, ih]
        by_cases here : name = first
        · rw [if_pos here, if_pos here, if_neg fun h => same (h.symm.trans here)]
        · rw [if_neg here, if_neg here]

/-- After an insertion, an entry is the new one or was there before. -/
lemma mem_insert {entry : String × α} (member : entry ∈ insert key v m) :
    entry = (key, v) ∨ entry ∈ m := by
  induction m with
  | nil => exact .inl (List.mem_singleton.1 member)
  | cons first rest ih =>
    rw [insert] at member
    split at member
    · exact List.mem_cons.1 member
    split at member
    · exact (List.mem_cons.1 member).imp_right (List.mem_cons_of_mem _)
    · rcases List.mem_cons.1 member with rfl | member
      · exact .inr List.mem_cons_self
      · exact (ih member).imp_right (List.mem_cons_of_mem _)

/-- An insertion keeps the names sorted. -/
lemma IsSorted.insert (sorted : IsSorted m) : IsSorted (insert key v m) := by
  induction m with
  | nil => exact List.pairwise_singleton _ _
  | cons first rest ih =>
    obtain ⟨above, sorted⟩ := List.pairwise_cons.1 sorted
    rw [NameMap.insert]
    split
    case isTrue below =>
      refine List.pairwise_cons.2 ⟨?_, List.pairwise_cons.2 ⟨above, sorted⟩⟩
      rw [List.forall_mem_cons]
      exact ⟨below, fun entry member => String.lt_trans below (above entry member)⟩
    case isFalse notBelow =>
      split
      case isTrue same =>
        subst same
        exact List.pairwise_cons.2 ⟨above, sorted⟩
      case isFalse other =>
        refine List.pairwise_cons.2 ⟨fun entry member => ?_, ih sorted⟩
        rcases mem_insert member with rfl | member
        · apply Decidable.byContradiction
          intro notAbove
          exact other (String.le_antisymm (String.not_lt.1 notAbove) (String.not_lt.1 notBelow))
        · exact above entry member

/-- A sorted map holds what is found under its names. -/
lemma IsSorted.mem_iff (sorted : IsSorted m) : (name, v) ∈ m ↔ get? name m = some v := by
  induction m with
  | nil => simp
  | cons entry rest ih =>
    obtain ⟨first, value⟩ := entry
    obtain ⟨above, sorted⟩ := List.pairwise_cons.1 sorted
    rw [List.mem_cons, ih sorted, get?_cons, Prod.mk.injEq]
    by_cases here : name = first
    · have gone : ¬ get? name rest = some v := by
        rw [← ih sorted, here]
        intro member
        exact String.lt_irrefl first (above _ member)
      rw [if_pos here, or_iff_left gone, and_iff_right here, Option.some.injEq]
      exact eq_comm
    · simp [here]

/-- No name occurs twice in a sorted map. -/
lemma IsSorted.nodup (sorted : IsSorted m) : (m.map Prod.fst).Nodup := by
  rw [List.Nodup, List.pairwise_map]
  apply sorted.imp
  intro a b below same
  rw [same] at below
  exact String.lt_irrefl _ below

/-- Sorted maps with the same values are the same. -/
lemma IsSorted.ext (sorted : IsSorted m) (sorted' : IsSorted m')
    (same : ∀ name, get? name m = get? name m') : m = m' := by
  have perm : m.Perm m' := by
    rw [List.perm_ext_iff_of_nodup sorted.nodup.of_map sorted'.nodup.of_map]
    intro ⟨name, v⟩
    rw [sorted.mem_iff, sorted'.mem_iff, same]
  apply perm.eq_of_pairwise _ sorted sorted'
  intro a b _ _ below above
  exact absurd above (String.lt_asymm below)

/-- The names of a map are those with something under them. -/
lemma mem_names : name ∈ m.map Prod.fst ↔ (get? name m).isSome := by
  induction m with
  | nil => simp
  | cons entry rest ih =>
    obtain ⟨first, value⟩ := entry
    rw [List.map_cons, List.mem_cons, ih, get?_cons]
    by_cases here : name = first <;> simp [here]

end NameMap

/-! ## Checks by side and name -/

/-- A check with its side and its name. -/
structure NamedCheck (κ : Type) where
  side : HealthSide
  name : String
  check : Callback κ

namespace NamedCheck

variable {checks checks' : List (NamedCheck κ)} {c : NamedCheck κ} {side : HealthSide}
  {name : String}

/-- The checks of one side under one name. -/
def under (side : HealthSide) (name : String) (checks : List (NamedCheck κ)) :
    List (NamedCheck κ) :=
  checks.filter fun c => c.side = side ∧ c.name = name

/-- The last check of one side under one name. -/
def last? (side : HealthSide) (name : String) (checks : List (NamedCheck κ)) :
    Option (Callback κ) :=
  (under side name checks).getLast?.map NamedCheck.check

/-- The checks that have a name. -/
def named (checks : List (NamedCheck κ)) : List (NamedCheck κ) :=
  checks.filter fun c => c.name ≠ ""

/-- The names of one side. -/
def names (side : HealthSide) (checks : List (NamedCheck κ)) : List String :=
  (checks.filter fun c => c.side = side).map NamedCheck.name

/-- Among no checks, there is no last one. -/
@[simp]
lemma last?_nil : last? side name ([] : List (NamedCheck κ)) = none := rfl

/-- The last check of two lists is the last one of the second, if it has any. -/
lemma last?_append :
    last? side name (checks ++ checks') =
      (last? side name checks').or (last? side name checks) := by
  rw [last?, under, List.filter_append, List.getLast?_append, Option.map_or]
  rfl

/-- The last of a single check is itself, on its side and under its name. -/
lemma last?_singleton :
    last? side name [c] = if c.side = side ∧ c.name = name then some c.check else none := by
  by_cases here : c.side = side ∧ c.name = name <;> simp [last?, under, here]

/-- A check that comes at the end is the last one of its side and name. -/
lemma last?_concat :
    last? side name (checks ++ [c]) =
      if c.side = side ∧ c.name = name then some c.check else last? side name checks := by
  rw [last?_append, last?_singleton]
  split <;> simp

/-- The named checks of two lists are those of the one and those of the other. -/
lemma named_append : named (checks ++ checks') = named checks ++ named checks' :=
  List.filter_append ..

/-- A check at the end is among the named ones if its name is not empty. -/
lemma named_concat :
    named (checks ++ [c]) = if c.name = "" then named checks else named checks ++ [c] := by
  rw [named_append]
  by_cases empty : c.name = "" <;> simp [named, empty]

/-- Leaving out the checks without a name changes no last check under any other name. -/
lemma last?_named :
    last? side name (named checks) = if name = "" then none else last? side name checks := by
  rw [last?, under, named, List.filter_filter]
  split
  case isTrue empty =>
    rw [List.filter_eq_nil_iff.2]
    · rfl
    intro c _ here
    simp only [Bool.and_eq_true, decide_eq_true_eq] at here
    obtain ⟨⟨-, rfl⟩, named⟩ := here
    exact named empty
  case isFalse named =>
    rw [last?, under]
    congr 2
    apply List.filter_congr
    intro c _
    by_cases here : c.side = side ∧ c.name = name
    · simp [here, named]
    · simp [here]

/-- The names of one side are those with a last check. -/
lemma mem_names : name ∈ names side checks ↔ (last? side name checks).isSome := by
  rw [last?, Option.isSome_map, Option.isSome_iff_ne_none, ne_eq, List.getLast?_eq_none_iff,
    under, List.filter_eq_nil_iff]
  simp [names, and_assoc]

end NamedCheck

/-! ## Checks that are kept -/

namespace HealthChecks
open NamedCheck

variable {hs hs' : HealthChecks κ} {checks checks' : List (NamedCheck κ)} {c : NamedCheck κ}
  {side side' : HealthSide} {name : String} {check : Callback κ} {m : NameMap (Callback κ)}

/-- Checks put under their names one after the other, of which some may be empty. -/
def build (checks : List (NamedCheck κ)) : HealthChecks κ :=
  checks.foldl (fun hs c => hs.add c.side c.name c.check) {}

/-- Each side keeps the last check of each name, and nothing else. -/
structure Keeps (hs : HealthChecks κ) (checks : List (NamedCheck κ)) : Prop where
  sorted : ∀ side, NameMap.IsSorted (hs.side side)
  last : ∀ side name, NameMap.get? name (hs.side side) = last? side name checks

/-- Health checks with the same sides are the same. -/
lemma ext_side (same : ∀ side, hs.side side = hs'.side side) : hs = hs' := by
  cases hs
  cases hs'
  congr
  · exact same .liveness
  · exact same .readiness

/-- An addition changes its own side, and there only what is under its name. -/
lemma side_add :
    (hs.add side' name check).side side =
      if side' = side then NameMap.insert name check (hs.side side) else hs.side side := by
  cases side' <;> cases side <;> rfl

/-- The checks of one side, as they stand in a map. -/
def entries (side : HealthSide) (m : NameMap (Callback κ)) : List (NamedCheck κ) :=
  m.map fun entry => ⟨side, entry.1, entry.2⟩

/-- The last entry of a sorted map under a name is what the map has there. -/
lemma last?_entries (sorted : NameMap.IsSorted m) :
    last? side name (entries side' m) = if side' = side then NameMap.get? name m else none := by
  induction m with
  | nil => simp [entries]
  | cons entry rest ih =>
    obtain ⟨first, check⟩ := entry
    obtain ⟨above, sorted⟩ := List.pairwise_cons.1 sorted
    have gone : NameMap.get? first rest = none := by
      rw [← Option.not_isSome_iff_eq_none, ← NameMap.mem_names, List.mem_map]
      rintro ⟨entry, member, rfl⟩
      exact String.lt_irrefl _ (above entry member)
    have split : entries side' ((first, check) :: rest) =
        [⟨side', first, check⟩] ++ entries side' rest := rfl
    rw [split, last?_append, last?_singleton, ih sorted, NameMap.get?_cons]
    by_cases here : name = first
    · by_cases there : side' = side <;> simp [here, there, gone]
    · by_cases there : side' = side <;> simp [here, there, eq_comm]

namespace Keeps

/-- Without checks, nothing is kept. -/
lemma nil : Keeps ({} : HealthChecks κ) [] := by
  constructor
  · intro side
    cases side <;> exact List.Pairwise.nil
  · intro side name
    cases side <;> rfl

/-- What is kept depends on the last checks alone. -/
lemma congr (keeps : hs.Keeps checks)
    (same : ∀ side name, last? side name checks' = last? side name checks) :
    hs.Keeps checks' := by
  refine ⟨keeps.sorted, fun side name => ?_⟩
  rw [keeps.last, same]

/-- A check that is added is kept in place of the one before it. -/
lemma add (keeps : hs.Keeps checks) : (hs.add c.side c.name c.check).Keeps (checks ++ [c]) := by
  constructor
  · intro side
    rw [side_add]
    split
    · exact (keeps.sorted side).insert
    · exact keeps.sorted side
  · intro side name
    rw [side_add, last?_concat]
    by_cases here : c.side = side
    · simp [here, keeps.last, eq_comm]
    · simp [here, keeps.last]

/-- Builders keep the check without a name, too. -/
lemma build : (build checks).Keeps checks := by
  induction checks using List.reverseRecOn with
  | nil => exact .nil
  | append_singleton checks c ih =>
    rw [HealthChecks.build, List.foldl_concat]
    exact ih.add

/-- The count of a side is that of its names. -/
lemma count (keeps : hs.Keeps checks) :
    (hs.side side).length = (names side checks).dedup.length := by
  have perm : ((hs.side side).map Prod.fst).Perm (names side checks).dedup := by
    rw [List.perm_ext_iff_of_nodup (keeps.sorted side).nodup (List.nodup_dedup _)]
    intro name
    rw [NameMap.mem_names, keeps.last, List.mem_dedup, NamedCheck.mem_names]
  rw [← perm.length_eq, List.length_map]

/-- A side is determined by its last checks. -/
lemma unique (keeps : hs.Keeps checks) (keeps' : hs'.Keeps checks')
    (same : ∀ name, last? side name checks = last? side name checks') :
    hs.side side = hs'.side side := by
  apply (keeps.sorted side).ext (keeps'.sorted side)
  intro name
  rw [keeps.last, keeps'.last, same]

/-- A check that is registered is kept if it has a name. -/
lemma register (keeps : hs.Keeps (named checks)) :
    (hs.register c.side c.name c.check).Keeps (named (checks ++ [c])) := by
  rw [HealthChecks.register, named_concat]
  simp only [String.isEmpty_iff]
  split
  · exact keeps
  · exact keeps.add

/-- All checks of one side, as they stand in a map. -/
lemma registerSide (keeps : hs.Keeps (named checks)) :
    (hs.registerSide side m).Keeps (named (checks ++ entries side m)) := by
  induction m generalizing hs checks with
  | nil =>
    rw [entries, List.map_nil, List.append_nil]
    exact keeps
  | cons entry rest ih =>
    rw [HealthChecks.registerSide, List.foldl_cons]
    have all := ih (keeps.register (c := ⟨side, entry.1, entry.2⟩))
    rw [List.append_assoc] at all
    exact all

/-- What is reported replaces what is kept under the same names. -/
lemma registerAll (keeps : hs.Keeps (named checks)) (reported : hs'.Keeps checks') :
    (hs.registerAll hs').Keeps (named (checks ++ checks')) := by
  have all : (hs.registerAll hs').Keeps (named (checks ++ entries .liveness (hs'.side .liveness) ++
      entries .readiness (hs'.side .readiness))) := keeps.registerSide.registerSide
  apply all.congr
  intro side name
  simp only [last?_named, last?_append, last?_entries (reported.sorted _), ← reported.last]
  cases side <;> simp

end Keeps

end HealthChecks

/-! ## Calls -/

/-- Makes calls of a kind in order: their answers, and the world after them. -/
def World.inOrder {γ δ : Type} (call : γ → World κ υ → δ × World κ υ) :
    List γ → World κ υ → List δ × World κ υ
  | [], w => ([], w)
  | c :: cs, w =>
    let (answer, w) := call c w
    let (answers, w) := inOrder call cs w
    (answer :: answers, w)

/-- Calls are made in order if the first is made and then the others. -/
lemma World.inOrder_cons {γ δ : Type} {call : γ → World κ υ → δ × World κ υ} {c cs w} :
    inOrder call (c :: cs) w =
      ((call c w).1 :: (inOrder call cs (call c w).2).1, (inOrder call cs (call c w).2).2) := rfl

/-- A call that registers health checks. Reported checks are built one after the other. -/
inductive HealthCall (κ : Type) where
  /-- The registry gets a check. -/
  | single (check : NamedCheck κ)
  /-- The registry gets the checks that somebody reports. -/
  | several (checks : List (NamedCheck κ))
  /-- The orchestrator gets the checks of both sides under one name. -/
  | pair (name : String) (liveness readiness : Callback κ)
  /-- The orchestrator gets the checks that somebody reports. -/
  | reporter (checks : List (NamedCheck κ))

namespace HealthCall
open NamedCheck

variable {w : World κ υ} {call : HealthCall κ} {calls calls' : List (HealthCall κ)}

/-- Makes a call. -/
def perform : HealthCall κ → World κ υ → Except LifecycleError Unit × World κ υ
  | single c, w => (.ok (), Health.registerIn c.side c.name c.check w)
  | several checks, w => (.ok (), Health.registerAllIn (.build checks) w)
  | pair name liveness readiness, w =>
    Lifecycle.registerIn (.healthCheck name liveness readiness) w
  | reporter checks, w => Lifecycle.registerIn (.healthReporter (.build checks)) w

/-- Makes calls in order. -/
def performAll (calls : List (HealthCall κ)) (w : World κ υ) :
    List (Except LifecycleError Unit) × World κ υ :=
  World.inOrder perform calls w

/-- The call goes to the orchestrator, which refuses it after a run. -/
def NeedsOrchestrator : HealthCall κ → Prop
  | single _ => False
  | several _ => False
  | pair _ _ _ => True
  | reporter _ => True

/-- The checks that a call brings, in order. -/
def checks : HealthCall κ → List (NamedCheck κ)
  | single c => [c]
  | several checks => checks
  | pair name liveness readiness =>
    [⟨.liveness, name, liveness⟩, ⟨.readiness, name, readiness⟩]
  | reporter checks => checks

/-- The checks with a name that some calls bring, in order. -/
def registered (calls : List (HealthCall κ)) : List (NamedCheck κ) :=
  named (calls.flatMap checks)

/-- The answer to a call that the orchestrator takes. -/
def answer : HealthCall κ → Except LifecycleError Unit
  | single _ => .ok ()
  | several _ => .ok ()
  | pair name _ _ => if name = "" then .error .healthCheckNameRequired else .ok ()
  | reporter _ => .ok ()

/-- What is left of a call without the checks that have no name. -/
def stripped : HealthCall κ → List (HealthCall κ)
  | single c => if c.name = "" then [] else [single c]
  | several checks => [several (named checks)]
  | pair name liveness readiness => if name = "" then [] else [pair name liveness readiness]
  | reporter checks => [reporter (named checks)]

/-- What a call makes of the health checks. -/
def install : HealthCall κ → HealthChecks κ → HealthChecks κ
  | single c, hs => hs.register c.side c.name c.check
  | several checks, hs => hs.registerAll (.build checks)
  | pair name liveness readiness, hs =>
    (hs.register .liveness name liveness).register .readiness name readiness
  | reporter checks, hs => hs.registerAll (.build checks)

/-- The records that a call leaves behind. -/
def records : HealthCall κ → List Record
  | single c => if c.name = "" then [.namelessCheck] else []
  | several checks => (HealthChecks.build checks).passedOver
  | pair _ _ _ => []
  | reporter checks => (HealthChecks.build checks).passedOver

end HealthCall

/-- The calls are not refused because a run has the orchestrator. -/
def World.Takes (w : World κ υ) (calls : List (HealthCall κ)) : Prop :=
  ∀ call ∈ calls, call.NeedsOrchestrator → w.orchestrator.claimed = false

/-- A world with other health checks and some more records. -/
def World.withHealth (hs : HealthChecks κ) (rs : List Record) (w : World κ υ) : World κ υ :=
  { w with
    orchestrator := { w.orchestrator with health := hs }
    journal := w.journal ++ rs }

namespace Lifecycle

variable {w : World κ υ} {r : Registration κ}

/-- A registration that is accepted changes the orchestrator and adds its records. -/
lemma registerIn_ok {o} (unclaimed : w.orchestrator.claimed = false)
    (accepted : w.orchestrator.accept r = .ok o) :
    registerIn r w = (.ok (), { w with orchestrator := o }.logAll r.records) := by
  simp [registerIn, Orchestrator.register, unclaimed, accepted]

/-- A registration that is refused changes nothing. -/
lemma registerIn_error {e} (unclaimed : w.orchestrator.claimed = false)
    (refused : w.orchestrator.accept r = .error e) : registerIn r w = (.error e, w) := by
  simp [registerIn, Orchestrator.register, unclaimed, refused]

end Lifecycle

namespace HealthCall
open NamedCheck

variable {w : World κ υ} {call : HealthCall κ} {calls calls' : List (HealthCall κ)}

/-- A call that the orchestrator takes gives its answer, installs its checks and leaves its
records. -/
lemma perform_eq (taken : call.NeedsOrchestrator → w.orchestrator.claimed = false) :
    call.perform w =
      (call.answer, w.withHealth (call.install w.orchestrator.health) call.records) := by
  cases call with
  | single c =>
    by_cases empty : c.name = ""
    · simp [perform, answer, install, records, World.withHealth, Health.registerIn, empty,
        HealthChecks.register, World.log]
    · simp [perform, answer, install, records, World.withHealth, Health.registerIn, empty,
        World.changeOrchestrator]
  -- checks that come together are never refused: those without a name are passed over
  | several checks => rfl
  | pair name liveness readiness =>
    by_cases empty : name = ""
    · have refused : w.orchestrator.accept (.healthCheck name liveness readiness) =
          .error .healthCheckNameRequired := by
        simp [Orchestrator.accept, empty]
      rw [perform, Lifecycle.registerIn_error (taken trivial) refused]
      simp [answer, install, records, World.withHealth, empty, HealthChecks.register]
    · have accepted : w.orchestrator.accept (.healthCheck name liveness readiness) =
          .ok { w.orchestrator with
            health := (pair name liveness readiness).install w.orchestrator.health } := by
        simp [Orchestrator.accept, empty, install]
      rw [perform, Lifecycle.registerIn_ok (taken trivial) accepted, answer, if_neg empty]
      rfl
  | reporter checks =>
    rw [perform, Lifecycle.registerIn_ok (taken trivial) rfl]
    rfl

/-- What calls do to a world that takes them: health checks and records, and nothing else. -/
lemma performAll_eq (taken : w.Takes calls) :
    performAll calls w =
      (calls.map answer,
        w.withHealth (calls.foldl (fun hs call => call.install hs) w.orchestrator.health)
          (calls.flatMap records)) := by
  induction calls generalizing w with
  | nil => simp [performAll, World.inOrder, World.withHealth]
  | cons call calls ih =>
    obtain ⟨first, rest⟩ := List.forall_mem_cons.1 taken
    have rest : (w.withHealth (call.install w.orchestrator.health) call.records).Takes calls := rest
    have rest := ih rest
    rw [performAll] at rest ⊢
    rw [World.inOrder_cons, perform_eq first]
    dsimp only
    rw [rest]
    simp [World.withHealth]

/-- What a call installs is kept with the checks before it. -/
lemma install_keeps {hs : HealthChecks κ} {earlier} (keeps : hs.Keeps (named earlier)) :
    (call.install hs).Keeps (named (earlier ++ call.checks)) := by
  cases call with
  | single c => exact keeps.register
  | several checks => exact keeps.registerAll .build
  | pair name liveness readiness =>
    have both := (keeps.register (c := ⟨.liveness, name, liveness⟩)).register
      (c := ⟨.readiness, name, readiness⟩)
    rw [List.append_assoc] at both
    exact both
  | reporter checks => exact keeps.registerAll .build

/-- By induction on the calls, what they install is kept. -/
lemma foldl_install_keeps {hs : HealthChecks κ} {earlier} (keeps : hs.Keeps (named earlier)) :
    (calls.foldl (fun hs call => call.install hs) hs).Keeps
      (named (earlier ++ calls.flatMap checks)) := by
  induction calls generalizing hs earlier with
  | nil =>
    rw [List.flatMap_nil, List.append_nil]
    exact keeps
  | cons call calls ih =>
    rw [List.flatMap_cons, ← List.append_assoc]
    exact ih (install_keeps keeps)

/-- All calls that a fresh orchestrator takes are kept. -/
lemma performAll_keeps (fresh : w.orchestrator.health = {}) (taken : w.Takes calls) :
    (performAll calls w).2.orchestrator.health.Keeps (registered calls) := by
  rw [performAll_eq taken]
  show (calls.foldl (fun hs call => call.install hs) w.orchestrator.health).Keeps _
  rw [fresh]
  have none : HealthChecks.Keeps ({} : HealthChecks κ) (named []) := .nil
  exact foldl_install_keeps none

/-! ## Calls without names, and other orders -/

/-- Stripping a call changes none of its checks with a name. -/
lemma named_stripped : named (call.stripped.flatMap checks) = named call.checks := by
  cases call with
  | single c =>
    rw [stripped]
    split
    case isTrue empty => simp [checks, named, empty]
    case isFalse => rfl
  | several checks => simp [stripped, HealthCall.checks, named]
  | pair name liveness readiness =>
    rw [stripped]
    split
    case isTrue empty => simp [checks, named, empty]
    case isFalse => rfl
  | reporter checks => simp [stripped, HealthCall.checks, named]

/-- Stripping calls changes nothing that they register. -/
lemma registered_stripped : registered (calls.flatMap stripped) = registered calls := by
  induction calls with
  | nil => rfl
  | cons call calls ih =>
    rw [registered, List.flatMap_cons, List.flatMap_append, named_append, named_stripped]
    rw [registered, List.flatMap_cons, named_append]
    exact congrArg _ ih

/-- Stripped calls are refused no more than the calls. -/
lemma takes_stripped (taken : w.Takes calls) : w.Takes (calls.flatMap stripped) := by
  intro call member needs
  obtain ⟨whole, member, part⟩ := List.mem_flatMap.1 member
  apply taken whole member
  cases whole with
  | single c =>
    rw [stripped] at part
    split at part
    · cases part
    · rw [List.mem_singleton.1 part] at needs
      exact needs
  | several checks =>
    rw [List.mem_singleton.1 part] at needs
    exact needs
  | pair => trivial
  | reporter => trivial

/-- All records are the same, so that their order does not matter. -/
lemma records_eq {r} (member : r ∈ call.records) : r = .namelessCheck := by
  have nameless : ∀ {checks : NameMap (Callback κ)}, r ∈ HealthChecks.nameless checks →
      r = .namelessCheck := by
    intro checks member
    obtain ⟨_, -, rfl⟩ := List.mem_map.1 member
    rfl
  have passedOver : ∀ {hs : HealthChecks κ}, r ∈ hs.passedOver → r = .namelessCheck := by
    intro hs member
    exact (List.mem_append.1 member).elim nameless nameless
  cases call with
  | single c =>
    rw [records] at member
    split at member
    · exact List.mem_singleton.1 member
    · cases member
  | several checks => exact passedOver member
  | pair => cases member
  | reporter checks => exact passedOver member

/-- Calls in another order leave the same records, in another order. -/
lemma flatMap_records_perm (perm : calls'.Perm calls) :
    calls'.flatMap records = calls.flatMap records := by
  have all : ∀ calls : List (HealthCall κ), ∀ r ∈ calls.flatMap records, r = .namelessCheck := by
    intro calls r member
    obtain ⟨call, -, member⟩ := List.mem_flatMap.1 member
    exact records_eq member
  rw [List.eq_replicate_of_mem (all calls'), List.eq_replicate_of_mem (all calls),
    (perm.flatMap_right records).length_eq]

/-- An orchestrator is changed in its health checks alone. -/
lemma orchestrator_eq (taken : w.Takes calls) (taken' : w.Takes calls')
    (same : ∀ side, (performAll calls w).2.orchestrator.health.side side =
      (performAll calls' w).2.orchestrator.health.side side) :
    (performAll calls w).2.orchestrator = (performAll calls' w).2.orchestrator := by
  have same := HealthChecks.ext_side same
  rw [performAll_eq taken, performAll_eq taken'] at same ⊢
  exact congrArg (fun hs => { w.orchestrator with health := hs }) same

/-- Whatever calls register health checks, a side has as many as there are names registered on it,
and under each name the last one registered there. A missing half passes; a pair without a name is
refused and changes nothing, and any other check without a name is left out; a side depends on its
own last checks alone, and calls in another order with the same last checks lead to the same
world. -/
theorem performAll_keeps_last (fresh : w.orchestrator.health = {}) (taken : w.Takes calls) :
    (performAll calls w).1 = calls.map answer ∧
    (∀ side,
      ((performAll calls w).2.orchestrator.health.side side).length =
        (names side (registered calls)).dedup.length ∧
      ∀ name, NameMap.get? name ((performAll calls w).2.orchestrator.health.side side) =
        last? side name (registered calls)) ∧
    (∀ (b : Behaviour κ υ) side ctx name,
      Health.runCheck b side ctx name none = pure ⟨name, none⟩) ∧
    (∀ liveness readiness, ∀ v : World κ υ, v.orchestrator.claimed = false →
      (pair "" liveness readiness).perform v = (.error .healthCheckNameRequired, v)) ∧
    (performAll (calls.flatMap stripped) w).2.orchestrator = (performAll calls w).2.orchestrator ∧
    (∀ calls' side, w.Takes calls' →
      (∀ name, last? side name (registered calls') = last? side name (registered calls)) →
      (performAll calls' w).2.orchestrator.health.side side =
        (performAll calls w).2.orchestrator.health.side side) ∧
    ∀ calls', calls'.Perm calls →
      (∀ side name, last? side name (registered calls') = last? side name (registered calls)) →
      (performAll calls' w).2 = (performAll calls w).2 := by
  have keeps := performAll_keeps fresh taken
  -- a side is determined by the last checks of it
  have sides : ∀ calls' side, w.Takes calls' →
      (∀ name, last? side name (registered calls') = last? side name (registered calls)) →
      (performAll calls' w).2.orchestrator.health.side side =
        (performAll calls w).2.orchestrator.health.side side := by
    intro calls' side taken' same
    exact (performAll_keeps fresh taken').unique keeps same
  refine ⟨?_, fun side => ⟨keeps.count, keeps.last side⟩, fun _ _ _ _ => rfl, ?_, ?_, sides, ?_⟩
  · rw [performAll_eq taken]
  · intro liveness readiness v unclaimed
    exact Lifecycle.registerIn_error unclaimed rfl
  · apply orchestrator_eq (takes_stripped taken) taken
    intro side
    apply sides _ _ (takes_stripped taken)
    rw [registered_stripped]
    exact fun _ => rfl
  · intro calls' perm same
    have taken' : w.Takes calls' := fun call member => taken call (perm.mem_iff.1 member)
    have health := HealthChecks.ext_side fun side => sides calls' side taken' (same side)
    rw [performAll_eq taken', performAll_eq taken] at health ⊢
    rw [flatMap_records_perm perm]
    exact congrArg (fun hs => w.withHealth hs _) health

/-- Calls of all kinds: names that are used again, and empty ones. -/
def mixedCalls : List (HealthCall Outcome) :=
  [.single ⟨.liveness, "db", some (.error (.text "down"))⟩,
    .several [⟨.readiness, "", none⟩, ⟨.readiness, "queue", some (.ok ())⟩],
    .pair "db" none (some (.error (.text "slow"))),
    .pair "" none none,
    .reporter [⟨.readiness, "queue", none⟩, ⟨.liveness, "", none⟩,
      ⟨.readiness, "queue", some (.error (.text "full"))⟩]]

/-- After calls of all kinds, liveness has one check and readiness two, under each name the last
one; the first two calls may as well come in the other order. -/
theorem performAll_mixedCalls :
    let after := performAll mixedCalls (World.around {})
    let checks := after.2.orchestrator.health
    after.1 = [.ok (), .ok (), .ok (), .error .healthCheckNameRequired, .ok ()] ∧
    checks.liveness.length = 1 ∧ checks.readiness.length = 2 ∧
    NameMap.get? "db" checks.liveness = some none ∧
    NameMap.get? "queue" checks.readiness = some (some (.error (.text "full"))) ∧
    (performAll ((mixedCalls.take 2).reverse ++ mixedCalls.drop 2) (World.around {})).2 =
      after.2 := by
  have taken : (World.around {} : World Outcome Unit).Takes mixedCalls := fun _ _ _ => rfl
  obtain ⟨answers, kept, -, -, -, -, order⟩ := performAll_keeps_last rfl taken
  refine ⟨answers, (kept .liveness).1, (kept .readiness).1, (kept .liveness).2 "db",
    (kept .readiness).2 "queue", order _ ?_ ?_⟩
  · exact (List.reverse_perm _).append_right _
  · intro side name
    cases side <;> rfl

end HealthCall

end Supervision
