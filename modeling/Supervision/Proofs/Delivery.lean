import Mathlib.Data.List.Basic
import Mathlib.Tactic.Lemma
import Supervision.Server.Slot

/-!
# Delivery of reports

What comes out of a slot, whatever is done with it and in which order. `Slot.Standing.use` says what
one use of a slot preserves, `Slot.run_standing` what a whole course of uses does, and
`Slot.run_delivers` that the one report of the course is delivered at most once, by the first drain
that comes after it.
-/

namespace Supervision.Server.Slot

/-- What is done with a slot. -/
inductive Use where
  | report (e : ServerError)
  | drop
  | drain

/-- What a use takes out of a slot, and the slot after it. -/
def use (slot : Slot) : Use → Option ServerError × Slot
  | .report e => (none, (slot.report e).2)
  | .drop => (none, slot.drop.2)
  | .drain => slot.drain

/-- What each use in a course takes out of a slot, and the slot at the end. -/
def run : List Use → Slot → List (Option ServerError) × Slot
  | [], slot => ([], slot)
  | u :: rest, slot =>
    let (taken, slot) := slot.use u
    let (more, slot) := run rest slot
    (taken :: more, slot)

/-- The report of a course: the first use that is not a drain. There is none after a drop, and there
is no second one. -/
inductive Reported : List Use → ServerError → Prop where
  | now {e later} :
    Reported (.report e :: later) e
  | drain {e later} :
    Reported later e →
    Reported (.drain :: later) e

/-- Nothing but drains. -/
def OnlyDrains (uses : List Use) : Prop :=
  ∀ u ∈ uses, u = .drain

variable {uses before after : List Use} {taken : List (Option ServerError)} {slot : Slot}
  {e : ServerError} {u : Use}

/-- The first use takes out its part, and the others theirs after it. -/
lemma run_cons {rest : List Use} :
    run (u :: rest) slot =
      ((slot.use u).1 :: (run rest (slot.use u).2).1, (run rest (slot.use u).2).2) := rfl

/-- The uses before leave the slot to the uses after them. -/
lemma run_append :
    run (before ++ after) slot =
      ((run before slot).1 ++ (run after (run before slot).2).1,
        (run after (run before slot).2).2) := by
  induction before generalizing slot with
  | nil => rfl
  | cons u before ih => rw [List.cons_append, run_cons, run_cons, ih, List.cons_append]

/-- Every use takes something or nothing. -/
lemma length_run : (run uses slot).1.length = uses.length := by
  induction uses generalizing slot with
  | nil => rfl
  | cons u uses ih => rw [run_cons, List.length_cons, List.length_cons, ih]

/-! ## Reports -/

/-- A drain at the end does not change whether there were only drains. -/
lemma onlyDrains_concat_drain : OnlyDrains (uses ++ [.drain]) ↔ OnlyDrains uses := by
  rw [OnlyDrains, List.forall_mem_append, List.forall_mem_singleton, and_iff_left rfl, OnlyDrains]

/-- A use of another kind at the end does. -/
lemma not_onlyDrains_concat (other : u ≠ .drain) : ¬OnlyDrains (uses ++ [u]) :=
  fun only => other (only u (by simp))

/-- What was reported was not only drained. -/
lemma Reported.not_onlyDrains (reported : Reported uses e) : ¬OnlyDrains uses := by
  induction reported with
  | now => exact fun only => nomatch only _ List.mem_cons_self
  | drain _ ih => exact fun only => ih fun u member => only u (List.mem_cons_of_mem _ member)

/-- What was reported stays reported. -/
lemma Reported.append (reported : Reported before e) : Reported (before ++ after) e := by
  induction reported with
  | now => exact .now
  | drain _ ih => exact .drain ih

/-- After nothing but drains, the report is still to come. -/
lemma reported_append_of_onlyDrains (only : OnlyDrains before) :
    Reported (before ++ after) e ↔ Reported after e := by
  induction before with
  | nil => rfl
  | cons u before ih =>
    obtain ⟨rfl, others⟩ := List.forall_mem_cons.1 only
    constructor
    · rintro (_ | later)
      exact (ih others).1 later
    · exact fun reported => .drain ((ih others).2 reported)

/-- Once something other than a drain was done, nothing more is reported. -/
lemma reported_append (some : ¬OnlyDrains before) :
    Reported (before ++ after) e ↔ Reported before e := by
  refine ⟨fun reported => ?_, .append⟩
  induction before with
  | nil => exact absurd nofun some
  | cons u before ih =>
    cases reported with
    | now => exact .now
    | drain later =>
      refine .drain (ih (fun only => some ?_) later)
      exact List.forall_mem_cons.2 ⟨rfl, only⟩

/-- Without uses, nothing was reported. -/
lemma not_reported_nil : ¬Reported [] e := nofun

/-- After a drop, nothing is reported. -/
lemma not_reported_drop : ¬Reported (.drop :: after) e := nofun

/-! ## One use -/

/-- Nothing was taken out of a slot. -/
def TookNothing (taken : List (Option ServerError)) : Prop :=
  ∀ t ∈ taken, t = none

/-- Nothing was taken if nothing was taken at the end and nothing before. -/
lemma tookNothing_concat {t : Option ServerError} :
    TookNothing (taken ++ [t]) ↔ TookNothing taken ∧ t = none := by
  rw [TookNothing, List.forall_mem_append, List.forall_mem_singleton, TookNothing]

/-- How a slot stands after some uses that have taken something out of it, or nothing. -/
structure Standing (uses : List Use) (taken : List (Option ServerError)) (slot : Slot) : Prop where
  reporting : slot.reporting = true ↔ OnlyDrains uses
  /-- The report stays in the slot until it is taken. -/
  content : ∀ e, slot.content = some e ↔ Reported uses e ∧ TookNothing taken
  /-- Nothing but the report is taken. -/
  delivered : ∀ e, some e ∈ taken → Reported uses e
  once : taken.countP Option.isSome ≤ 1

namespace Standing

/-- An unused slot stands as it was made. -/
lemma nil : Standing [] [] {} where
  reporting := iff_of_true rfl nofun
  content _ := iff_of_false nofun fun h => not_reported_nil h.1
  delivered _ h := nomatch h
  once := Nat.zero_le 1

/-- As long as there is nothing but drains, nothing is taken. -/
lemma tookNothing (standing : Standing uses taken slot) (only : OnlyDrains uses) :
    TookNothing taken := by
  intro t member
  cases t with
  | none => rfl
  | some e => exact absurd only (standing.delivered e member).not_onlyDrains

/-- A use that takes nothing, after which the course has the same report and the slot the same
content. -/
lemma silent {slot' : Slot} (standing : Standing uses taken slot)
    (reporting : slot'.reporting = true ↔ OnlyDrains (uses ++ [u]))
    (content : slot'.content = slot.content)
    (same : ∀ e, Reported (uses ++ [u]) e ↔ Reported uses e) :
    Standing (uses ++ [u]) (taken ++ [none]) slot' where
  reporting := reporting
  content e := by rw [content, standing.content, same, tookNothing_concat, and_iff_left rfl]
  delivered e member := by
    rw [same]
    exact standing.delivered e (by simpa using member)
  once := by simpa using standing.once

/-- How the slot stands after a report: the first one fills it, and others do nothing. -/
lemma report (standing : Standing uses taken slot) (e : ServerError) :
    Standing (uses ++ [.report e]) (taken ++ [none]) (slot.report e).2 := by
  have closes : ¬OnlyDrains (uses ++ [.report e]) := not_onlyDrains_concat nofun
  cases open' : slot.reporting with
  | false =>
    have before : ¬OnlyDrains uses := by simp [← standing.reporting, open']
    have kept : slot.report e = (false, slot) := by simp [Slot.report, open']
    rw [kept]
    have stays : slot.reporting = true ↔ OnlyDrains (uses ++ [.report e]) :=
      iff_of_false (by simp [open']) closes
    exact standing.silent stays rfl fun _ => reported_append before
  | true =>
    have before : OnlyDrains uses := standing.reporting.1 open'
    have nothing : TookNothing (taken ++ [none]) :=
      tookNothing_concat.2 ⟨standing.tookNothing before, rfl⟩
    have filled : slot.report e = (true, ⟨false, some e⟩) := by simp [Slot.report, open']
    rw [filled]
    refine ⟨iff_of_false nofun closes, fun e' => ?_, fun e' member => ?_, ?_⟩
    · rw [reported_append_of_onlyDrains before, and_iff_left nothing]
      constructor
      · rintro ⟨⟩
        exact .now
      · rintro (_ | later)
        rfl
    · cases nothing _ member
    · simpa using standing.once

/-- How the slot stands after a drop: it is closed, and keeps what was reported. -/
lemma drop (standing : Standing uses taken slot) :
    Standing (uses ++ [.drop]) (taken ++ [none]) slot.drop.2 := by
  refine standing.silent (iff_of_false nofun (not_onlyDrains_concat nofun)) rfl fun e => ?_
  by_cases before : OnlyDrains uses
  · rw [reported_append_of_onlyDrains before]
    exact iff_of_false not_reported_drop fun reported => reported.not_onlyDrains before
  · exact reported_append before

/-- How the slot stands after a drain: it takes what was reported, once. -/
lemma drain (standing : Standing uses taken slot) :
    Standing (uses ++ [.drain]) (taken ++ [slot.drain.1]) slot.drain.2 := by
  have reporting : slot.reporting = true ↔ OnlyDrains (uses ++ [.drain]) := by
    rw [standing.reporting, onlyDrains_concat_drain]
  -- a drain is no report, and so it does not change which one is the first
  have same (e : ServerError) : Reported (uses ++ [.drain]) e ↔ Reported uses e := by
    refine ⟨fun reported => ?_, .append⟩
    by_cases before : OnlyDrains uses
    · exact absurd (onlyDrains_concat_drain.2 before) reported.not_onlyDrains
    · exact (reported_append before).1 reported
  cases content : slot.content with
  | none =>
    have idle : slot.drain = (none, slot) := by
      obtain ⟨open', inside⟩ := slot
      cases content
      rfl
    rw [idle]
    exact standing.silent reporting rfl same
  | some e =>
    -- an error is in the slot only if nothing was taken, so this is the first to come out
    obtain ⟨reported, nothing⟩ := (standing.content e).1 content
    have taken' : slot.drain = (some e, { slot with content := none }) := by
      rw [Slot.drain, content]
    rw [taken']
    refine ⟨reporting, fun e' => iff_of_false nofun ?_, fun e' member => ?_, ?_⟩
    · rintro ⟨-, nothing'⟩
      cases (tookNothing_concat.1 nothing').2
    · rw [same]
      rcases List.mem_append.1 member with earlier | now
      · cases nothing _ earlier
      · cases List.mem_singleton.1 now
        exact reported
    · have none : taken.countP Option.isSome = 0 :=
        List.countP_eq_zero.2 fun t member => by simp [nothing t member]
      rw [List.countP_append, none]
      exact Nat.le_refl 1

/-- What one use preserves. -/
lemma use (standing : Standing uses taken slot) (u : Use) :
    Standing (uses ++ [u]) (taken ++ [(slot.use u).1]) (slot.use u).2 := by
  cases u with
  | report e => exact standing.report e
  | drop => exact standing.drop
  | drain => exact standing.drain

end Standing

/-- What a whole course of uses preserves. -/
lemma run_standing (standing : Standing uses taken slot) :
    Standing (uses ++ after) (taken ++ (run after slot).1) (run after slot).2 := by
  induction after generalizing uses taken slot with
  | nil => simpa [run] using standing
  | cons u after ih =>
    rw [run_cons, List.append_cons, List.append_cons taken]
    exact ih (standing.use u)

/-! ## Courses of uses -/

/-- By induction on the uses from their end, the slot stands as it should. -/
lemma standing (uses : List Use) : Standing uses (run uses {}).1 (run uses {}).2 :=
  run_standing .nil

/-- What is taken by the use that follows some others. -/
lemma getElem?_run : (run (before ++ u :: after) slot).1[before.length]? =
    some ((run before slot).2.use u).1 := by
  rw [run_append, List.getElem?_append_right (Nat.le_of_eq length_run), length_run, Nat.sub_self]
  rfl

/-- What the first uses take does not depend on the later ones. -/
lemma take_run : (run (before ++ after) slot).1.take before.length = (run before slot).1 := by
  rw [run_append, List.take_left' length_run]

/-- A slot from which one has only drained is as it was. -/
lemma run_of_onlyDrains (only : OnlyDrains uses) : (run uses {}).2 = {} := by
  have open' := (standing uses).reporting.2 only
  have empty : (run uses {}).2.content = none :=
    Option.eq_none_iff_forall_ne_some.2 fun e here =>
      (((standing uses).content e).1 here).1.not_onlyDrains only
  generalize (run uses {}).2 = slot at open' empty
  obtain ⟨reporting, content⟩ := slot
  cases open'
  cases empty
  rfl

/-- Without a report, nothing is taken. -/
lemma tookNothing_run (none : ∀ e, ¬Reported uses e) : TookNothing (run uses {}).1 := by
  intro t member
  cases t with
  | none => rfl
  | some e => exact absurd ((standing uses).delivered e member) (none e)

/-- A drain takes an error if and only if this one was reported before and no earlier use has taken
anything. Nothing but a drain takes anything, and at most one use of a whole course does. Until then
the report stays in the slot, whatever else is done with it; drains before it leave the slot as it
was; and nothing is ever taken if the report is given up first. -/
theorem run_delivers (uses : List Use) :
    (∀ ⦃before after⦄, uses = before ++ .drain :: after → ∀ e,
      (run uses {}).1[before.length]? = some (some e) ↔
        Reported before e ∧ TookNothing ((run uses {}).1.take before.length)) ∧
      (∀ ⦃before u after⦄, uses = before ++ u :: after → u ≠ .drain →
        (run uses {}).1[before.length]? = some none) ∧
      (run uses {}).1.countP Option.isSome ≤ 1 ∧
      (∀ e, (run uses {}).2.content = some e ↔ Reported uses e ∧ TookNothing (run uses {}).1) ∧
      (OnlyDrains uses → (run uses {}).2 = {}) ∧
      ∀ ⦃before after⦄, uses = before ++ .drop :: after → OnlyDrains before →
        TookNothing (run uses {}).1 := by
  refine ⟨?drains, ?others, (standing uses).once, (standing uses).content, run_of_onlyDrains,
    ?dropped⟩
  case drains =>
    rintro before after rfl e
    rw [getElem?_run, take_run, Option.some_inj]
    exact (standing before).content e
  case others =>
    rintro before u after rfl other
    rw [getElem?_run]
    cases u with
    | report e => rfl
    | drop => rfl
    | drain => exact absurd rfl other
  case dropped =>
    rintro before after rfl only
    refine tookNothing_run fun e reported => ?_
    exact not_reported_drop ((reported_append_of_onlyDrains only).1 reported)

/-- A slot that is drained too early, and again after the end of the task that reported. -/
theorem run_delivers_late :
    let uses : List Use := [.drain, .report .alreadyStarted, .drop, .drain, .drain]
    (run uses {}).1 = [none, none, none, some .alreadyStarted, none] ∧
      (run uses {}).1.countP Option.isSome ≤ 1 ∧
      (Reported (uses.take 3) .alreadyStarted ∧ TookNothing ((run uses {}).1.take 3)) ∧
      (run (uses.take 3) {}).2.content = some .alreadyStarted ∧
      (run (uses.take 1) {}).2 = {} ∧
      TookNothing (run [.drain, .drop, .report .alreadyStarted, .drain] {}).1 := by
  intro uses
  have delivers := run_delivers uses
  have reported : Reported (uses.take 3) .alreadyStarted := .drain .now
  have late : uses = uses.take 3 ++ .drain :: [.drain] := rfl
  have nothing : TookNothing ((run uses {}).1.take 3) := ((delivers.1 late _).1 rfl).2
  have early (u : Use) (member : u ∈ [.drain]) : u = .drain := List.mem_singleton.1 member
  have dropped : [Use.drain, .drop, .report .alreadyStarted, .drain] =
      [.drain] ++ .drop :: [.report .alreadyStarted, .drain] := rfl
  refine ⟨rfl, delivers.2.2.1, ⟨reported, nothing⟩, ?_, ?_, ?_⟩
  · exact ((run_delivers (uses.take 3)).2.2.2.1 _).2 ⟨reported, nothing⟩
  · exact (run_delivers (uses.take 1)).2.2.2.2.1 early
  · exact (run_delivers _).2.2.2.2.2 dropped early

end Supervision.Server.Slot
