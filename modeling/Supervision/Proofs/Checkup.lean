import Mathlib.Algebra.Group.Prod
import Mathlib.Algebra.Order.Group.Multiset
import Mathlib.Data.String.Basic
import Mathlib.Tactic.SplitIfs
import Supervision.Proofs.Bystanders
import Supervision.Proofs.Checks
import Supervision.Proofs.Rest
import Supervision.Proofs.SideBySide

/-!
# Requests about health

A request about health runs every check of a side once, all of them side by side, and answers with
one result for each name, in the order of the bytes of the names. `check_side_by_side` says what it
answers and what it leaves behind, whatever else goes on, and how long it takes by the clock.
-/

namespace Supervision

variable {κ υ α M : Type}

/-! ## The order of names -/

/-- The bytes of a character come before those of a greater one, whatever follows. -/
lemma utf8EncodeChar_lt {c d : Char} (before : c < d) (l l' : List UInt8) :
    String.utf8EncodeChar c ++ l < String.utf8EncodeChar d ++ l' := by
  have codes : c.val.toNat < d.val.toNat := before
  have limit : d.val.toNat < 0x110000 :=
    d.valid.elim (fun low => Nat.lt_trans low (by decide)) And.right
  -- the digits to the base of 64
  have digits (v : Nat) : v / 64 = 64 * (v / 4096) + v / 64 % 64 ∧
      v / 4096 = 64 * (v / 262144) + v / 4096 % 64 := by omega
  obtain ⟨c₁, c₂⟩ := digits c.val.toNat
  obtain ⟨d₁, d₂⟩ := digits d.val.toNat
  have c₃ : (c.val.toNat / 262144 % 8 + 240) % 2 ^ 8 = c.val.toNat / 262144 + 240 := by omega
  have d₃ : (d.val.toNat / 262144 % 8 + 240) % 2 ^ 8 = d.val.toNat / 262144 + 240 := by omega
  have tail (n : Nat) : (n % 64 + 128) % 2 ^ 8 = n % 64 + 128 := by omega
  unfold String.utf8EncodeChar
  dsimp only
  split_ifs <;>
    simp only [List.cons_append, List.nil_append, List.cons_lt_cons_iff, UInt8.lt_iff_toNat_lt,
      ← UInt8.toNat_inj, UInt8.toNat_ofNat', tail, c₃, d₃] <;> omega

/-- Names are in the order of their bytes. -/
lemma toUTF8_lt {s t : String} (before : s < t) :
    s.toUTF8.data.toList < t.toUTF8.data.toList := by
  have bytes (s : String) : s.toUTF8.data.toList = s.toList.flatMap String.utf8EncodeChar := by
    conv => lhs; rw [← String.ofList_toList (s := s)]
    rw [String.toUTF8_eq_toByteArray]
    exact List.toList_data_toByteArray
  rw [bytes, bytes]
  rw [String.lt_iff_toList_lt] at before
  generalize s.toList = l at before
  generalize t.toList = l' at before
  induction before with
  | @nil c rest =>
    cases encoded : String.utf8EncodeChar c with
    | nil => exact absurd encoded String.utf8EncodeChar_ne_nil
    | cons x xs =>
      rw [List.flatMap_cons, encoded]
      exact .nil
  | cons _ ih =>
    rw [List.flatMap_cons, List.flatMap_cons]
    exact List.append_left_lt ih
  | rel before =>
    rw [List.flatMap_cons, List.flatMap_cons]
    exact utf8EncodeChar_lt before _ _

/-! ## What checks do -/

namespace Health
open Activity

variable {b : Behaviour κ υ} {side : HealthSide} {ctx : Token} {w u : World κ υ}

/-- The result of a check by its outcome. -/
def resultOf (name : String) : Outcome → CheckResult
  | .ok () => ⟨name, none⟩
  | .error cause => ⟨name, some cause.message⟩

/-- The results of checks by their outcomes. -/
def resultsOf (checks : NameMap (Callback κ)) (outcomes : List Outcome) : List CheckResult :=
  List.zipWith (fun c o => resultOf c.1 o) checks outcomes

section
variable [AddCommMonoid M] {m : World κ υ → M} {logs : String → Cause → M} {counts : String → M}

/-- What is added for a check by its outcome. -/
def addedFor (logs : String → Cause → M) (counts : String → M) (name : String) : Outcome → M
  | .ok () => 0
  | .error cause => logs name cause + counts name

/-- What the steps of a request add to what `m` measures. -/
structure Measures (side : HealthSide) (logs : String → Cause → M) (counts : String → M)
    (m : World κ υ → M) : Prop where
  fresh : ∀ w, m w.freshToken.2 = m w
  logged : ∀ w name cause, m (w.log (.checkFailed side name cause)) = m w + logs name cause
  counted : ∀ w name, m (w.count (.healthCheckFailure side name)) = m w + counts name

variable {Q : Callback κ → M → Outcome → Prop}

/-- What a check adds itself, and what is added for it. -/
lemma adds_runCheck (measures : Measures side logs counts m) (name : String) {check : Callback κ}
    (adds : Adds m (Q check) 0 (check.call b ctx)) :
    Adds m (fun x result => ∃ o y, Q check y o ∧ x = y + addedFor logs counts name o ∧
      result = resultOf name o) 0 (runCheck b side ctx name check) := by
  refine adds.bind fun x o ends => ?_
  cases o with
  | ok => exact .done ⟨.ok (), x, ends, (add_zero x).symm, rfl⟩
  | error cause =>
    refine .act (fun w => measures.logged w name cause) fun _ => ?_
    refine .act (fun w => measures.counted w name) fun _ => ?_
    exact .done ⟨.error cause, x, ends, add_assoc _ _ _, rfl⟩

/-- What checks add themselves, and what is added for them. -/
def Totals (logs : String → Cause → M) (counts : String → M) (Q : Callback κ → M → Outcome → Prop)
    (checks : NameMap (Callback κ)) (x : M) (results : List CheckResult) : Prop :=
  ∃ outcomes y, Each (fun c => Q c.2) checks y outcomes ∧
    x = y + (List.zipWith (fun c o => addedFor logs counts c.1 o) checks outcomes).sum ∧
    results = resultsOf checks outcomes

/-- What every check adds, and what is added for it, make the totals of a request. -/
lemma totals_of_each {checks : NameMap (Callback κ)} {x : M} {results : List CheckResult}
    (each : Each (fun c x result => ∃ o y, Q c.2 y o ∧ x = y + addedFor logs counts c.1 o ∧
      result = resultOf c.1 o) checks x results) : Totals logs counts Q checks x results := by
  induction each with
  | nil => exact ⟨[], 0, .nil, (add_zero 0).symm, rfl⟩
  | cons here _ ih =>
    obtain ⟨o, y, ends, rfl, rfl⟩ := here
    obtain ⟨outcomes, z, rest, rfl, rfl⟩ := ih
    refine ⟨o :: outcomes, y + z, .cons ends rest, ?_, rfl⟩
    rw [List.zipWith_cons_cons, List.sum_cons]
    exact add_add_add_comm _ _ _ _

/-- All checks of a request are run under one context. -/
lemma adds_runChecks (measures : Measures side logs counts m) {checks : NameMap (Callback κ)}
    {Q : Token → Callback κ → M → Outcome → Prop}
    (adds : ∀ ctx, ∀ c ∈ checks, Adds m (Q ctx c.2) 0 (c.2.call b ctx)) :
    Adds m (fun x response => ∃ ctx results, Totals logs counts (Q ctx) checks x results ∧
      response = .ofResults results) 0 (runChecks b side checks) := by
  refine .nothing measures.fresh fun w => ?_
  have each := Adds.all fun c member => adds_runCheck measures c.1 (adds w.freshToken.1 c member)
  exact each.bind fun x results each => .done ⟨_, results, totals_of_each each, rfl⟩

end

/-! ## How long checks take -/

section
variable {t n : Nat}

/-- A check lasts as long as its callback. -/
lemma lasts_runCheck {name : String} {check : Callback κ}
    (lasts : (check.call b ctx).Lasts World.now t n) :
    (runCheck b side ctx name check).Lasts World.now t n := by
  refine lasts.bind (Nat.le_refl t) fun o => ?_
  cases o with
  | ok => exact .done
  | error cause =>
    refine .act (Nat.le_refl t) (fun _ same => same) fun _ _ => ?_
    exact .act (Nat.le_refl t) (fun _ same => same) fun _ _ => .done

/-- How long the slowest of some checks takes. -/
def slowest (duration : κ → Nat) (checks : NameMap (Callback κ)) : Nat :=
  (checks.map fun c => c.2.elim 0 duration).foldr max 0

/-- Checks with durations of their own. -/
def Durations (duration : κ → Nat) (b : Behaviour κ υ) : Prop :=
  ∀ handle ctx n, (b handle ctx).Lasts World.now (n + duration handle) n

/-- The checks of a side last as long as the slowest of them. -/
lemma lasts_runChecks {duration : κ → Nat} (lasts : Durations duration b)
    {checks : NameMap (Callback κ)} :
    (runChecks b side checks).Lasts World.now (n + slowest duration checks) n := by
  have called (ctx : Token) (check : Callback κ) :
      (check.call b ctx).Lasts World.now (n + check.elim 0 duration) n := by
    cases check with
    | none => exact .done
    | some handle => exact lasts handle ctx n
  refine .act (Nat.le_add_right _ _) (fun _ same => same) fun w _ => ?_
  have each : ∀ c ∈ checks, (runCheck b side w.freshToken.1 c.1 c.2).Lasts World.now
      (n + c.2.elim 0 duration) n := fun c _ => lasts_runCheck (called _ c.2)
  exact (Lasts.all each).map

end

end Health

namespace World
open Activity

variable {n t horizon : Nat} {w : World κ υ} {trigger : Trigger (World κ υ)}

/-- A trigger for an instant is punctual. -/
lemma isPunctual_of_isInstant (instant : trigger.IsInstant now n) : trigger.IsPunctual := by
  have waits {w : World κ υ} : trigger.ready w = false ↔ w.now < n := by
    rw [← Bool.not_eq_true, instant.ready, Nat.not_le]
  refine ⟨instant.busy, fun w alarm early next => ?_, fun w later early before => ?_⟩
  · rw [waits] at early
    cases (instant.alarm w early).symm.trans next
    exact early
  · rw [waits] at early ⊢
    exact before n (instant.alarm w early)

/-- By the clock, an activity that lasts a time comes to its end when the time is over. -/
theorem run_lasts {p : Flow κ υ α} (lasts : p.Lasts now t n) (begins : w.now = n)
    (enough : t ≤ horizon) :
    ∃ a u, World.clockwork.run horizon p w = (some a, u) ∧ u.now = t := by
  induction lasts generalizing w with
  | @done a => exact ⟨a, w, rfl, begins⟩
  | act _ keeps _ ih => exact ih w begins (keeps w begins)
  | @wait n m trigger next limit instant _ ih =>
    rw [Clockwork.run]
    by_cases ready : trigger.ready w = true
    · rw [if_pos ready]
      rw [instant.ready] at ready
      have here : w.now = max n m := by omega
      exact ih w here here
    · rw [if_neg ready]
      rw [instant.ready] at ready
      have passes : World.clockwork.passTime trigger (horizon - World.clockwork.now w) w =
          some (w.leftAlone (m - w.now)) := by
        refine passTime_leftAlone (isPunctual_of_isInstant instant) (fun j before => ?_) ?_ ?_
        · rw [← Bool.not_eq_true, instant.ready, now_leftAlone]
          omega
        · rw [instant.ready, now_leftAlone]
          omega
        · show m - w.now ≤ horizon - w.now
          omega
      rw [passes]
      have here : (w.leftAlone (m - w.now)).now = max n m := by
        rw [now_leftAlone]
        omega
      exact ih _ here here

end World

/-! ## Requests -/

/-- Requests about health make records of this kind, and nobody else does. -/
def Record.isOfCheck : Record → Bool
  | checkFailed _ _ _ => true
  | _ => false

/-- Requests about health have samples of this metric, and nobody else has. -/
def Metric.isOfCheck : Metric → Bool
  | healthCheckFailure _ _ => true
  | _ => false

namespace World

/-- The records about failed checks. -/
def checkRecords (w : World κ υ) : List Record :=
  w.journal.filter Record.isOfCheck

/-- The samples of failed checks. -/
def checkSamples (w : World κ υ) : List Metric :=
  w.samples.filter Metric.isOfCheck

end World

/-- What checks have noted, and the records and samples about them, in no order. -/
abbrev Tally (κ : Type) := Multiset (κ × Outcome) × Multiset Record × Multiset Metric

namespace Tally

/-- The tally of some notes, records and samples. -/
def of (notes : List (κ × Outcome)) (records : List Record) (samples : List Metric) : Tally κ :=
  (notes, records, samples)

/-- The tally of two lists of each kind is the sum of their tallies. -/
lemma of_append {notes notes' : List (κ × Outcome)} {records records' : List Record}
    {samples samples' : List Metric} :
    of (notes ++ notes') (records ++ records') (samples ++ samples') =
      of notes records samples + of notes' records' samples' := by
  simp [of, ← Multiset.coe_add]

/-- Lists with the same tally are the same up to order. -/
lemma of_perm {notes notes' : List (κ × Outcome)} {records records' : List Record}
    {samples samples' : List Metric}
    (same : of notes records samples = of notes' records' samples') :
    notes.Perm notes' ∧ records.Perm records' ∧ samples.Perm samples' := by
  simpa [of] using same

end Tally

namespace World

/-- The tally of a world, with the notes in the memory of the checks. -/
def tally (notes : υ → List (κ × Outcome)) (w : World κ υ) : Tally κ :=
  .of (notes w.user) w.checkRecords w.checkSamples

variable {notes : υ → List (κ × Outcome)} {w w' : World κ υ}

/-- Noting a failed check adds its record to the tally. -/
lemma tally_log {r : Record} (ofCheck : r.isOfCheck = true) :
    (w.log r).tally notes = w.tally notes + .of [] [r] [] := by
  rw [tally, tally, ← Tally.of_append, List.append_nil, List.append_nil, checkRecords, log,
    List.filter_append, List.filter_singleton, ofCheck]
  rfl

/-- Counting a failed check adds its sample to the tally. -/
lemma tally_count {m : Metric} (ofCheck : m.isOfCheck = true) :
    (w.count m).tally notes = w.tally notes + .of [] [] [m] := by
  rw [tally, tally, ← Tally.of_append, List.append_nil, List.append_nil, checkSamples, count,
    List.filter_append, List.filter_singleton, ofCheck]
  rfl

/-- Servers note nothing about checks. -/
lemma ServersNote.tally (noted : w.ServersNote w') : w'.tally notes = w.tally notes := by
  obtain ⟨rs, journal, ofServer⟩ := noted.journal
  have foreign : rs.filter Record.isOfCheck = [] := by
    refine List.filter_eq_nil_iff.2 fun r member => ?_
    have here := ofServer r member
    cases r <;> simp [Record.isOfServer, Record.isOfCheck] at here ⊢
  rw [World.tally, World.tally, noted.user, checkSamples, noted.samples, checkRecords, journal,
    List.filter_append, foreign, List.append_nil]
  rfl

end World

/-- Nobody but the checks of a request notes anything about checks. -/
structure Setting.LeavesNotes (notes : υ → List (κ × Outcome)) (S : Setting (World κ υ)) :
    Prop where
  between : ∀ {w w'}, S.between w w' → w'.tally notes = w.tally notes
  meanwhile : ∀ {w w'}, S.meanwhile w w' → w'.tally notes = w.tally notes

/-- The clock leaves the notes of checks alone. -/
lemma leavesNotes_clockwork {notes : υ → List (κ × Outcome)} :
    World.clockwork.setting.LeavesNotes notes where
  between := by
    rintro _ _ ⟨⟩
    rfl
  meanwhile passes := (World.ServersNote.passes passes).tally

namespace Health
open Activity

variable {b : Behaviour κ υ} {side : HealthSide} {ctx : Token} {w u : World κ υ}
  {notes : υ → List (κ × Outcome)} {checks : NameMap (Callback κ)} {outcomes : List Outcome}

/-- A check notes once how it ends, and leaves the records and samples about checks to others. -/
def NotesOnce (notes : υ → List (κ × Outcome)) (b : Behaviour κ υ) : Prop :=
  ∀ handle ctx, (b handle ctx).Adds (World.tally notes) (fun x o => x = .of [(handle, o)] [] []) 0

/-- The note of a check. -/
def noteOf (check : Callback κ) (outcome : Outcome) : List (κ × Outcome) :=
  (check.map fun handle => (handle, outcome)).toList

/-- The record about a check, if it failed. -/
def recordOf (side : HealthSide) (name : String) : Outcome → List Record
  | .ok () => []
  | .error cause => [.checkFailed side name cause]

/-- The sample of a check, if it failed. -/
def sampleOf (side : HealthSide) (name : String) : Outcome → List Metric
  | .ok () => []
  | .error _ => [.healthCheckFailure side name]

/-- The tally of checks that are run once each, by their outcomes. -/
def tallyOf (side : HealthSide) (checks : NameMap (Callback κ)) (outcomes : List Outcome) :
    Tally κ :=
  .of (List.zipWith (fun c o => noteOf c.2 o) checks outcomes).flatten
    (List.zipWith (fun c o => recordOf side c.1 o) checks outcomes).flatten
    (List.zipWith (fun c o => sampleOf side c.1 o) checks outcomes).flatten

/-- What a check adds to the tally itself, and that it may end so. -/
def Ends (b : Behaviour κ υ) (ctx : Token) (check : Callback κ) (x : Tally κ) (o : Outcome) :
    Prop :=
  x = .of (noteOf check o) [] [] ∧ (check.call b ctx).MayEnd o

/-- The record about a failed check in a tally. -/
def logged (side : HealthSide) (name : String) (cause : Cause) : Tally κ :=
  .of [] [.checkFailed side name cause] []

/-- The sample of a failed check in a tally. -/
def counted (side : HealthSide) (name : String) : Tally κ :=
  .of [] [] [.healthCheckFailure side name]

/-- The tally is something that the steps of a request add to. -/
lemma measures_tally (side : HealthSide) (notes : υ → List (κ × Outcome)) :
    Measures side (logged side) (counted side) (World.tally notes) where
  fresh _ := rfl
  logged _ _ _ := World.tally_log rfl
  counted _ _ := World.tally_count rfl

/-- A check that notes once adds how it ends, and nothing else. -/
lemma adds_call (noting : NotesOnce notes b) (ctx : Token) (check : Callback κ) :
    (check.call b ctx).Adds (World.tally notes) (Ends b ctx check) 0 := by
  cases check with
  | none => exact .done ⟨rfl, .done⟩
  | some handle => exact (noting handle ctx).mayEnd

/-- What is added for a check to the tally is its record and its sample. -/
lemma addedFor_tally (name : String) (o : Outcome) :
    addedFor (logged side) (counted side) name o =
      (.of [] (recordOf side name o) (sampleOf side name o) : Tally κ) := by
  cases o with
  | ok => rfl
  | error cause => exact Tally.of_append.symm

/-- The notes, records and samples of checks that each end make the tally of them all. -/
lemma tally_of_each {x : Tally κ} (each : Each (fun c => Ends b ctx c.2) checks x outcomes) :
    x + (List.zipWith (fun c o => addedFor (logged side) (counted side) c.1 o) checks outcomes).sum =
        tallyOf side checks outcomes ∧
      List.Forall₂ (fun c o => (c.2.call b ctx).MayEnd o) checks outcomes := by
  induction each with
  | nil => exact ⟨rfl, .nil⟩
  | @cons c rest x y o outcomes here _ ih =>
    obtain ⟨rfl, may⟩ := here
    obtain ⟨sum, others⟩ := ih
    refine ⟨?_, .cons may others⟩
    rw [List.zipWith_cons_cons, List.sum_cons, add_add_add_comm, sum, addedFor_tally,
      ← Tally.of_append]
    rw [tallyOf, ← Tally.of_append, List.append_nil]
    rfl

/-- A request adds the tally of its checks. -/
lemma adds_tally (noting : NotesOnce notes b) (side : HealthSide)
    (checks : NameMap (Callback κ)) :
    (runChecks b side checks).Adds (World.tally notes)
      (fun x response => ∃ ctx outcomes,
        List.Forall₂ (fun c o => (c.2.call b ctx).MayEnd o) checks outcomes ∧
        x = tallyOf side checks outcomes ∧ response = .ofResults (resultsOf checks outcomes)) 0 := by
  have adds := adds_runChecks (measures_tally side notes) fun ctx c (_ : c ∈ checks) =>
    adds_call noting ctx c.2
  refine adds.mono fun x response total => ?_
  obtain ⟨ctx, results, ⟨outcomes, y, each, rfl, rfl⟩, rfl⟩ := total
  obtain ⟨tally, ends⟩ := tally_of_each each
  exact ⟨ctx, outcomes, ends, tally, rfl⟩

/-- The answer is that all is well if and only if no check failed. -/
lemma status_ofResults {R : String × Callback κ → Outcome → Prop}
    (ends : List.Forall₂ R checks outcomes) :
    (HealthResponse.ofResults (resultsOf checks outcomes)).status = .ok ↔
      ∀ o ∈ outcomes, o = .ok () := by
  have failed : (resultsOf checks outcomes).any (·.error.isSome) = false ↔
      ∀ o ∈ outcomes, o = .ok () := by
    induction ends with
    | nil => exact ⟨fun _ => nofun, fun _ => rfl⟩
    | @cons c o _ _ _ _ ih =>
      rw [resultsOf, List.zipWith_cons_cons, List.any_cons, Bool.or_eq_false_iff, ← resultsOf, ih,
        List.forall_mem_cons]
      cases o <;> simp [resultOf]
  rw [HealthResponse.ofResults, ← failed]
  cases (resultsOf checks outcomes).any (·.error.isSome) <;> simp

/-- The results have the names of the checks. -/
lemma names_resultsOf {R : String × Callback κ → Outcome → Prop}
    (ends : List.Forall₂ R checks outcomes) :
    (resultsOf checks outcomes).map (·.name) = checks.map Prod.fst := by
  induction ends with
  | nil => rfl
  | @cons c o _ _ _ _ ih =>
    rw [resultsOf, List.zipWith_cons_cons, List.map_cons, List.map_cons, ← resultsOf, ih]
    cases o <;> rfl

/-- A request that arrived in `w` was answered in `u`. There was one result for every name, in the
order of the bytes. Every check was run once and noted its outcome, and the answer, the records and
the samples tell which checks failed. -/
structure Report (notes : υ → List (κ × Outcome)) (b : Behaviour κ υ) (side : HealthSide)
    (registered : List (NamedCheck κ)) (w : World κ υ) (ctx : Token) (outcomes : List Outcome)
    (response : HealthResponse) (u : World κ υ) : Prop where
  ends : List.Forall₂ (fun c o => (c.2.call b ctx).MayEnd o) (w.orchestrator.health.side side)
    outcomes
  results : response.results = resultsOf (w.orchestrator.health.side side) outcomes
  names : ∀ name, name ∈ response.results.map (·.name) ↔ name ∈ NamedCheck.names side registered
  ascends : (response.results.map (·.name)).Pairwise fun name later =>
    name.toUTF8.data.toList < later.toUTF8.data.toList
  status : response.status = .ok ↔ ∀ o ∈ outcomes, o = .ok ()
  invoked : (notes u.user).Perm (notes w.user ++
    (List.zipWith (fun c o => noteOf c.2 o) (w.orchestrator.health.side side) outcomes).flatten)
  records : u.checkRecords.Perm (w.checkRecords ++
    (List.zipWith (fun c o => recordOf side c.1 o) (w.orchestrator.health.side side)
      outcomes).flatten)
  samples : u.checkSamples.Perm (w.checkSamples ++
    (List.zipWith (fun c o => sampleOf side c.1 o) (w.orchestrator.health.side side)
      outcomes).flatten)

/-- What an answered request comes to. -/
lemma report_of_runs {S : Setting (World κ υ)} {registered : List (NamedCheck κ)}
    {response : HealthResponse} (keeps : w.orchestrator.health.Keeps registered)
    (noting : NotesOnce notes b) (leaves : S.LeavesNotes notes)
    (run : (check b side).Runs S w (some response) u) :
    ∃ ctx outcomes, Report notes b side registered w ctx outcomes response u := by
  cases run with
  | act move run =>
    obtain ⟨x, sum, ctx, outcomes, ends, total, rfl⟩ :=
      (adds_tally noting side _).runs run leaves.between leaves.meanwhile
    rw [leaves.between move, ← zero_add x, total] at sum
    have same : u.tally notes = w.tally notes + tallyOf side _ outcomes := sum
    rw [World.tally, World.tally, tallyOf, ← Tally.of_append] at same
    obtain ⟨invoked, records, samples⟩ := Tally.of_perm same
    refine ⟨ctx, outcomes, ends, rfl, fun name => ?_, ?_, status_ofResults ends, invoked, records,
      samples⟩
    · rw [HealthResponse.ofResults, names_resultsOf ends, NameMap.mem_names, keeps.last,
        NamedCheck.mem_names]
    · rw [HealthResponse.ofResults, names_resultsOf ends, List.pairwise_map]
      exact (keeps.sorted side).imp toUTF8_lt

/-- What an answered request says, whatever else goes on. -/
lemma runChecks_ends {S : Setting (World κ υ)} {response : HealthResponse}
    (run : (runChecks b side checks).Runs S w (some response) u) :
    ∃ ctx outcomes, List.Forall₂ (fun c o => (c.2.call b ctx).MayEnd o) checks outcomes ∧
      response = .ofResults (resultsOf checks outcomes) := by
  have unmeasured : Measures side (fun _ _ => ()) (fun _ => ()) fun _ : World κ υ => () :=
    ⟨fun _ => rfl, fun _ _ _ => rfl, fun _ _ => rfl⟩
  have adds : (runChecks b side checks).Adds (fun _ => ()) (fun x response => ∃ ctx results,
      Totals (fun _ _ => ()) (fun _ => ()) (fun check _ o => (check.call b ctx).MayEnd o) checks x
        results ∧ response = .ofResults results) 0 :=
    adds_runChecks unmeasured fun ctx c _ => adds_unmeasured.mayEnd.mono fun _ _ => And.right
  obtain ⟨x, -, ctx, results, ⟨outcomes, y, each, -, rfl⟩, rfl⟩ :=
    adds.runs run (fun _ => rfl) fun _ => rfl
  exact ⟨ctx, outcomes, each.forall₂, rfl⟩

/-- Checks that can end in one way alone have the results of these outcomes. -/
lemma resultsOf_determined {outcome : κ → Outcome}
    (determined : ∀ handle ctx o, (b handle ctx).MayEnd o → o = outcome handle)
    (ends : List.Forall₂ (fun c o => (c.2.call b ctx).MayEnd o) checks outcomes) :
    resultsOf checks outcomes = checks.map fun c => resultOf c.1 (c.2.elim (.ok ()) outcome) := by
  induction ends with
  | nil => rfl
  | @cons c o _ _ here _ ih =>
    have same : o = c.2.elim (.ok ()) outcome := by
      cases called : c.2 with
      | none =>
        rw [called] at here
        cases here
        rfl
      | some handle =>
        rw [called] at here
        exact determined handle ctx o here
    rw [resultsOf, List.zipWith_cons_cons, ← resultsOf, ih, List.map_cons, same]

/-- Whatever else goes on, a request about health runs every check once, and tells for every name
how its check ended. By the clock, it takes as long as the slowest of its checks. If every check has
an outcome of its own, the answer depends on nothing but these and the names. -/
theorem check_side_by_side {registered : List (NamedCheck κ)}
    (keeps : w.orchestrator.health.Keeps registered) (noting : NotesOnce notes b) :
    (∀ {S : Setting (World κ υ)} {response u}, S.LeavesNotes notes →
      (check b side).Runs S w (some response) u →
      ∃ ctx outcomes, Report notes b side registered w ctx outcomes response u) ∧
    (∀ {duration : κ → Nat} {horizon}, Durations duration b →
      w.now + slowest duration (w.orchestrator.health.side side) ≤ horizon →
      ∃ response u ctx outcomes,
        World.clockwork.run horizon (check b side) w = (some response, u) ∧
        u.now = w.now + slowest duration (w.orchestrator.health.side side) ∧
        Report notes b side registered w ctx outcomes response u) ∧
    (∀ {S : Setting (World κ υ)} {response u} {outcome : κ → Outcome},
      (∀ handle ctx o, (b handle ctx).MayEnd o → o = outcome handle) →
      (check b side).Runs S w (some response) u →
      response = .ofResults ((w.orchestrator.health.side side).map fun c =>
        resultOf c.1 (c.2.elim (.ok ()) outcome))) := by
  refine ⟨fun leaves run => report_of_runs keeps noting leaves run, fun durations enough => ?_,
    fun determined run => ?_⟩
  · have arrives (horizon : Nat) : World.clockwork.run horizon (check b side) w =
        World.clockwork.run horizon (runChecks b side (w.orchestrator.health.side side)) w := rfl
    obtain ⟨response, u, run, now⟩ := World.run_lasts (lasts_runChecks durations) rfl enough
    rw [← arrives] at run
    obtain ⟨ctx, outcomes, report⟩ :=
      report_of_runs keeps noting leavesNotes_clockwork (Clockwork.run_runs run)
    exact ⟨response, u, ctx, outcomes, run, now, report⟩
  · cases run with
    | act move run =>
      obtain ⟨ctx, outcomes, ends, rfl⟩ := runChecks_ends run
      exact congrArg HealthResponse.ofResults (resultsOf_determined determined ends)

/-- Checks that cancel their context, take some time, and note how they end. -/
def timed : Behaviour (Nat × Outcome) (List ((Nat × Outcome) × Outcome)) := fun handle ctx => do
  Activity.change (World.cancel ctx)
  Flow.sleep handle.1
  Activity.change (World.changeUser fun noted => noted ++ [(handle, handle.2)])
  return handle.2

/-- The checks of the example note once how they end. -/
lemma timed_notesOnce : NotesOnce id timed := by
  intro handle ctx
  refine .nothing (fun _ => rfl) fun _ => .nothing (fun _ => rfl) fun w => ?_
  have noted : ((Activity.change (World.changeUser fun noted => noted ++ [(handle, handle.2)])).bind
      fun _ => .done handle.2).Adds (World.tally id) (fun x o => x = .of [(handle, o)] [] []) 0 := by
    have gain (w : World (Nat × Outcome) (List ((Nat × Outcome) × Outcome))) :
        (w.changeUser fun noted => noted ++ [(handle, handle.2)]).tally id =
          w.tally id + .of [(handle, handle.2)] [] [] := by
      rw [World.tally, World.tally, ← Tally.of_append, List.append_nil, List.append_nil]
      rfl
    exact .act gain fun _ => .done (zero_add _)
  refine .nothing (fun _ => rfl) fun w => ?_
  dsimp only
  split
  · exact noted
  · exact .wait fun _ => noted

/-- To sleep lasts as long as it says. -/
lemma sleep_lasts {ms n : Nat} : (Flow.sleep ms : Flow κ υ Unit).Lasts World.now (n + ms) n := by
  have instant {m : Nat} :
      (Trigger.instant World.now m : Trigger (World κ υ)).IsInstant World.now m :=
    ⟨rfl, fun _ => decide_eq_true_iff, fun _ _ => rfl⟩
  refine .act (Nat.le_add_right n ms) (fun _ same => same) fun w begins => ?_
  refine .act (Nat.le_add_right n ms) (fun _ same => same) fun v here => ?_
  rw [begins]
  split
  next ready =>
    rw [instant.ready, here] at ready
    obtain rfl : ms = 0 := by omega
    exact .done
  next =>
    have later : max n (n + ms) = n + ms := Nat.max_eq_right (Nat.le_add_right n ms)
    refine .wait ?_ instant fun _ _ => ?_
    · rw [later]
    · rw [later]
      exact .done

/-- The checks of the example last as long as they say. -/
lemma timed_durations : Durations Prod.fst timed := by
  intro handle ctx n
  refine .act (Nat.le_add_right _ _) (fun _ same => same) fun _ _ => ?_
  refine sleep_lasts.bind (Nat.le_refl _) fun _ => ?_
  exact .act (Nat.le_refl _) (fun _ same => same) fun _ _ => .done

/-- Two checks, of which the slow one fails. -/
def twoChecks : List (NamedCheck (Nat × Outcome)) :=
  [⟨.liveness, "db", some (30, .error (.text "down"))⟩, ⟨.liveness, "cache", some (10, .ok ())⟩]

/-- The world in which they are registered. -/
def twoChecksWorld : World (Nat × Outcome) (List ((Nat × Outcome) × Outcome)) where
  orchestrator := { health := .build twoChecks }
  host := Net.isolatedHost
  user := []

/-- The answer comes after 30 milliseconds. It tells of the slow check last, because of its name. -/
theorem check_side_by_side_timed :
    ∃ response u ctx outcomes,
      World.clockwork.run 30 (check timed .liveness) twoChecksWorld = (some response, u) ∧
      u.now = 30 ∧
      response = .ofResults [⟨"cache", none⟩, ⟨"db", some "down"⟩] ∧
      Report id timed .liveness twoChecks twoChecksWorld ctx outcomes response u := by
  have keeps : twoChecksWorld.orchestrator.health.Keeps twoChecks := .build
  have longest : slowest Prod.fst (twoChecksWorld.orchestrator.health.side .liveness) = 30 := by
    decide +kernel
  obtain ⟨-, clock, -⟩ := check_side_by_side keeps timed_notesOnce
  have enough : twoChecksWorld.now +
      slowest Prod.fst (twoChecksWorld.orchestrator.health.side .liveness) ≤ 30 := by
    rw [longest]
    decide
  obtain ⟨response, u, ctx, outcomes, run, now, report⟩ := clock timed_durations enough
  rw [longest] at now
  refine ⟨response, u, ctx, outcomes, run, now, ?_, report⟩
  have told : (World.clockwork.run 30 (check timed .liveness) twoChecksWorld).1 =
    some (.ofResults [⟨"cache", none⟩, ⟨"db", some "down"⟩]) := by decide +kernel
  rw [run] at told
  exact Option.some.inj told

end Health

end Supervision
