import Supervision.Proofs.Background
import Supervision.Proofs.Ledger
import Supervision.Proofs.Servers

/-!
# Bystanders of a run

Servers and the background make records of their own (`World.ServersNote`), but none of the records
and samples that a run makes (`World.SameBooks`). Where callbacks and everybody else do not make
them either, the books of the world grow by what the run itself leaves behind: `Plan.Runs.books`.
-/

namespace Supervision
open Lifecycle Server

variable {κ υ α : Type}

/-- Runs make records of this kind, and nobody else does. -/
def Record.isOfRun : Record → Bool
  | componentStartFailed _ _ => true
  | rollbackFailed _ _ => true
  | runnerStartFailed _ _ => true
  | runnerStopFailed _ _ => true
  | componentStopFailed _ _ => true
  | hookFailed _ _ => true
  | _ => false

/-- Servers make records of this kind, and nobody else does. -/
def Record.isOfServer : Record → Bool
  | bindFailed _ _ => true
  | serveFailed _ _ _ => true
  | serverForced _ => true
  | _ => false

/-- Runs have samples of this metric, and nobody else has. -/
def Metric.isOfRun : Metric → Bool
  | healthCheckFailure _ _ => false
  | _ => true

namespace World

variable {w w' w'' : World κ υ}

/-- The records of runs. -/
def runRecords (w : World κ υ) : List Record :=
  w.journal.filter Record.isOfRun

/-- The samples of runs. -/
def runSamples (w : World κ υ) : List Metric :=
  w.samples.filter Metric.isOfRun

/-- Only servers have made records. Nothing else was noted, and the orchestrator is the same. -/
structure ServersNote (w w' : World κ υ) : Prop where
  journal : ∃ rs, w'.journal = w.journal ++ rs ∧ ∀ r ∈ rs, r.isOfServer = true
  samples : w'.samples = w.samples
  orchestrator : w'.orchestrator = w.orchestrator
  user : w'.user = w.user

/-- The records and samples of runs are the same. -/
structure SameBooks (w w' : World κ υ) : Prop where
  records : w'.runRecords = w.runRecords
  samples : w'.runSamples = w.runSamples

/-- The books of a world are its own. -/
lemma SameBooks.refl : w.SameBooks w :=
  ⟨rfl, rfl⟩

/-- Same books may be chained. -/
lemma SameBooks.trans (first : w.SameBooks w') (rest : w'.SameBooks w'') : w.SameBooks w'' :=
  ⟨rest.records.trans first.records, rest.samples.trans first.samples⟩

namespace ServersNote

/-- A step that leaves all books alone only lets servers note. -/
lemma of_eq (journal : w'.journal = w.journal) (samples : w'.samples = w.samples)
    (orchestrator : w'.orchestrator = w.orchestrator) (user : w'.user = w.user) :
    w.ServersNote w' :=
  ⟨⟨[], by rw [journal, List.append_nil], nofun⟩, samples, orchestrator, user⟩

/-- Doing nothing lets nobody note. -/
lemma refl : w.ServersNote w :=
  of_eq rfl rfl rfl rfl

/-- Two steps in which only servers note are one. -/
lemma trans (first : w.ServersNote w') (rest : w'.ServersNote w'') : w.ServersNote w'' where
  journal := by
    obtain ⟨rs, journal, ofServer⟩ := first.journal
    obtain ⟨rs', journal', ofServer'⟩ := rest.journal
    refine ⟨rs ++ rs', by rw [journal', journal, List.append_assoc], ?_⟩
    exact List.forall_mem_append.2 ⟨ofServer, ofServer'⟩
  samples := rest.samples.trans first.samples
  orchestrator := rest.orchestrator.trans first.orchestrator
  user := rest.user.trans first.user

/-- A record of a server is one that servers may make. -/
lemma log {r : Record} (ofServer : r.isOfServer = true) : w.ServersNote (w.log r) :=
  ⟨⟨[r], rfl, by simpa using ofServer⟩, rfl, rfl, rfl⟩

/-- Changing a task notes nothing. -/
lemma changeTask {i f} : w.ServersNote (w.changeTask i f) :=
  of_eq rfl rfl rfl rfl

/-! ## The background -/

/-- Closing a listener notes nothing. -/
lemma closeListener {i} : w.ServersNote (w.closeListener i) := by
  unfold World.closeListener
  split <;> exact of_eq rfl rfl rfl rfl

/-- When a task ends, only its server notes it. -/
lemma endTask {i panicked} : w.ServersNote (w.endTask i panicked) :=
  closeListener.trans changeTask

/-- In the first turn of a task, only its server notes. -/
lemma firstTurn {i t} : w.ServersNote (w.firstTurn i t) := by
  unfold World.firstTurn
  split
  · exact refl
  · split
    · exact changeTask
    · split
      · exact trans (trans (log rfl) changeTask) endTask
      · exact of_eq rfl rfl rfl rfl

/-- In a serving turn, only the server notes. -/
lemma servingTurn {i} : w.ServersNote (w.servingTurn i) := by
  unfold World.servingTurn
  split
  · exact refl
  · split
    · exact refl
    · split
      · exact endTask
      · exact closeListener

/-- In any turn of a task, only its server notes. -/
lemma taskTurn {i} : w.ServersNote (w.taskTurn i) := by
  unfold World.taskTurn
  dsimp only
  apply changeTask.trans
  split
  · exact refl
  · split
    · exact refl
    · unfold World.liveTurn
      split
      · exact endTask
      · split
        · exact firstTurn.trans servingTurn
        · exact servingTurn

/-- When a report is taken, only the server notes it. -/
lemma takeReport {i e} : w.ServersNote (w.takeReport i e) := by
  unfold World.takeReport
  dsimp only
  split
  · exact changeTask.trans (log rfl)
  · exact changeTask

/-- What a live task does is noted by its server, if it is at all. -/
lemma ifLive {i f} (notes : w.ServersNote (f w)) : w.ServersNote (w.ifLive i f) := by
  unfold World.ifLive
  split
  · exact notes
  · exact refl

/-- When an incident is met, only servers note. -/
lemma meet {incident} : w.ServersNote (w.meet incident) := by
  cases incident with
  | cancellation => exact of_eq rfl rfl rfl rfl
  | signal => exact of_eq rfl rfl rfl rfl
  | exchange => exact ifLive changeTask
  | report => exact ifLive takeReport
  | ending => exact ifLive endTask

/-- Many steps in which only servers note are one. -/
lemma foldl {γ : Type} {f : World κ υ → γ → World κ υ} {xs : List γ}
    (notes : ∀ w x, ServersNote w (f w x)) : w.ServersNote (xs.foldl f w) := by
  induction xs generalizing w with
  | nil => exact refl
  | cons x rest ih => exact (notes w x).trans ih

/-- While a world settles, only servers note. -/
lemma settle : w.ServersNote w.settle := by
  have met : w.ServersNote w.meetDue := by
    unfold World.meetDue
    refine trans ?_ (foldl fun _ _ => meet)
    exact of_eq rfl rfl rfl rfl
  exact met.trans (foldl fun _ _ => taskTurn)

/-- While time passes, only servers make records. -/
theorem passes (passes : World.clockwork.Passes w w') : w.ServersNote w' := by
  induction passes with
  | refl => exact refl
  | settle _ ih => exact settle.trans ih
  | advance _ _ ih =>
    apply trans _ ih
    exact of_eq rfl rfl rfl rfl

/-- No record of a server is one of a run. -/
lemma sameBooks (notes : w.ServersNote w') : w.SameBooks w' := by
  obtain ⟨rs, journal, ofServer⟩ := notes.journal
  have foreign : rs.filter Record.isOfRun = [] := by
    refine List.filter_eq_nil_iff.2 fun r member => ?_
    have here := ofServer r member
    cases r <;> simp [Record.isOfServer, Record.isOfRun] at here ⊢
  refine ⟨?_, ?_⟩
  · rw [runRecords, journal, List.filter_append, foreign, List.append_nil, runRecords]
  · rw [runSamples, notes.samples, runSamples]

end ServersNote

end World

/-! ## Servers -/

namespace Server
open Activity World

variable {id : Nat} {ctx : Token}

/-- A server that was forced down makes a record. -/
lemma Does.serversNote {task : Nat} {w w' : World κ υ} (does : Does id task w w') :
    w.ServersNote w' := by
  cases does with
  | nothing => exact .refl
  | binds => exact .of_eq rfl rfl rfl rfl
  | spawns => exact .of_eq rfl rfl rfl rfl
  | remembers => exact .of_eq rfl rfl rfl rfl
  | tells => exact .changeTask
  | logs => exact .log rfl

/-- The stop of a server leaves the books of runs alone. -/
lemma stop_sameBooks : (stop id ctx : Flow κ υ _).Respects SameBooks :=
  stop_does.mono fun ⟨_, does⟩ => does.serversNote.sameBooks

/-- The start of a server leaves the books of runs alone. -/
lemma start_sameBooks : (start id : Flow κ υ _).Respects SameBooks :=
  start_does.mono fun {_ _} (does : Does id 0 _ _) => does.serversNote.sameBooks

end Server

/-! ## The books of a world -/

/-- Nobody but the run makes records and samples of runs: neither the callbacks nor anybody else. -/
structure Setting.SparesBooks (S : Setting (World κ υ)) (b : Behaviour κ υ) : Prop where
  between : ∀ {w w'}, S.between w w' → w.SameBooks w'
  meanwhile : ∀ {w w'}, S.meanwhile w w' → w.SameBooks w'
  callbacks : ∀ handle t, (b handle t).Respects World.SameBooks

/-- The clock spares the books of runs if the callbacks do. -/
lemma sparesBooks_clockwork {b : Behaviour κ υ}
    (callbacks : ∀ handle t, (b handle t).Respects World.SameBooks) :
    World.clockwork.setting.SparesBooks b where
  between := by
    rintro _ _ ⟨⟩
    exact .refl
  meanwhile passes := (World.ServersNote.passes passes).sameBooks
  callbacks := callbacks

/-- The books grow by the records and samples of a ledger. -/
structure World.Grows (w : World κ υ) (l : Ledger κ) (w' : World κ υ) : Prop where
  records : w'.runRecords = w.runRecords ++ l.records
  samples : w'.runSamples = w.runSamples ++ l.samples

namespace World.Grows

variable {w w' w'' : World κ υ} {l l' : Ledger κ}

/-- With the same books, nothing has grown. -/
lemma of_same (same : w.SameBooks w') : w.Grows [] w' where
  records := same.records.trans (List.append_nil _).symm
  samples := same.samples.trans (List.append_nil _).symm

/-- Growth by one ledger and then by another is growth by both. -/
lemma trans (first : w.Grows l w') (rest : w'.Grows l' w'') : w.Grows (l ++ l') w'' where
  records := by rw [rest.records, first.records, Ledger.records_append, List.append_assoc]
  samples := by rw [rest.samples, first.samples, Ledger.samples_append, List.append_assoc]

/-- What a step writes, the books grow by, if all of it is of runs. -/
lemma of_writes (writes : w.Writes l w') (records : ∀ r ∈ l.records, r.isOfRun)
    (samples : ∀ m ∈ l.samples, m.isOfRun) : w.Grows l w' where
  records := by
    rw [runRecords, writes.journal, List.filter_append, List.filter_eq_self.2 records, runRecords]
  samples := by
    rw [runSamples, writes.samples, List.filter_append, List.filter_eq_self.2 samples, runSamples]

end World.Grows

namespace Ledger

variable {l : Ledger κ}

/-- The records of a ledger are of runs. -/
lemma isOfRun_records : ∀ r ∈ l.records, r.isOfRun := by
  intro r member
  obtain ⟨item, -, member⟩ := List.mem_flatMap.1 member
  cases item with
  | answered c outcome =>
    cases outcome with
    | ok => cases member
    | error cause =>
      rw [List.mem_singleton.1 member]
      cases c <;> rfl
  | measured part => cases member
  | published phase => cases member

/-- The samples of a ledger are of runs. -/
lemma isOfRun_samples : ∀ m ∈ l.samples, m.isOfRun := by
  intro m member
  obtain ⟨item, -, member⟩ := List.mem_flatMap.1 member
  cases item with
  | answered c outcome =>
    have all : (c.samplesOf outcome).all Metric.isOfRun := by
      cases c <;> cases outcome <;> rfl
    exact List.all_eq_true.1 all m member
  | measured part =>
    rw [List.mem_singleton.1 member]
    rfl
  | published phase => cases member

end Ledger

namespace Plan

variable {S : Setting (World κ υ)} {b : Behaviour κ υ} {w u : World κ υ} {course : Course κ υ}

/-- No call leaves a trace in the books of runs but what the run itself notes. -/
lemma sameBooks_flow {ctx : Token} {c : Call κ} (spares : S.SparesBooks b) :
    (c.flow b ctx).Respects World.SameBooks :=
  Call.flow_cases .done (fun handle => spares.callbacks handle ctx)
    (fun _ => Server.start_sameBooks) fun _ => Server.stop_sameBooks

/-- There is no step of a plan in the empty course. -/
lemma ownSteps_nil {p : Plan κ υ α} : p.ownSteps [] = [] := by
  cases p <;> rfl

/-- Besides what the run itself leaves behind, the books stay as they are. -/
theorem Runs.books {p : Plan κ υ α} {r : Option α} {l : Ledger κ} (run : p.Runs S b w course r u)
    (tell : (p.ownSteps course).Tell l) (spares : S.SparesBooks b) : w.Grows l u := by
  have same {β : Type} {flow : Flow κ υ β} {w u r} (respects : flow.Respects World.SameBooks)
      (run : flow.Runs S w r u) : w.SameBooks u :=
    respects.runs run (fun _ => .refl) .trans spares.between spares.meanwhile
  have within {ms : Nat} {c : Call κ} {ctx : Token} :
      (Flow.within ms (c.flow b ctx)).Respects World.SameBooks :=
    .bind (.look fun _ => .refl) fun _ => (sameBooks_flow spares).within
  -- only the own steps write, and each one writes what the ledger has next
  induction run generalizing l with
  | done =>
    cases tell
    exact .of_same .refl
  | act move _ ih =>
    cases tell with
    | cons writes tell =>
      have step := World.Grows.of_writes writes Ledger.isOfRun_records Ledger.isOfRun_samples
      exact step.trans ((World.Grows.of_same (spares.between move)).trans (ih tell))
  | resumed move _ _ ih => exact (World.Grows.of_same (spares.meanwhile move)).trans (ih tell)
  | waiting move =>
    cases tell
    exact .of_same (spares.meanwhile move)
  | call made _ ih =>
    exact (World.Grows.of_same (same (sameBooks_flow spares) made)).trans (ih tell)
  | calling made =>
    cases tell
    exact .of_same (same (sameBooks_flow spares) made)
  | callWithin made _ ih => exact (World.Grows.of_same (same within made)).trans (ih tell)
  | callingWithin made =>
    rw [ownSteps, ownSteps_nil] at tell
    cases tell
    exact .of_same (same within made)

end Plan

end Supervision
