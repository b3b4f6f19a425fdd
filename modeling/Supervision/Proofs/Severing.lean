import Mathlib.Data.List.Basic
import Mathlib.Tactic.Lemma
import Supervision.Net.Pipe
import Supervision.Net.Severable

/-!
# Before and after severing

A severable stream beside the stream inside it. Until it is severed the two cannot be told apart;
afterwards nothing but shutdowns reaches the stream inside. `run_intact` and `run_severed` say so of
any course of calls, among which the stream may also change from outside; `severing` puts them
together, and says who is woken: the party of the latest call other than a shutdown.
-/

namespace Supervision.Net

variable {σ : Type}

/-- What happens to a stream: a call, or a change from outside, such as the arrival of bytes. -/
inductive Happening (σ : Type) where
  | call (caller : Caller) (call : StreamCall)
  | change (f : σ → σ)

namespace Happening

/-- The call that is made, where one is. -/
def call? : Happening σ → Option StreamCall
  | .call _ asked => some asked
  | .change _ => none

/-- Who asks to be woken when the stream is severed. -/
def watcher? : Happening σ → Option Caller
  | .call caller asked => if asked = .shutdown then none else some caller
  | .change _ => none

/-- It concerns the stream inside of a severed one. -/
def reaches : Happening σ → Bool
  | .call _ asked => asked = .shutdown
  | .change _ => true

/-- The same for a severable stream. -/
def within : Happening σ → Happening (Severable σ)
  | .call caller asked => .call caller asked
  | .change f => .change fun s => { s with inner := f s.inner }

end Happening

/-- The answers that a stream gives in a course of happenings, and its state at the end. -/
def ByteStream.run (stream : ByteStream σ) : List (Happening σ) → σ → List StreamAnswer × σ
  | [], s => ([], s)
  | .call caller call :: rest, s =>
    let (answer, s) := stream.answer caller call s
    let (answers, s) := stream.run rest s
    (answer :: answers, s)
  | .change f :: rest, s => stream.run rest (f s)

/-- A call gets its answer, and the rest goes on from the state after it. -/
lemma ByteStream.run_call (stream : ByteStream σ) (caller : Caller) (call : StreamCall)
    (rest : List (Happening σ)) (s : σ) :
    stream.run (.call caller call :: rest) s =
      ((stream.answer caller call s).1 :: (stream.run rest (stream.answer caller call s).2).1,
        (stream.run rest (stream.answer caller call s).2).2) := rfl

namespace Severable

variable {inner : ByteStream σ} {s : Severable σ} {caller : Caller} {call : StreamCall}

/-! ## One call -/

/-- As long as nothing is severed, a call gets the answer of the stream inside. -/
lemma answer_intact (intact : s.severed = false) :
    answer inner caller call s =
      ((inner.answer caller call s.inner).1,
        ⟨(inner.answer caller call s.inner).2, false,
          if call = .shutdown then s.watcher else some caller⟩) := by
  obtain ⟨inside, severed, watcher⟩ := s
  cases intact
  cases call <;> rfl

/-- Once the stream is severed, only shutdowns get answers of the stream inside. -/
lemma answer_severed (severed : s.severed = true) :
    answer inner caller call s =
      if call = .shutdown then
        ((inner.answer caller call s.inner).1, { s with inner := (inner.answer caller call s.inner).2 })
      else (.failed .connectionAborted, s) := by
  obtain ⟨inside, severed, watcher⟩ := s
  cases severed
  cases call <;> rfl

/-! ## A course of calls -/

/-- As long as nothing is severed, the stream does what the one inside does, and remembers the last
caller. -/
lemma run_intact (happenings : List (Happening σ)) (intact : s.severed = false) :
    (stream inner).run (happenings.map .within) s =
      ((inner.run happenings s.inner).1,
        ⟨(inner.run happenings s.inner).2, false,
          (happenings.filterMap Happening.watcher?).getLast?.or s.watcher⟩) := by
  induction happenings generalizing s with
  | nil =>
    obtain ⟨inside, severed, watcher⟩ := s
    cases intact
    rfl
  | cons happening rest ih =>
    cases happening with
    | change f => exact ih (s := { s with inner := f s.inner }) intact
    | call caller call =>
      have answered : (stream inner).answer caller call s = _ := answer_intact intact
      rw [List.map_cons, Happening.within, ByteStream.run_call, answered, ih rfl,
        ByteStream.run_call, List.filterMap_cons, Happening.watcher?]
      split
      · rfl
      · rw [List.getLast?_cons]
        cases (rest.filterMap Happening.watcher?).getLast? <;> rfl

/-- The answers to shutdowns. -/
def shutdownAnswers (happenings : List (Happening σ)) (answers : List StreamAnswer) :
    List StreamAnswer :=
  ((happenings.filterMap Happening.call?).zip answers).filterMap fun pair =>
    if pair.1 = .shutdown then some pair.2 else none

/-- After the severing, shutdowns and changes from outside reach the stream inside, and every other
call fails. -/
structure Cut (inner : ByteStream σ) (happenings : List (Happening σ)) (s : σ)
    (answers : List StreamAnswer) (s' : σ) : Prop where
  failed : List.Forall₂ (fun call answer => call ≠ .shutdown → answer = .failed .connectionAborted)
    (happenings.filterMap Happening.call?) answers
  reached : (shutdownAnswers happenings answers, s') =
    inner.run (happenings.filter Happening.reaches) s

variable {rest : List (Happening σ)} {answers : List StreamAnswer} {i i' : σ}

/-- A change from outside reaches the stream inside after the cut. -/
lemma Cut.change {f : σ → σ} (cut : Cut inner rest (f i) answers i') :
    Cut inner (.change f :: rest) i answers i' :=
  ⟨cut.failed, cut.reached⟩

/-- A shutdown reaches the stream inside after the cut. -/
lemma Cut.shutdown (cut : Cut inner rest (inner.answer caller .shutdown i).2 answers i') :
    Cut inner (.call caller .shutdown :: rest) i
      ((inner.answer caller .shutdown i).1 :: answers) i' := by
  refine ⟨.cons (absurd rfl) cut.failed, ?_⟩
  rw [List.filter_cons_of_pos rfl, ByteStream.run_call, ← cut.reached]
  rfl

/-- Any other call fails after the cut, and does not reach the stream inside. -/
lemma Cut.refused (other : call ≠ .shutdown) (cut : Cut inner rest i answers i') :
    Cut inner (.call caller call :: rest) i (.failed .connectionAborted :: answers) i' := by
  refine ⟨.cons (fun _ => rfl) cut.failed, ?_⟩
  rw [List.filter_cons_of_neg (by simpa [Happening.reaches] using other), ← cut.reached]
  simp [shutdownAnswers, Happening.call?, other]

/-- What is severed stays cut off. -/
lemma run_severed (happenings : List (Happening σ)) (severed : s.severed = true) :
    Cut inner happenings s.inner ((stream inner).run (happenings.map .within) s).1
      ((stream inner).run (happenings.map .within) s).2.inner := by
  induction happenings generalizing s with
  | nil => exact ⟨.nil, rfl⟩
  | cons happening rest ih =>
    cases happening with
    -- whether the stream is severed never changes back
    | change f => exact .change (ih (s := { s with inner := f s.inner }) severed)
    | call caller call =>
      have answered : (stream inner).answer caller call s = _ := answer_severed severed
      rw [List.map_cons, Happening.within, ByteStream.run_call, answered]
      split
      next shutdown =>
        subst shutdown
        exact .shutdown (ih (s := { s with inner := (inner.answer caller .shutdown s.inner).2 }) severed)
      next other => exact .refused other (ih severed)

/-- The last caller is this one if all later callers are. -/
lemma getLast?_of_forall_eq {front later : List Caller} (same : ∀ other ∈ later, other = caller) :
    (front ++ caller :: later).getLast? = some caller := by
  rw [List.getLast?_append, List.getLast?_cons]
  cases last : later.getLast? with
  | none => rfl
  | some other =>
    rw [same other (List.mem_of_getLast? last)]
    rfl

/-- Until a stream is severed, it answers as the stream inside does, and leaves it in the same
state. Afterwards all calls but shutdowns fail, for ever, and the stream inside meets nothing but
shutdowns. The severing wakes who made the latest call other than a shutdown: whoever made one is
woken unless another party has made one since. -/
theorem severing (inner : ByteStream σ) (i : σ) (before after : List (Happening σ)) :
    let intact := (stream inner).run (before.map .within) { inner := i }
    let severed := intact.2.sever
    let dead := (stream inner).run (after.map .within) severed.2
    (intact.1, intact.2.inner) = inner.run before i ∧
      Cut inner after (inner.run before i).2 dead.1 dead.2.inner ∧
      severed.1 = (before.filterMap Happening.watcher?).getLast?.toList ∧
      ∀ ⦃earlier later caller call⦄, before = earlier ++ .call caller call :: later →
        call ≠ .shutdown →
        (∀ other ∈ later.filterMap Happening.watcher?, other = caller) →
        caller ∈ severed.1 := by
  intro intact severed dead
  -- up to the severing the stream is the one inside, beside the caller that it remembers
  have alike : intact = ((inner.run before i).1, ⟨(inner.run before i).2, false,
      (before.filterMap Happening.watcher?).getLast?.or none⟩) := run_intact before rfl
  have woken : severed.1 = (before.filterMap Happening.watcher?).getLast?.toList := by
    show intact.2.watcher.toList = _
    rw [alike, Option.or_none]
  refine ⟨?_, ?_, woken, ?_⟩
  · rw [alike]
  · have inside : severed.2.inner = (inner.run before i).2 := by
      show intact.2.inner = _
      rw [alike]
    rw [← inside]
    exact run_severed after rfl
  · rintro earlier later caller call rfl other same
    have asks : (Happening.call caller call : Happening σ).watcher? = some caller := if_neg other
    rw [woken, List.filterMap_append, List.filterMap_cons_some asks, getLast?_of_forall_eq same]
    exact List.mem_singleton_self caller

/-- A party that reads and is left pending is not woken: another one has written since. -/
theorem severing_overtaken :
    let intact := (stream (Pipe.stream .near)).run
      [.call ⟨1⟩ (.read 2), .call ⟨0⟩ (.write [120])] { inner := .ofCapacity 4 }
    intact.1 = [.pending, .wrote 1] ∧ intact.2.severed = false ∧ ⟨1⟩ ∉ intact.2.sever.1 := by
  decide

/-- A pipe whose reader is left pending after a write, while bytes arrive; it is severed and asked
to flush and to shut down. -/
theorem severing_idle :
    let before : List (Happening Pipe) :=
      [.call ⟨0⟩ (.write [120]), .call ⟨1⟩ (.read 2),
        .change fun p => ((Pipe.stream .far).answer ⟨2⟩ (.write [1, 2]) p).2]
    let after : List (Happening Pipe) := [.call ⟨1⟩ (.read 2), .call ⟨0⟩ .flush, .call ⟨0⟩ .shutdown]
    let intact := (stream (Pipe.stream .near)).run (before.map .within) { inner := .ofCapacity 4 }
    let dead := (stream (Pipe.stream .near)).run (after.map .within) intact.2.sever.2
    intact.1 = [.wrote 1, .pending] ∧ ⟨1⟩ ∈ intact.2.sever.1 ∧
      dead.1 = [.failed .connectionAborted, .failed .connectionAborted, .done] ∧
      Cut (Pipe.stream .near) after ((Pipe.stream .near).run before (.ofCapacity 4)).2 dead.1
        dead.2.inner := by
  intro before after intact dead
  have severs := severing (Pipe.stream .near) (.ofCapacity 4) before after
  have reads : before = [.call ⟨0⟩ (.write [120])] ++ .call ⟨1⟩ (.read 2) :: before.drop 2 := rfl
  refine ⟨by decide, severs.2.2.2 reads ?_ ?_, by decide, severs.2.1⟩
  · decide
  · decide

end Severable

end Supervision.Net
