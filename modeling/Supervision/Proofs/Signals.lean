import Supervision.Lifecycle.Signal
import Supervision.Proofs.Discretion
import Supervision.Proofs.Progress

/-!
# Runs beside a signal

A signal that asks for an end cancels the token of what goes on beside it
(`Lifecycle.cancelOnSignal`). By the clock, what goes on waits for its token up to the first instant
at which there is such a signal, and is alone from then on (`Lifecycle.run_watching`).
-/

namespace Supervision

variable {κ υ α β : Type}

/-- What passes from one world to a second, and from there to a third, passes from the first to the
third. -/
lemma Clockwork.Passes.trans {σ : Type} {c : Clockwork σ} {s t u : σ} (first : c.Passes s t)
    (rest : c.Passes t u) : c.Passes s u := by
  induction first with
  | refl => exact rest
  | settle _ ih => exact .settle (ih rest)
  | advance later _ ih => exact .advance later (ih rest)

namespace World
open Server

variable {i n instant : Nat} {s : Signal} {t : Token} {w : World κ υ}

/-- Time passes while a world is left alone. -/
lemma passes_leftAlone : World.clockwork.Passes w (w.leftAlone n) := by
  induction n with
  | zero => exact .settle .refl
  | succ n ih =>
    refine ih.trans (.until ?_)
    show (w.leftAlone n).now < w.now + (n + 1)
    rw [now_leftAlone]
    omega

/-! ## Signals -/

/-- Closing a listener leaves the signals as they are. -/
lemma signals_closeListener : (w.closeListener i).signals = w.signals := by
  unfold closeListener
  split <;> rfl

/-- The end of a serve task leaves the signals as they are. -/
lemma signals_endTask {panicked} : (w.endTask i panicked).signals = w.signals :=
  signals_closeListener

/-- The first turn of a serve task leaves the signals as they are. -/
lemma signals_firstTurn {t : ServeTask} : (w.firstTurn i t).signals = w.signals := by
  unfold firstTurn
  split
  · rfl
  · split
    · rfl
    · split
      · exact signals_endTask
      · rfl

/-- A serving turn leaves the signals as they are. -/
lemma signals_servingTurn : (w.servingTurn i).signals = w.signals := by
  unfold servingTurn
  split
  · rfl
  · split
    · rfl
    · split
      · exact signals_endTask
      · exact signals_closeListener

/-- No turn of a task makes or takes a signal. -/
lemma signals_taskTurn : (w.taskTurn i).signals = w.signals := by
  unfold taskTurn
  dsimp only
  split
  · rfl
  · split
    · rfl
    · unfold liveTurn
      split
      · exact signals_endTask
      · split
        · exact signals_servingTurn.trans signals_firstTurn
        · exact signals_servingTurn

/-- Signals arrive, and none is forgotten. -/
lemma mem_signals_meet {incident : Incident} (here : s ∈ w.signals ∨ incident = .signal s) :
    s ∈ (w.meet incident).signals := by
  have keeps {id : Nat} {f : World κ υ → World κ υ} (member : s ∈ w.signals)
      (same : (f w).signals = w.signals) : s ∈ (w.ifLive id f).signals := by
    unfold ifLive
    split
    · rwa [same]
    · exact member
  cases incident with
  | signal s' =>
    show s ∈ w.signals ++ [s']
    obtain member | same := here
    · exact List.mem_append_left _ member
    · cases same
      exact List.mem_append_right _ List.mem_cons_self
  | cancellation => exact here.resolve_right nofun
  | exchange => exact keeps (here.resolve_right nofun) rfl
  | report =>
    refine keeps (here.resolve_right nofun) ?_
    unfold takeReport
    dsimp only
    split <;> rfl
  | ending => exact keeps (here.resolve_right nofun) signals_endTask

/-- A signal is never taken back, and one among the incidents that are met is there afterwards. -/
lemma mem_signals_meets {is : List (Nat × Incident)}
    (here : s ∈ w.signals ∨ ∃ instant, (instant, .signal s) ∈ is) :
    s ∈ (is.foldl (fun w i => w.meet i.2) w).signals := by
  induction is generalizing w with
  | nil => exact here.resolve_right fun ⟨_, member⟩ => by cases member
  | cons i rest ih =>
    apply ih
    obtain member | ⟨instant, member⟩ := here
    · exact .inl (mem_signals_meet (.inl member))
    · rcases List.mem_cons.1 member with same | member
      · cases same
        exact .inl (mem_signals_meet (.inr rfl))
      · exact .inr ⟨instant, member⟩

/-- After settling, every signal that was due by now is there. -/
lemma mem_signals_settle
    (here : s ∈ w.signals ∨ ∃ instant ≤ w.now, (instant, .signal s) ∈ w.incidents) :
    s ∈ w.settle.signals := by
  have turns (ids : List Nat) (v : World κ υ) : (ids.foldl taskTurn v).signals = v.signals := by
    induction ids generalizing v with
    | nil => rfl
    | cons id rest ih => exact (ih _).trans signals_taskTurn
  rw [settle, turns]
  apply mem_signals_meets
  obtain member | ⟨instant, due, member⟩ := here
  · exact .inl member
  · exact .inr ⟨instant, List.mem_filter.2 ⟨member, by simpa using due⟩⟩

/-- A signal has arrived by its instant. -/
lemma mem_signals_leftAlone (member : (instant, .signal s) ∈ w.incidents)
    (late : instant ≤ w.now + n) : s ∈ (w.leftAlone n).signals := by
  have waits {v : World κ υ} (member : (instant, .signal s) ∈ v.incidents) :
      s ∈ v.settle.signals ∨ (instant, .signal s) ∈ v.settle.incidents := by
    by_cases due : instant ≤ v.now
    · exact .inl (mem_signals_settle (.inr ⟨instant, due, member⟩))
    · right
      rw [sameOrders_settle.incidents]
      exact List.mem_filter.2 ⟨member, by simpa using due⟩
  have arrives : s ∈ (w.leftAlone n).signals ∨
      (instant, .signal s) ∈ (w.leftAlone n).incidents := by
    clear late
    induction n with
    | zero => exact waits member
    | succ n ih =>
      obtain arrived | ahead := ih
      · exact .inl (mem_signals_settle (.inl arrived))
      · exact waits ahead
  refine arrives.resolve_right fun ahead => ?_
  -- what has settled expects nothing that is due
  have rests : (w.leftAlone n).Rests := by
    cases n <;> exact settle_rests
  have := rests.incidents _ ahead
  rw [now_leftAlone] at this
  omega

/-- A token that nobody outside cancels is live as long as nobody else cancels it. -/
lemma live_meddles {u : World κ υ} (meddles : w.Meddles (fun _ => True) none u)
    (live : w.isCancelled t = false) (unexpected : ¬w.Expects t) :
    u.isCancelled t = false ∧ ¬u.Expects t := by
  refine ⟨Bool.eq_false_iff.2 fun cancelled => ?_, meddles.unexpected trivial unexpected⟩
  rw [meddles.isCancelled_iff trivial unexpected, live] at cancelled
  cases cancelled

/-- A live token that nobody is expected to cancel stays so as time passes. -/
lemma live_passes {u : World κ υ} (passes : World.clockwork.Passes w u)
    (live : w.isCancelled t = false) (unexpected : ¬w.Expects t) :
    u.isCancelled t = false ∧ ¬u.Expects t :=
  live_meddles (meddles_passes passes) live unexpected

end World

namespace Lifecycle
open Activity World

variable {earlier horizon n : Nat} {ctx : Token} {w : World κ υ}

/-- There is a new signal that asks for an end. -/
def Signalled (earlier : Nat) (w : World κ υ) : Prop :=
  (w.signals.drop earlier).any Signal.isShutdown = true

/-- Whether a signal has come can be decided. -/
instance : Decidable (Signalled earlier w) :=
  inferInstanceAs (Decidable (_ = _))

/-- The trigger of the party that cancels a token on a signal. -/
def signalTrigger (ctx : Token) (earlier : Nat) : Trigger (World κ υ) :=
  .whenever fun w => (w.signals.drop earlier).any Signal.isShutdown || w.isCancelled ctx

/-- That party while it waits. -/
def watching (ctx : Token) (earlier : Nat) : Flow κ υ Unit :=
  .wait (signalTrigger ctx earlier) fun _ => Activity.change (World.cancel ctx)

/-- Without a new signal, and while the token is live, the trigger waits. -/
lemma signalTrigger_waits (quiet : ¬Signalled earlier w) (live : w.isCancelled ctx = false) :
    (signalTrigger ctx earlier).ready w = false := by
  rw [Signalled, Bool.not_eq_true] at quiet
  simp [signalTrigger, Trigger.whenever, quiet, live]

/-- What goes on beside the watch for signals. -/
lemma pair_watching {right : Flow κ υ β} :
    Activity.pair (watching ctx earlier) right =
      behind (signalTrigger ctx earlier)
        (fun _ right => Activity.pair (Activity.change (World.cancel ctx)) right)
        (fun b => (watching ctx earlier).bind fun a => .done (a, b)) right := rfl

/-- The watch begins. -/
lemma run_cancelOnSignal {right : Flow κ υ β} (live : w.isCancelled ctx = false) :
    World.clockwork.run horizon (Activity.pair (cancelOnSignal ctx) right) w =
      World.clockwork.run horizon (Activity.pair (watching ctx w.signals.length) right)
        { w with signalWatchers := w.signalWatchers + 1 } := by
  let v : World κ υ := { w with signalWatchers := w.signalWatchers + 1 }
  have quiet : ¬Signalled w.signals.length v := by simp [Signalled, v]
  have waits : (signalTrigger ctx w.signals.length).ready v = false :=
    signalTrigger_waits quiet live
  exact run_merge_await waits

/-- Beside the watch, a change is made at once. -/
lemma run_watching_act {change : World κ υ → World κ υ} {next : World κ υ → Flow κ υ β} :
    World.clockwork.run horizon (Activity.pair (watching ctx earlier) (.act change next)) w =
      World.clockwork.run horizon (Activity.pair (watching ctx earlier) (next w)) (change w) := rfl

/-- What ends at once is not held up by the watch. -/
lemma run_watching_atOnce {P : World κ υ → Prop} {p : Flow κ υ α} {f : α → Flow κ υ β} {a : α}
    {v : World κ υ} (ends : p.AtOnce P w a v)
    (calm : ∀ w, P w → ¬Signalled earlier w ∧ w.isCancelled ctx = false) :
    World.clockwork.run horizon (Activity.pair (watching ctx earlier) (p.bind f)) w =
      World.clockwork.run horizon (Activity.pair (watching ctx earlier) (f a)) v := by
  rw [pair_watching, pair_watching]
  exact ends.run_behind fun w here => signalTrigger_waits (calm w here).1 (calm w here).2

/-- The watch ends when its token is cancelled. -/
lemma run_watching_done {b : β} (cancelled : w.isCancelled ctx = true) :
    World.clockwork.run horizon (Activity.pair (watching ctx earlier) (.done b)) w =
      (some ((), b), w.cancel ctx) := by
  have ready : (signalTrigger ctx earlier).ready w = true := by
    simp [signalTrigger, Trigger.whenever, cancelled]
  have ends : World.clockwork.run horizon (watching ctx earlier) w = (some (), w.cancel ctx) := by
    rw [watching, Clockwork.run, if_pos ready]
    rfl
  exact Clockwork.run_bind ends

/-- The trigger of the watch and of what waits for the token beside it. -/
def eitherTrigger (ctx : Token) (earlier : Nat) : Trigger (World κ υ) :=
  (signalTrigger ctx earlier).or (.whenever fun w => w.isCancelled ctx)

/-- The trigger of both parties is punctual, since it has no alarm. -/
lemma eitherTrigger_isPunctual : (eitherTrigger ctx earlier : Trigger (World κ υ)).IsPunctual where
  busy := rfl
  ahead _ _ _ next := by cases next
  waits _ _ waits _ := waits

/-- While the token is live, a new signal is all the trigger waits for. -/
lemma eitherTrigger_ready (live : w.isCancelled ctx = false) :
    (eitherTrigger ctx earlier).ready w = true ↔ Signalled earlier w := by
  simp [eitherTrigger, signalTrigger, Trigger.or, Trigger.whenever, Signalled, live]

/-- A signal arrives at some first instant. -/
lemma exists_signalled {instant last : Nat} {s : Signal}
    (member : (instant, .signal s) ∈ w.incidents) (shutdown : s.isShutdown = true)
    (early : w.now ≤ last) (inTime : instant ≤ last) :
    ∃ n, w.now + n ≤ last ∧ Signalled 0 (w.leftAlone n) ∧
      ∀ j < n, ¬Signalled 0 (w.leftAlone j) := by
  classical
  have arrived : Signalled 0 (w.leftAlone (instant - w.now)) :=
    List.any_eq_true.2 ⟨s, mem_signals_leftAlone member (by omega), shutdown⟩
  have some : ∃ n, Signalled 0 (w.leftAlone n) := ⟨_, arrived⟩
  have first := Nat.find_min' some arrived
  exact ⟨Nat.find some, by omega, Nat.find_spec some, fun j before => Nat.find_min some before⟩

/-- What waits for its token beside the watch goes on at the first instant at which there is a new
signal that asks for an end, and alone from there. -/
theorem run_watching {rest : Unit → Flow κ υ β} (live : w.isCancelled ctx = false)
    (unexpected : ¬w.Expects ctx) (quiet : ¬Signalled earlier w)
    (first : ∀ j < n, ¬Signalled earlier (w.leftAlone j))
    (arrives : Signalled earlier (w.leftAlone n))
    (enough : w.now + n ≤ horizon) :
    World.clockwork.run horizon
        (Activity.pair (watching ctx earlier) ((Flow.cancelled ctx).bind rest)) w =
      World.clockwork.run horizon ((rest ()).bind fun b => .done ((), b))
        ((w.leftAlone n).cancel ctx) := by
  have alone (j : Nat) : (w.leftAlone j).isCancelled ctx = false :=
    (live_passes passes_leftAlone live unexpected).1
  have waits : (eitherTrigger ctx earlier).ready w = false := by
    rwa [← Bool.not_eq_true, eitherTrigger_ready live]
  have passes : World.clockwork.passTime (eitherTrigger ctx earlier)
      (horizon - World.clockwork.now w) w = some (w.leftAlone n) := by
    refine passTime_leftAlone eitherTrigger_isPunctual (fun j before => ?_) ?_ ?_
    · rw [← Bool.not_eq_true, eitherTrigger_ready (alone j)]
      exact first j before
    · rw [eitherTrigger_ready (alone n)]
      exact arrives
    · show n ≤ horizon - w.now
      omega
  have isFirst : (signalTrigger ctx earlier).isFirst (.whenever fun w => w.isCancelled ctx)
      (w.leftAlone n) = true := by
    simp only [Signalled] at arrives
    simp [Trigger.isFirst, signalTrigger, Trigger.whenever, arrives]
  have cancelled : (Trigger.whenever fun w : World κ υ => w.isCancelled ctx).ready
      ((w.leftAlone n).cancel ctx) = true := isCancelled_cancel.2 (.inr rfl)
  -- the watch goes on first, and ends
  rw [pair_watching]
  refine (run_behind_await live).trans ?_
  rw [behind, ← eitherTrigger, Clockwork.run, if_neg (Bool.eq_false_iff.1 waits), passes]
  dsimp only
  rw [if_pos isFirst]
  show World.clockwork.run horizon ((Activity.wait (.whenever fun w => w.isCancelled ctx)
    fun _ => rest ()).bind fun b => .done ((), b)) ((w.leftAlone n).cancel ctx) = _
  rw [Activity.bind, Clockwork.run, if_pos cancelled]

/-- The setting of what is alone with the background, and whose token is cancelled by a signal that
asks for an end. -/
def signalled (ctx : Token) : Setting (World κ υ) where
  between := Eq
  meanwhile w w' := ∃ v, World.clockwork.Passes w v ∧
    (w' = v ∨ v.signals.any Signal.isShutdown = true ∧ w' = v.cancel ctx)

end Lifecycle

end Supervision
