import Supervision.Proofs.Course
import Supervision.Proofs.Rest

/-!
# Discretion

A token that a plan hands out is a secret between the plan and the parts to which it gives the token
as a context. If nobody else cancels it, then it is cancelled at the beginning of a call if and only
if an earlier call with this context has cancelled it (`Chain.cancelled_iff`). A course in which
calls of one kind have a context of their own isolates them (`Plan.Runs.isolates`).
-/

namespace Supervision
open Server

variable {κ υ α β : Type}

namespace World

/-- A token is going to be cancelled from outside. -/
def Expects (w : World κ υ) (t : Token) : Prop :=
  ∃ instant, (instant, .cancellation t) ∈ w.incidents

/-- Only tokens that were handed out are cancelled, or going to be. -/
structure IsSound (w : World κ υ) : Prop where
  cancelled : ∀ t, w.isCancelled t = true → t.id < w.tokens.issued
  expected : ∀ t, w.Expects t → t.id < w.tokens.issued

/-- Tokens are handed out and cancelled, but of the secret ones at most the one that is given. -/
structure Meddles (secret : Token → Prop) (given : Option Token) (w w' : World κ υ) : Prop where
  issued : w.tokens.issued ≤ w'.tokens.issued
  stays : ∀ t, w.isCancelled t = true → w'.isCancelled t = true
  cancelled : ∀ t, w'.isCancelled t = true →
    w.isCancelled t = true ∨ w.Expects t ∨ given = some t ∨ ¬secret t
  expected : ∀ t, w'.Expects t → w.Expects t ∨ ¬secret t

namespace Meddles

variable {secret : Token → Prop} {given : Option Token} {w w' w'' : World κ υ} {t : Token}

/-- Nothing is cancelled if nothing happens. -/
lemma refl : Meddles secret given w w :=
  ⟨Nat.le_refl _, fun _ => id, fun _ => .inl, fun _ => .inl⟩

/-- What two parts do to the tokens, one after the other, is what both do together. -/
lemma trans (first : Meddles secret given w w') (rest : Meddles secret given w' w'') :
    Meddles secret given w w'' where
  issued := Nat.le_trans first.issued rest.issued
  stays t cancelled := rest.stays t (first.stays t cancelled)
  cancelled t cancelled := by
    obtain cancelled | expected | others := rest.cancelled t cancelled
    · exact first.cancelled t cancelled
    · obtain expected | known := first.expected t expected
      · exact .inr (.inl expected)
      · exact .inr (.inr (.inr known))
    · exact .inr (.inr others)
  expected t expected := by
    obtain expected | known := rest.expected t expected
    · exact first.expected t expected
    · exact .inr known

/-- Tokens that were handed out stay so, whoever is given which token. -/
lemma trans_issued {given' : Option Token} (first : Meddles secret given w w')
    (rest : Meddles secret given' w' w'') : w.tokens.issued ≤ w''.tokens.issued :=
  Nat.le_trans first.issued rest.issued

/-- Who is given no secret does no more than who is given one. -/
lemma of_none (meddles : Meddles secret none w w') : Meddles secret given w w' where
  issued := meddles.issued
  stays := meddles.stays
  cancelled t cancelled := by
    obtain cancelled | expected | given | known := meddles.cancelled t cancelled
    · exact .inl cancelled
    · exact .inr (.inl expected)
    · cases given
    · exact .inr (.inr (.inr known))
  expected := meddles.expected

/-- What leaves the tokens and the incidents alone cancels nothing. -/
lemma of_eq (tokens : w'.tokens = w.tokens) (incidents : w'.incidents = w.incidents) :
    Meddles secret given w w' := by
  have same : ∀ t, w'.isCancelled t = w.isCancelled t := fun t => by
    rw [World.isCancelled, World.isCancelled, tokens]
  refine ⟨Nat.le_of_eq (by rw [tokens]), fun t => ?_, fun t => ?_, fun t => ?_⟩
  · rw [same]
    exact id
  · rw [same]
    exact .inl
  · rw [Expects, incidents]
    exact .inl

/-- To hand out a token is not to cancel one. -/
lemma freshToken : Meddles secret given w w.freshToken.2 :=
  ⟨Nat.le_succ _, fun _ => id, fun _ => .inl, fun _ => .inl⟩

/-- A secret is not cancelled unless it is given. -/
lemma given_of_cancelled (meddles : Meddles secret given w w') (hidden : secret t)
    (unexpected : ¬w.Expects t) (cancelled : w'.isCancelled t = true) :
    w.isCancelled t = true ∨ given = some t := by
  obtain cancelled | expected | given | known := meddles.cancelled t cancelled
  · exact .inl cancelled
  · exact absurd expected unexpected
  · exact .inr given
  · exact absurd hidden known

/-- A secret that nobody is going to cancel stays so. -/
lemma unexpected (meddles : Meddles secret given w w') (hidden : secret t)
    (unexpected : ¬w.Expects t) : ¬w'.Expects t := by
  intro expected
  obtain expected | known := meddles.expected t expected
  · exact unexpected expected
  · exact known hidden

/-- A secret that is given to nobody stays as it is. -/
lemma isCancelled_iff (meddles : Meddles secret none w w') (hidden : secret t)
    (unexpected : ¬w.Expects t) : w'.isCancelled t = true ↔ w.isCancelled t = true := by
  constructor
  · intro cancelled
    obtain cancelled | given := meddles.given_of_cancelled hidden unexpected cancelled
    · exact cancelled
    · cases given
  · exact meddles.stays t

end Meddles

/-- Secrets that have not been handed out are not cancelled, nor going to be. -/
def Hides (secret : Token → Prop) (w : World κ υ) : Prop :=
  ∀ t, secret t → w.tokens.issued ≤ t.id → w.isCancelled t = false ∧ ¬w.Expects t

/-- Where all tokens that are cancelled or going to be exist, no future secret is among them. -/
lemma IsSound.hides {secret : Token → Prop} {w : World κ υ} (sound : w.IsSound) :
    w.Hides secret := by
  intro t _ fresh
  constructor
  · refine Bool.eq_false_iff.2 fun cancelled => ?_
    exact Nat.not_lt.2 fresh (sound.cancelled t cancelled)
  · intro expected
    exact Nat.not_lt.2 fresh (sound.expected t expected)

/-- Secrets that are still to be handed out stay hidden if only old tokens are given away. -/
lemma Hides.meddles {secret : Token → Prop} {given : Option Token} {w w' : World κ υ}
    (hides : w.Hides secret) (meddles : Meddles secret given w w')
    (old : ∀ t, given = some t → t.id < w.tokens.issued) : w'.Hides secret := by
  intro t hidden fresh
  have before : w.tokens.issued ≤ t.id := Nat.le_trans meddles.issued fresh
  obtain ⟨down, unexpected⟩ := hides t hidden before
  refine ⟨Bool.eq_false_iff.2 fun cancelled => ?_, meddles.unexpected hidden unexpected⟩
  obtain up | given := meddles.given_of_cancelled hidden unexpected cancelled
  · rw [down] at up
    cases up
  · exact Nat.not_lt.2 before (old t given)

/-! ## The background -/

variable {secret : Token → Prop} {w w' : World κ υ}

/-- After a cancellation, one more token is cancelled. -/
lemma isCancelled_cancel {t t' : Token} :
    (w.cancel t).isCancelled t' = true ↔ w.isCancelled t' = true ∨ t' = t := by
  rw [isCancelled, isCancelled, cancel, Tokens.cancel]
  split
  next up =>
    constructor
    · exact .inl
    · rintro (cancelled | rfl)
      · exact cancelled
      · exact up
  next => simp [Tokens.isCancelled, or_comm]

/-- A cancellation hands out nothing. -/
lemma issued_cancel {t : Token} : (w.cancel t).tokens.issued = w.tokens.issued := by
  rw [cancel, Tokens.cancel]
  split <;> rfl

/-- Whoever is given a token may cancel it. -/
lemma meddles_cancel {t : Token} : Meddles secret (some t) w (w.cancel t) := by
  refine ⟨Nat.le_of_eq issued_cancel.symm, fun t' cancelled => ?_, fun t' cancelled => ?_,
    fun t' => .inl⟩
  · exact isCancelled_cancel.2 (.inl cancelled)
  · obtain cancelled | rfl := isCancelled_cancel.1 cancelled
    · exact .inl cancelled
    · exact .inr (.inr (.inl rfl))

/-- An incident is the cancellation of a token, or it leaves the tokens alone. -/
lemma meet_cases (incident : Incident) :
    (∃ t, incident = .cancellation t ∧ w.meet incident = w.cancel t) ∨
      (∀ t, incident ≠ .cancellation t) ∧ (w.meet incident).tokens = w.tokens := by
  cases incident with
  | cancellation t => exact .inl ⟨t, rfl, rfl⟩
  | signal => exact .inr ⟨nofun, rfl⟩
  | exchange =>
    refine .inr ⟨nofun, ?_⟩
    exact (Turns.ifLive (.changeTask fun _ => ServeTask.orders_addExchange)).control.tokens
  | report => exact .inr ⟨nofun, (Turns.ifLive .takeReport).control.tokens⟩
  | ending => exact .inr ⟨nofun, (Turns.ifLive .endTask).control.tokens⟩

/-- Incidents cancel the tokens whose cancellations they are. -/
lemma isCancelled_meets {is : List (Nat × Incident)} {t : Token} :
    (is.foldl (fun w i => w.meet i.2) w).isCancelled t = true ↔
      w.isCancelled t = true ∨ ∃ instant, (instant, .cancellation t) ∈ is := by
  induction is generalizing w with
  | nil => simp
  | cons i rest ih =>
    obtain ⟨instant, incident⟩ := i
    rw [List.foldl_cons, ih]
    obtain ⟨t', rfl, same⟩ | ⟨other, tokens⟩ := w.meet_cases incident
    · -- the first incident is a cancellation: of this token or of another one
      rw [same, isCancelled_cancel, or_assoc]
      apply or_congr_right
      constructor
      · rintro (rfl | ⟨instant', member⟩)
        · exact ⟨instant, List.mem_cons_self⟩
        · exact ⟨instant', List.mem_cons_of_mem _ member⟩
      · rintro ⟨instant', member⟩
        rcases List.mem_cons.1 member with first | member
        · cases first
          exact .inl rfl
        · exact .inr ⟨instant', member⟩
    · rw [isCancelled, tokens]
      apply or_congr_right
      apply exists_congr
      intro instant'
      rw [List.mem_cons, Prod.mk.injEq]
      constructor
      · exact .inr
      · rintro (⟨-, same⟩ | member)
        · exact absurd same.symm (other t)
        · exact member

/-- Incidents hand out no tokens. -/
lemma issued_meets {is : List (Nat × Incident)} :
    (is.foldl (fun w i => w.meet i.2) w).tokens.issued = w.tokens.issued := by
  induction is generalizing w with
  | nil => rfl
  | cons i rest ih =>
    rw [List.foldl_cons, ih]
    obtain ⟨t, -, same⟩ | ⟨-, tokens⟩ := w.meet_cases i.2
    · rw [same, issued_cancel]
    · rw [tokens]

/-- The incidents that are due cancel what was going to be cancelled. -/
lemma meddles_meetDue : Meddles secret none w w.meetDue := by
  have incidents : w.meetDue.incidents = w.incidents.filter fun i => !(i.1 ≤ w.now) :=
    sameOrders_meetDue.incidents
  have issued : w.meetDue.tokens.issued = w.tokens.issued := by
    unfold meetDue
    exact issued_meets
  refine ⟨Nat.le_of_eq issued.symm, fun t cancelled => ?_, fun t cancelled => ?_,
    fun t expected => ?_⟩
  · exact isCancelled_meets.2 (.inl cancelled)
  · obtain cancelled | ⟨instant, due⟩ := isCancelled_meets.1 cancelled
    · exact .inl cancelled
    · exact .inr (.inl ⟨instant, (List.mem_filter.1 due).1⟩)
  · obtain ⟨instant, remains⟩ := expected
    rw [incidents] at remains
    exact .inl ⟨instant, (List.mem_filter.1 remains).1⟩

/-- The background cancels what was going to be cancelled, and nothing else. -/
lemma meddles_settle : Meddles secret none w w.settle := by
  have turns (ids : List Nat) (v : World κ υ) : Meddles secret none v (ids.foldl taskTurn v) := by
    induction ids generalizing v with
    | nil => exact .refl
    | cons id rest ih =>
      have turn : Turns v (v.taskTurn id) := .taskTurn
      exact .trans (.of_eq turn.control.tokens turn.control.incidents) (ih _)
  exact .trans meddles_meetDue (turns _ _)

/-- So does the background while time passes. -/
theorem meddles_passes (passes : World.clockwork.Passes w w') : Meddles secret none w w' := by
  induction passes with
  | refl => exact .refl
  | settle _ ih => exact .trans meddles_settle ih
  | advance _ _ ih =>
    refine .trans ?_ ih
    exact .of_eq rfl rfl

end World

/-! ## Courses -/

/-- The call has cancelled its context. -/
def Made.Cancels (m : Made κ υ) : Prop :=
  m.before.isCancelled m.ctx = false ∧ m.after.isCancelled m.ctx = true

namespace Course

/-- Every call is given a context as `C` says. -/
def Gives (C : Call κ → Token → Prop) (course : Course κ υ) : Prop :=
  ∀ m ∈ course.made, C m.call m.ctx

/-- Nothing is given in the empty course. -/
@[simp] lemma gives_nil {C : Call κ → Token → Prop} : Gives C ([] : Course κ υ) := by
  simp [Gives]

/-- A step of the plan itself gives nothing. -/
@[simp] lemma gives_own {C : Call κ → Token → Prop} {w : World κ υ} {rest} :
    Gives C (.own w :: rest) ↔ Gives C rest := Iff.rfl

/-- Contexts are as `C` says if that of the first call and those of the rest are. -/
@[simp] lemma gives_called {C : Call κ → Token → Prop} {m : Made κ υ} {rest} :
    Gives C (.called m :: rest) ↔ C m.call m.ctx ∧ Gives C rest := by
  simp [Gives]

/-- Contexts of two courses, one after the other, are as `C` says if those of both are. -/
@[simp] lemma gives_append {C : Call κ → Token → Prop} {first rest : Course κ υ} :
    Gives C (first ++ rest) ↔ Gives C first ∧ Gives C rest := by
  simp [Gives, or_imp, forall_and]

/-- Contexts that are as `C` says are as anything weaker says. -/
lemma Gives.mono {C C' : Call κ → Token → Prop} {course : Course κ υ} (gives : course.Gives C)
    (weaker : ∀ c t, C c t → C' c t) : course.Gives C' :=
  fun m member => weaker _ _ (gives m member)

/-- The contexts that did not exist before the course. -/
def HandsOut (w : World κ υ) (course : Course κ υ) (t : Token) : Prop :=
  w.tokens.issued ≤ t.id ∧ ∃ m ∈ course.made, m.ctx = t

/-- Of the secret tokens, others cancel none, and calls none but their own contexts. -/
structure IsDiscreet (secret : Token → Prop) (S : Setting (World κ υ)) (course : Course κ υ) :
    Prop where
  between : ∀ w w', S.between w w' → w.Meddles secret none w'
  meanwhile : ∀ w w', S.meanwhile w w' → w.Meddles secret none w'
  calls : ∀ m ∈ course.made, m.before.Meddles secret (some m.ctx) m.after

/-- A step of the plan itself is discreet. -/
@[simp] lemma isDiscreet_own {secret : Token → Prop} {S : Setting (World κ υ)} {w : World κ υ}
    {rest} : IsDiscreet secret S (.own w :: rest) ↔ IsDiscreet secret S rest :=
  ⟨fun d => ⟨d.between, d.meanwhile, d.calls⟩, fun d => ⟨d.between, d.meanwhile, d.calls⟩⟩

/-- Two courses, one after the other, are discreet if both are. -/
@[simp] lemma isDiscreet_append {secret : Token → Prop} {S : Setting (World κ υ)}
    {first rest : Course κ υ} :
    IsDiscreet secret S (first ++ rest) ↔
      IsDiscreet secret S first ∧ IsDiscreet secret S rest := by
  constructor
  · rintro ⟨between, meanwhile, calls⟩
    rw [made_append, List.forall_mem_append] at calls
    exact ⟨⟨between, meanwhile, calls.1⟩, between, meanwhile, calls.2⟩
  · rintro ⟨⟨between, meanwhile, first⟩, ⟨-, -, rest⟩⟩
    refine ⟨between, meanwhile, ?_⟩
    rw [made_append, List.forall_mem_append]
    exact ⟨first, rest⟩

/-- A call of a kind begins with a cancelled context if and only if an earlier one of this kind has
cancelled its own. -/
def Isolates (g : Call κ → Prop) (course : Course κ υ) : Prop :=
  ∀ earlier m later, course.made = earlier ++ m :: later → g m.call →
    (m.before.isCancelled m.ctx = true ↔ ∃ m' ∈ earlier, g m'.call ∧ m'.Cancels)

end Course

/-! ## Chains of calls -/

/-- Calls one after the other, with moves in between that cancel no secret. -/
inductive Chain (secret : Token → Prop) : World κ υ → List (Made κ υ) → World κ υ → Prop where
  | nil {w u} :
    w.Meddles secret none u →
    Chain secret w [] u
  | cons {w m rest u} :
    w.Meddles secret none m.before →
    m.before.Meddles secret (some m.ctx) m.after →
    Chain secret m.after rest u →
    Chain secret w (m :: rest) u

namespace Chain

variable {secret : Token → Prop} {w u : World κ υ} {t : Token}

/-- A move before a chain that cancels no secret belongs to the chain. -/
lemma head {v : World κ υ} {made} (first : w.Meddles secret none v)
    (chain : Chain secret v made u) : Chain secret w made u := by
  cases chain with
  | nil moves => exact .nil (first.trans moves)
  | cons moves call rest => exact .cons (first.trans moves) call rest

/-- A chain takes back no token that was handed out. -/
lemma issued_le {made} (chain : Chain secret w made u) :
    w.tokens.issued ≤ u.tokens.issued := by
  induction chain with
  | nil moves => exact moves.issued
  | cons moves call _ ih => exact Nat.le_trans (moves.trans_issued call) ih

/-- Calls with old contexts keep the secrets that have not been handed out. -/
lemma hides {made} (chain : Chain secret w made u)
    (old : ∀ m ∈ made, m.ctx.id < w.tokens.issued) (hides : w.Hides secret) : u.Hides secret := by
  induction chain with
  | nil moves => exact hides.meddles moves nofun
  | @cons w m rest u moves call _ ih =>
    rw [List.forall_mem_cons] at old
    have before : m.ctx.id < m.before.tokens.issued := Nat.lt_of_lt_of_le old.1 moves.issued
    have hides : m.after.Hides secret := by
      refine (hides.meddles moves nofun).meddles call fun t given => ?_
      cases given
      exact before
    refine ih (fun m' member => ?_) hides
    exact Nat.lt_of_lt_of_le (old.2 m' member) (moves.trans_issued call)

/-- A secret that nobody is going to cancel is not going to be cancelled when a call begins. -/
lemma unexpected {made} (chain : Chain secret w made u) (hidden : secret t)
    (unexpected : ¬w.Expects t) : ∀ m ∈ made, ¬m.before.Expects t := by
  induction chain with
  | nil => simp
  | cons moves call _ ih =>
    have before := moves.unexpected hidden unexpected
    rw [List.forall_mem_cons]
    exact ⟨before, ih (call.unexpected hidden before)⟩

/-- After a call, a secret is cancelled if it was before, or if the call had it and has cancelled
it. -/
lemma cancelled_after {m : Made κ υ} (meddles : m.before.Meddles secret (some m.ctx) m.after)
    (hidden : secret t) (unexpected : ¬m.before.Expects t) :
    m.after.isCancelled t = true ↔ m.before.isCancelled t = true ∨ m.ctx = t ∧ m.Cancels := by
  constructor
  · intro cancelled
    cases before : m.before.isCancelled t with
    | true => exact .inl rfl
    | false =>
      obtain up | given := meddles.given_of_cancelled hidden unexpected cancelled
      · rw [before] at up
        cases up
      · cases given
        exact .inr ⟨rfl, before, cancelled⟩
  · rintro (cancelled | ⟨rfl, -, cancelled⟩)
    · exact meddles.stays t cancelled
    · exact cancelled

/-- A secret is cancelled at the beginning of a call if and only if it was cancelled before the
execution, or by an earlier call with this context. -/
theorem cancelled_iff {made} (chain : Chain secret w made u) (hidden : secret t)
    (unexpected : ¬w.Expects t) {earlier m later} (split : made = earlier ++ m :: later) :
    m.before.isCancelled t = true ↔
      w.isCancelled t = true ∨ ∃ m' ∈ earlier, m'.ctx = t ∧ m'.Cancels := by
  -- calls are taken off the front, and what they cancelled counts as cancelled before
  induction chain generalizing earlier with
  | nil => simp at split
  | @cons w first rest u moves call _ ih =>
    have unexpected' := moves.unexpected hidden unexpected
    rw [← moves.isCancelled_iff hidden unexpected]
    cases earlier with
    | nil =>
      obtain ⟨rfl, -⟩ := List.cons.inj split
      simp
    | cons m₁ earlier =>
      obtain ⟨rfl, remains⟩ := List.cons.inj split
      rw [ih (call.unexpected hidden unexpected') remains,
        cancelled_after call hidden unexpected', or_assoc]
      simp

end Chain

/-! ## Plans -/

/-- The own steps of a plan respect a relation, and its calls are given contexts as `C` says. -/
inductive Plan.Heeds (R : World κ υ → World κ υ → Prop) (C : Call κ → Token → Prop) :
    Plan κ υ α → Prop where
  | done {a} :
    Heeds R C (.done a)
  | act {change next} :
    (∀ w, R w (change w)) →
    (∀ w, Heeds R C (next w)) →
    Heeds R C (.act change next)
  | wait {trigger next} :
    (∀ w, Heeds R C (next w)) →
    Heeds R C (.wait trigger next)
  | call {c ctx next} :
    C c ctx →
    (∀ outcome, Heeds R C (next outcome)) →
    Heeds R C (.call c ctx next)
  | callWithin {ms c ctx next} :
    C c ctx →
    (∀ outcome, Heeds R C (next outcome)) →
    Heeds R C (.callWithin ms c ctx next)

namespace Plan

variable {R : World κ υ → World κ υ → Prop} {C : Call κ → Token → Prop} {S : Setting (World κ υ)}
  {b : Behaviour κ υ} {w u : World κ υ} {course : Course κ υ} {secret : Token → Prop}

namespace Heeds

/-- One plan after another heeds what both heed. -/
lemma bind {p : Plan κ υ α} {f : α → Plan κ υ β} (first : Heeds R C p)
    (rest : ∀ a, Heeds R C (f a)) : Heeds R C (p >>= f) := by
  show Heeds R C (Plan.bind p f)
  induction first with
  | done => exact rest _
  | act steps _ ih => exact .act steps ih
  | wait _ ih => exact .wait ih
  | call gives _ ih => exact .call gives ih
  | callWithin gives _ ih => exact .callWithin gives ih

/-- A plan without calls heeds what its flow respects. -/
lemma ofFlow {flow : Flow κ υ α} (respects : flow.Respects R) : Heeds R C (ofFlow flow) := by
  induction respects with
  | done => exact .done
  | act steps _ ih => exact .act steps ih
  | wait _ ih => exact .wait ih

/-- An attempt heeds what its note and its call do. -/
lemma attempt {note : Note κ υ} {ctx c} (notes : ∀ c outcome w, R w (note c outcome w))
    (gives : C c ctx) : Heeds R C (attempt note ctx c) :=
  .call gives fun outcome => .act (notes c outcome) fun _ => .done

/-- Attempts in order heed what the notes and the calls do. -/
lemma tryEach {ctx : Token} {cs : List (Call κ)}
    (notes : ∀ c outcome w, R w (Call.note c outcome w)) (gives : ∀ c ∈ cs, C c ctx) :
    Heeds R C (tryEach ctx cs) := by
  induction cs with
  | nil => exact .done
  | cons c rest ih =>
    rw [List.forall_mem_cons] at gives
    refine (attempt notes gives.1).bind fun outcome => ?_
    cases outcome with
    | ok => exact ih gives.2
    | error cause => exact .done

/-- Calls in order heed what the notes and the calls do. -/
lemma callEach {note : Note κ υ} {ctx : Token} {cs : List (Call κ)}
    (notes : ∀ c outcome w, R w (note c outcome w)) (gives : ∀ c ∈ cs, C c ctx) :
    Heeds R C (callEach note ctx cs) := by
  induction cs with
  | nil => exact .done
  | cons c rest ih =>
    rw [List.forall_mem_cons] at gives
    have first : Heeds R C (Plan.attempt note ctx c) := attempt notes gives.1
    exact first.bind fun _ => (ih gives.2).bind fun _ => .done

/-- In every execution, calls have the contexts that the plan gives. -/
lemma gives {p : Plan κ υ α} {r} (heeds : Heeds R C p) (run : p.Runs S b w course r u) :
    course.Gives C := by
  induction run with
  | done => exact Course.gives_nil
  | act _ _ ih =>
    cases heeds with
    | act _ rest => exact ih (rest _)
  | resumed _ _ _ ih =>
    cases heeds with
    | wait rest => exact ih (rest _)
  | waiting => exact Course.gives_nil
  | call _ _ ih =>
    cases heeds with
    | call gives rest => exact Course.gives_called.2 ⟨gives, ih (rest _)⟩
  | calling =>
    cases heeds with
    | call gives _ => exact Course.gives_called.2 ⟨gives, Course.gives_nil⟩
  | callWithin _ _ ih =>
    cases heeds with
    | callWithin gives rest => exact Course.gives_called.2 ⟨gives, ih (rest _)⟩
  | callingWithin =>
    cases heeds with
    | callWithin gives _ => exact Course.gives_called.2 ⟨gives, Course.gives_nil⟩

end Heeds

/-! ## Secrets -/

section
variable {p : Plan κ υ α} {r : Option α}

/-- A call cancels at most its own context if the callbacks do. -/
lemma flow_meddles {c : Call κ} {ctx : Token}
    (callbacks : ∀ handle t, (b handle t).Respects (World.Meddles secret (some t))) :
    (c.flow b ctx).Respects (World.Meddles secret (some ctx)) :=
  Call.flow_cases .done (fun handle => callbacks handle ctx)
    (fun _ => Server.start_respects.mono fun same => .of_eq same.tokens same.incidents)
    fun _ => Server.stop_respects.mono fun same => .of_eq same.tokens same.incidents

/-- What the steps of calls and the moves of others respect holds from the beginning of each call
to its end. -/
lemma Runs.made_respect {R : Token → World κ υ → World κ υ → Prop} (run : p.Runs S b w course r u)
    (flows : ∀ (c : Call κ) t, (c.flow b t).Respects (R t)) (refl : ∀ t w, R t w w)
    (trans : ∀ {t w v u}, R t w v → R t v u → R t w u)
    (between : ∀ {t w w'}, S.between w w' → R t w w')
    (meanwhile : ∀ {t w w'}, S.meanwhile w w' → R t w w') :
    ∀ m ∈ course.made, R m.ctx m.before m.after := by
  have whole {β : Type} {flow : Flow κ υ β} {t v v' r} (respects : flow.Respects (R t))
      (run : flow.Runs S v r v') : R t v v' :=
    respects.runs run (refl t) trans between meanwhile
  have within {ms : Nat} {c : Call κ} {t : Token} :
      (Flow.within ms (c.flow b t)).Respects (R t) :=
    .bind (.look (refl t)) fun _ => (flows c t).within
  -- a call by itself respects the relation of its own token, wherever it stands
  induction run with
  | done => simp
  | act _ _ ih => exact ih
  | resumed _ _ _ ih => exact ih
  | waiting => simp
  | call made _ ih =>
    rw [Course.made_called, List.forall_mem_cons]
    exact ⟨whole (flows _ _) made, ih⟩
  | calling made =>
    rw [Course.made_called, List.forall_mem_cons]
    exact ⟨whole (flows _ _) made, by simp⟩
  | callWithin made _ ih =>
    rw [Course.made_called, List.forall_mem_cons]
    exact ⟨whole within made, ih⟩
  | callingWithin made =>
    rw [Course.made_called, List.forall_mem_cons]
    exact ⟨whole within made, by simp⟩

/-- A course is discreet if others and callbacks are. -/
lemma Runs.isDiscreet (run : p.Runs S b w course r u)
    (between : ∀ w w', S.between w w' → w.Meddles secret none w')
    (meanwhile : ∀ w w', S.meanwhile w w' → w.Meddles secret none w')
    (callbacks : ∀ handle t, (b handle t).Respects (World.Meddles secret (some t))) :
    course.IsDiscreet secret S where
  between := between
  meanwhile := meanwhile
  calls := run.made_respect (fun _ _ => flow_meddles callbacks) (fun _ _ => .refl)
    World.Meddles.trans (fun move => (between _ _ move).of_none)
    fun move => (meanwhile _ _ move).of_none

/-- The calls of an execution form a chain if the plan and all others are discreet. -/
lemma Runs.chain (run : p.Runs S b w course r u) (heeds : Heeds (World.Meddles secret none) C p)
    (discreet : course.IsDiscreet secret S) : Chain secret w course.made u := by
  obtain ⟨between, meanwhile, calls⟩ := discreet
  induction run with
  | done => exact .nil .refl
  | act move _ ih =>
    cases heeds with
    | act steps rest => exact (ih (rest _) calls).head ((steps _).trans (between _ _ move))
  | resumed move _ _ ih =>
    cases heeds with
    | wait rest => exact (ih (rest _) calls).head (meanwhile _ _ move)
  | waiting move _ => exact .nil (meanwhile _ _ move)
  | call _ _ ih =>
    rw [Course.made_called, List.forall_mem_cons] at calls
    cases heeds with
    | call _ rest => exact .cons .refl calls.1 (ih (rest _) calls.2)
  | calling =>
    rw [Course.made_called, List.forall_mem_cons] at calls
    exact .cons .refl calls.1 (.nil .refl)
  | callWithin _ _ ih =>
    rw [Course.made_called, List.forall_mem_cons] at calls
    cases heeds with
    | callWithin _ rest => exact .cons .refl calls.1 (ih (rest _) calls.2)
  | callingWithin =>
    rw [Course.made_called, List.forall_mem_cons] at calls
    exact .cons .refl calls.1 (.nil .refl)

/-- A secret that nobody is going to cancel is not going to be cancelled at any own step. -/
lemma Runs.unexpected {t : Token} (run : p.Runs S b w course r u)
    (heeds : Heeds (World.Meddles secret none) C p) (discreet : course.IsDiscreet secret S)
    (hidden : secret t) (unexpected : ¬w.Expects t) : ∀ v, .own v ∈ course → ¬v.Expects t := by
  obtain ⟨between, meanwhile, calls⟩ := discreet
  induction run with
  | done => simp
  | @act change next w v course r u move _ ih =>
    cases heeds with
    | act steps rest =>
      have next := ((steps w).trans (between _ _ move)).unexpected hidden unexpected
      simpa using And.intro unexpected (ih (rest _) next calls)
  | resumed move _ _ ih =>
    cases heeds with
    | wait rest =>
      have resumed := (meanwhile _ _ move).unexpected hidden unexpected
      simpa using And.intro resumed (ih (rest _) resumed calls)
  | waiting => simp
  | call _ _ ih =>
    rw [Course.made_called, List.forall_mem_cons] at calls
    cases heeds with
    | call _ rest => simpa using ih (rest _) (calls.1.unexpected hidden unexpected) calls.2
  | calling => simp
  | callWithin _ _ ih =>
    rw [Course.made_called, List.forall_mem_cons] at calls
    cases heeds with
    | callWithin _ rest => simpa using ih (rest _) (calls.1.unexpected hidden unexpected) calls.2
  | callingWithin => simp

/-- Calls of a kind are isolated if they have a context of their own, which is handed out in the
course. -/
theorem Runs.isolates (run : p.Runs S b w course r u)
    (heeds : Heeds (World.Meddles (course.HandsOut w) none) C p)
    (discreet : course.IsDiscreet (course.HandsOut w) S) (sound : w.IsSound)
    {g : Call κ → Prop} {ctx : Token} (fresh : w.tokens.issued ≤ ctx.id)
    (own : course.Gives fun c t => g c ↔ t = ctx) :
    course.Isolates g := by
  intro earlier m later split kind
  have member : m ∈ course.made := by
    rw [split]
    exact List.mem_append_right _ List.mem_cons_self
  have same : m.ctx = ctx := (own m member).1 kind
  -- the context is a secret that nobody could cancel before the course
  have hidden : course.HandsOut w ctx := ⟨fresh, m, member, same⟩
  have down : ¬w.isCancelled ctx = true := by
    intro cancelled
    have issued := sound.cancelled ctx cancelled
    omega
  have unexpected : ¬w.Expects ctx := by
    intro expected
    have issued := sound.expected ctx expected
    omega
  rw [same, (run.chain heeds discreet).cancelled_iff hidden unexpected split, or_iff_right down]
  apply exists_congr
  intro m'
  apply and_congr_right
  intro member'
  have kind' : g m'.call ↔ m'.ctx = ctx := by
    refine own m' ?_
    rw [split]
    exact List.mem_append_left _ member'
  rw [kind']

end

end Plan

end Supervision
