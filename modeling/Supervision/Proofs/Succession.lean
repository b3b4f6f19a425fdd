import Supervision.Proofs.Linearization
import Supervision.Proofs.Reports

/-!
# Calls of a server in succession

Calls of which each one comes to its end before the next one begins (`Desk.IsIdle`). A launch is
refused if and only if an accepted one has not been followed by a shutdown. Every task that was
spawned is stopped by one shutdown, whose result has what the task has reported by then
(`Desk.succession`).

The invariant is `Desk.Succeeds`: only the latest visit waits, the server holds a task if and only
if it is open (`IsOpen`), and the tasks that were spawned and stopped balance (`Ledger`).
-/

namespace Supervision.Server
open Net World

variable {κ υ : Type} {id k : Nat} {e : ServerError}

/-! ## Visits in a row -/

namespace Visit

/-- A launch that has spawned its task. -/
def IsAccepted (v : Visit κ υ) : Prop :=
  v.rest = .done (.launched (.ok ()))

/-- The task that a launch has spawned. -/
def spawned? (id : Nat) (v : Visit κ υ) : Option Nat :=
  match v.rest with
  | .done (.launched (.ok ())) => v.after.held id
  | _ => none

/-- The latest time at which a visit goes on: the timeout of a shutdown is that of the server. -/
def deadline (id : Nat) (v : Visit κ υ) : Nat :=
  match v.use with
  | .launch => 0
  | .shutdown _ => v.began.now + ((v.began.servers[id]?).map Server.timeoutMs).getD 0

end Visit

/-- An accepted launch has not been followed by a shutdown. -/
def IsOpen (visits : List (Visit κ υ)) : Prop :=
  ∃ earlier v later, visits = earlier ++ v :: later ∧ v.IsAccepted ∧ ∀ u ∈ later, u.use = .launch

/-- A launch is refused if the server is open, and fails if the address cannot be bound. In both
cases nothing changes. Otherwise it spawns a task. -/
structure Visit.Launches (id : Nat) (earlier : List (Visit κ υ)) (v : Visit κ υ)
    (r : Except ServerError Unit) : Prop where
  refused : r = .error .alreadyStarted ↔ IsOpen earlier
  unchanged : r ≠ .ok () → v.after = v.began
  spawned : r = .ok () → ∃ k a, Spawns id k a v.before v.after
  failed : ∀ e, r = .error e → ¬IsOpen earlier → ∃ s, v.began.servers[id]? = some s ∧
    s.kind = .grpc ∧ bindAddress s.address v.began.host = .error e

/-- A shutdown leaves the server without task and address. If there is nothing to stop, nothing
changes; otherwise the task is over, and the shutdown reports what the task has reported. -/
structure Visit.ShutsDown (id : Nat) (earlier : List (Visit κ υ)) (v : Visit κ υ) (ctx : Token)
    (r : Except (Errors ServerError) Unit) : Prop where
  held : v.after.held id = none
  address : v.after.addressOf id = none
  nothing : ¬IsOpen earlier → r = .ok () ∧ v.after = v.began
  stopped : ∀ s k, v.began.servers[id]? = some s → s.serving = some k →
    Server.IsOver k v.after ∧ ∃ winner,
      raceIn k (v.began.now + s.timeoutMs) ctx v.before = some winner ∧
      r = Errors.outcome (raceFailure s.timeoutMs winner ++ (v.before.reported k).toList)

/-- What is true of a call that comes after others. -/
structure Visit.Fits (id : Nat) (earlier : List (Visit κ υ)) (v : Visit κ υ) : Prop where
  held : v.began.held id ≠ none ↔ IsOpen earlier
  waits : v.use = .launch → ¬v.IsOver → ¬IsOpen earlier
  launches : v.use = .launch → ∀ r, v.rest = .done (.launched r) → v.Launches id earlier r
  shutsDown : ∀ ctx, v.use = .shutdown ctx → ∀ r, v.rest = .done (.shutDown r) →
    v.ShutsDown id earlier ctx r

namespace Visit.Fits

variable {earlier : List (Visit κ υ)} {v : Visit κ υ}

/-- A launch that does what launches do fits. -/
lemma of_launch {r} (held : v.began.held id ≠ none ↔ IsOpen earlier) (use : v.use = .launch)
    (rest : v.rest = .done (.launched r)) (launches : v.Launches id earlier r) :
    v.Fits id earlier := by
  refine ⟨held, fun _ waits => absurd ⟨_, rest⟩ waits, fun _ r' rest' => ?_, fun ctx use' => ?_⟩
  · cases rest.symm.trans rest'
    exact launches
  · cases use.symm.trans use'

/-- A shutdown that does what shutdowns do fits. -/
lemma of_shutdown {ctx r} (held : v.began.held id ≠ none ↔ IsOpen earlier)
    (use : v.use = .shutdown ctx) (rest : v.rest = .done (.shutDown r))
    (shutsDown : v.ShutsDown id earlier ctx r) : v.Fits id earlier := by
  refine ⟨held, fun use' => ?_, fun use' => ?_, fun ctx' use' r' rest' => ?_⟩
  · cases use.symm.trans use'
  · cases use.symm.trans use'
  · cases use.symm.trans use'
    cases rest.symm.trans rest'
    exact shutsDown

/-- A call that waits fits, if it is not a launch of an open server. -/
lemma of_waiting {trigger next} (held : v.began.held id ≠ none ↔ IsOpen earlier)
    (rest : v.rest = .wait trigger next) (launch : v.use = .launch → ¬IsOpen earlier) :
    v.Fits id earlier := by
  refine ⟨held, fun use _ => launch use, fun _ r rest' => ?_, fun ctx _ r rest' => ?_⟩
  · cases rest.symm.trans rest'
  · cases rest.symm.trans rest'

end Visit.Fits

/-- A server is open after a launch that was accepted, or after one that was refused while it
was. -/
lemma isOpen_concat {visits : List (Visit κ υ)} {v : Visit κ υ} :
    IsOpen (visits ++ [v]) ↔ v.IsAccepted ∨ v.use = .launch ∧ IsOpen visits := by
  constructor
  · rintro ⟨earlier, u, later, split, accepted, launches⟩
    rcases List.eq_nil_or_concat later with rfl | ⟨later, u', rfl⟩
    · obtain ⟨-, same⟩ := List.append_inj' split rfl
      cases same
      exact .inl accepted
    · have split : visits ++ [v] = (earlier ++ u :: later) ++ [u'] := by simpa using split
      obtain ⟨rfl, same⟩ := List.append_inj' split rfl
      cases same
      have use : v.use = .launch := launches v (by simp)
      refine .inr ⟨use, earlier, u, later, rfl, accepted, fun x member => ?_⟩
      exact launches x (by simp [member])
  · rintro (accepted | ⟨use, earlier, u, later, rfl, accepted, launches⟩)
    · exact ⟨visits, v, [], rfl, accepted, fun _ member => nomatch member⟩
    · refine ⟨earlier, u, later ++ [v], by simp, accepted, fun x member => ?_⟩
      rcases List.mem_append.1 member with old | new
      · exact launches x old
      · cases List.mem_singleton.1 new
        exact use

/-- A launch that is not accepted does not count. -/
lemma isOpen_concat_launch {visits : List (Visit κ υ)} {v : Visit κ υ} (use : v.use = .launch)
    (refused : ¬v.IsAccepted) : IsOpen (visits ++ [v]) ↔ IsOpen visits := by
  rw [isOpen_concat]
  constructor
  · rintro (accepted | ⟨-, opened⟩)
    · exact absurd accepted refused
    · exact opened
  · exact fun opened => .inr ⟨use, opened⟩

/-- A server is not open after a shutdown. -/
lemma not_isOpen_concat {visits : List (Visit κ υ)} {v : Visit κ υ} {ctx : Token}
    (use : v.use = .shutdown ctx) (refused : ¬v.IsAccepted) : ¬IsOpen (visits ++ [v]) := by
  rw [isOpen_concat]
  rintro (accepted | ⟨use', -⟩)
  · exact refused accepted
  · cases use.symm.trans use'

/-- To bind an address never fails because the server is started already. -/
lemma bindAddress_ne_alreadyStarted {address : String} {host : Host} :
    bindAddress address host ≠ .error .alreadyStarted := by
  unfold bindAddress
  split
  · exact fun same => nomatch same
  · intro same
    cases bound : host.bind _ with
    | error =>
      rw [bound] at same
      cases same
    | ok =>
      rw [bound] at same
      cases same

/-! ## Ledgers -/

/-- The tasks that were spawned, those that were stopped, and the one that is held, among the first
`n`: every other task that was spawned was stopped, in the same order. -/
structure Ledger (spawned stopped : List Nat) (held : Option Nat) (n : Nat) : Prop where
  balance : spawned = stopped ++ held.toList
  sorted : spawned.Pairwise (· < ·)
  below : ∀ k ∈ spawned, k < n

namespace Ledger

variable {spawned stopped : List Nat} {held : Option Nat} {n n' : Nat}

/-- A ledger stays right with more tasks. -/
lemma mono (ledger : Ledger spawned stopped held n) (more : n ≤ n') :
    Ledger spawned stopped held n' :=
  ⟨ledger.balance, ledger.sorted, fun k member => Nat.lt_of_lt_of_le (ledger.below k member) more⟩

/-- A spawned task is held. -/
lemma spawn (ledger : Ledger spawned stopped none n) :
    Ledger (spawned ++ [n]) stopped (some n) (n + 1) := by
  refine ⟨?_, ?_, ?_⟩
  · rw [ledger.balance, Option.toList_none, List.append_nil, Option.toList_some]
  · rw [List.pairwise_append]
    refine ⟨ledger.sorted, List.pairwise_singleton _ _, fun k member j last => ?_⟩
    cases List.mem_singleton.1 last
    exact ledger.below k member
  · intro k member
    rcases List.mem_append.1 member with old | new
    · exact Nat.lt_succ_of_lt (ledger.below k old)
    · cases List.mem_singleton.1 new
      exact Nat.lt_succ_self n

/-- A stopped task is held no more. -/
lemma stop (ledger : Ledger spawned stopped (some k) n) :
    Ledger spawned (stopped ++ [k]) none n := by
  refine ⟨?_, ledger.sorted, ledger.below⟩
  rw [ledger.balance, Option.toList_some, Option.toList_none, List.append_nil]

end Ledger

namespace Desk

variable {d d' : Desk κ υ}

/-- The calls at a desk have followed one another. -/
structure Succeeds (id : Nat) (d : Desk κ υ) : Prop where
  sound : d.Sound id
  latest : ∀ (i : Nat) (v : Visit κ υ), d.visits[i]? = some v → ¬v.IsOver →
    i + 1 = d.visits.length
  fits : ∀ (i : Nat) (v : Visit κ υ), d.visits[i]? = some v → v.Fits id (d.visits.take i)
  held : d.world.held id ≠ none ↔ IsOpen d.visits
  ledger : Ledger (d.visits.filterMap (Visit.spawned? id)) (d.visits.filterMap (Visit.stopped? id))
    (d.world.held id) d.world.tasks.length

/-- At a desk at which nobody was, no calls have followed one another. -/
lemma IsFresh.succeeds (fresh : d.IsFresh id) : d.Succeeds id := by
  obtain ⟨s, here, serving, -⟩ := fresh.server
  have idle : d.world.held id = none := held_of_serving here serving
  refine ⟨fresh.sound, ?_, ?_, ?_, ?_⟩
  · intro i v there
    rw [fresh.visits] at there
    cases there
  · intro i v there
    rw [fresh.visits] at there
    cases there
  · rw [fresh.visits, idle]
    constructor
    · exact fun h => absurd rfl h
    · rintro ⟨earlier, v, later, split, -⟩
      cases earlier <;> cases split
  · rw [fresh.visits, idle]
    exact ⟨rfl, .nil, fun _ member => nomatch member⟩

/-- The latest visit has taken a step. -/
lemma Succeeds.concat {visits : List (Visit κ υ)} {v : Visit κ υ} {w : World κ υ}
    (sound : Sound id ⟨visits ++ [v], w⟩) (ended : ∀ u ∈ visits, u.IsOver)
    (fits : ∀ (i : Nat) (u : Visit κ υ), visits[i]? = some u → u.Fits id (visits.take i))
    (fit : v.Fits id visits) (held : w.held id ≠ none ↔ IsOpen (visits ++ [v]))
    (ledger : Ledger (visits.filterMap (Visit.spawned? id) ++ (v.spawned? id).toList)
      (visits.filterMap (Visit.stopped? id) ++ (v.stopped? id).toList) (w.held id) w.tasks.length) :
    Succeeds id ⟨visits ++ [v], w⟩ := by
  refine ⟨sound, ?_, ?_, held, ?_⟩
  · intro i u here waits
    rcases concat_cases here with old | ⟨rfl, -⟩
    · exact absurd (ended u (List.mem_of_getElem? old)) waits
    · rw [List.length_append, List.length_singleton]
  · intro i u here
    rcases concat_cases here with old | ⟨rfl, rfl⟩
    · have inside : i ≤ visits.length := Nat.le_of_lt (List.getElem?_eq_some_iff.1 old).1
      rw [List.take_append_of_le_length inside]
      exact fits i u old
    · rw [List.take_left]
      exact fit
  · rw [filterMap_snoc, filterMap_snoc]
    exact ledger

/-- Nobody has an address without a task. -/
lemma Sound.address_of_idle (sound : d.Sound id) (idle : d.IsIdle) (free : d.world.held id = none) :
    d.world.addressOf id = none := by
  cases address : d.world.addressOf id with
  | none => rfl
  | some a =>
    obtain ⟨k, held⟩ | ⟨k, v, member, waits, -⟩ := sound.custody.address a address
    · cases free.symm.trans held
    · exact absurd (idle v member) waits

section
variable {use : Use} {rest : Flow κ υ Answer} {w : World κ υ}

/-- A server that holds no task is not open. -/
lemma Succeeds.closed (here : d.Succeeds id) (free : d.world.held id = none) : ¬IsOpen d.visits :=
  fun opened => here.held.2 opened free

/-- A server that holds a task is open. -/
lemma Succeeds.opened (here : d.Succeeds id) (held : d.world.held id = some k) :
    IsOpen d.visits := by
  refine here.held.1 ?_
  rw [held]
  exact fun h => nomatch h

/-- A call that begins while nobody waits fits after those before. -/
lemma Succeeds.begins_fits (here : d.Succeeds id) (idle : d.IsIdle)
    (begins : Begins id d.world use rest w) :
    Visit.Fits id d.visits ⟨use, d.world, rest, d.world, w⟩ := by
  cases begins with
  | refused held =>
    refine .of_launch here.held rfl rfl ⟨?_, fun _ => rfl, fun h => (nomatch h), ?_⟩
    · exact ⟨fun _ => here.opened held, fun _ => rfl⟩
    · exact fun e _ free => absurd (here.opened held) free
  | spawned kind spawns =>
    refine .of_launch here.held rfl rfl ⟨?_, fun h => absurd rfl h, fun _ => ⟨_, _, spawns⟩, ?_⟩
    · exact ⟨fun h => (nomatch h), fun opened => absurd opened (here.closed spawns.idle)⟩
    · exact fun e h => nomatch h
  | @failed s e free server kind fails =>
    refine .of_launch here.held rfl rfl ⟨?_, fun _ => rfl, fun h => (nomatch h), ?_⟩
    · refine ⟨fun same => ?_, fun opened => absurd opened (here.closed free)⟩
      -- the error is that of the address
      cases same
      exact absurd fails bindAddress_ne_alreadyStarted
    · intro e' same _
      cases same
      exact ⟨s, server, kind, fails⟩
  | claims free kind => exact .of_waiting here.held rfl fun _ => here.closed free
  | nothing free =>
    refine .of_shutdown here.held rfl rfl ⟨free, ?_, fun _ => ⟨rfl, rfl⟩, ?_⟩
    · exact here.sound.address_of_idle idle free
    · intro s k server serving
      have held : d.world.held id = some k := held_of_serving server serving
      cases free.symm.trans held
  | takes server serving takes => exact .of_waiting here.held rfl fun h => nomatch h
  | @stops ctx s k v result w server serving takes stops =>
    have held : d.world.held id = some k := held_of_serving server serving
    obtain ⟨⟨winner, decided, result⟩, concludes⟩ := stops
    refine .of_shutdown here.held rfl rfl ⟨?_, concludes.address, ?_, ?_⟩
    · exact concludes.held.trans takes.held
    · exact fun free => absurd (here.opened held) free
    · intro s' k' server' serving'
      cases server.symm.trans server'
      cases serving.symm.trans serving'
      refine ⟨concludes.ended, winner, takes.raceIn.symm.trans decided, ?_⟩
      rw [result, takes.reported]

/-- After a call has begun, the server holds a task if and only if it is open. -/
lemma Succeeds.begins_held (here : d.Succeeds id) (begins : Begins id d.world use rest w) :
    w.held id ≠ none ↔ IsOpen (d.visits ++ [⟨use, d.world, rest, d.world, w⟩]) := by
  have shut {ctx} {v : Visit κ υ} (use : v.use = .shutdown ctx) (refused : ¬v.IsAccepted)
      (free : w.held id = none) : w.held id ≠ none ↔ IsOpen (d.visits ++ [v]) := by
    rw [free]
    exact ⟨fun h => absurd rfl h, fun opened => absurd opened (not_isOpen_concat use refused)⟩
  have launched {v : Visit κ υ} (use : v.use = .launch) (refused : ¬v.IsAccepted) :
      d.world.held id ≠ none ↔ IsOpen (d.visits ++ [v]) :=
    here.held.trans (isOpen_concat_launch use refused).symm
  cases begins with
  | refused held => exact launched rfl nofun
  | spawned kind spawns =>
    rw [spawns.held]
    exact ⟨fun _ => isOpen_concat.2 (.inl rfl), fun _ h => nomatch h⟩
  | failed => exact launched rfl nofun
  | claims => exact launched rfl nofun
  | nothing free => exact shut rfl nofun free
  | takes server serving takes => exact shut rfl nofun takes.held
  | stops server serving takes stops =>
    exact shut rfl nofun (stops.concludes.held.trans takes.held)

/-- After a call has begun, the ledger is right. -/
lemma Succeeds.begins_ledger (here : d.Succeeds id) (begins : Begins id d.world use rest w) :
    Ledger
      (d.visits.filterMap (Visit.spawned? id) ++
        (Visit.spawned? id ⟨use, d.world, rest, d.world, w⟩).toList)
      (d.visits.filterMap (Visit.stopped? id) ++
        (Visit.stopped? id ⟨use, d.world, rest, d.world, w⟩).toList)
      (w.held id) w.tasks.length := by
  have ledger := here.ledger
  -- most visits change no task; one spawns it, and two take it away
  have same {v : Visit κ υ} (spawned : v.spawned? id = none) (stopped : v.stopped? id = none) :
      Ledger (d.visits.filterMap (Visit.spawned? id) ++ (v.spawned? id).toList)
        (d.visits.filterMap (Visit.stopped? id) ++ (v.stopped? id).toList) (d.world.held id)
        d.world.tasks.length := by
    rw [spawned, stopped, Option.toList_none, List.append_nil, List.append_nil]
    exact ledger
  have took {k : Nat} {v : Visit κ υ} (held : d.world.held id = some k)
      (spawned : v.spawned? id = none) (stopped : v.stopped? id = some k) (free : w.held id = none)
      (length : w.tasks.length = d.world.tasks.length) :
      Ledger (d.visits.filterMap (Visit.spawned? id) ++ (v.spawned? id).toList)
        (d.visits.filterMap (Visit.stopped? id) ++ (v.stopped? id).toList) (w.held id)
        w.tasks.length := by
    rw [held] at ledger
    rw [spawned, stopped, free, length, Option.toList_none, List.append_nil, Option.toList_some]
    exact ledger.stop
  cases begins with
  | refused => exact same rfl rfl
  | @spawned k w kind spawns =>
    rw [spawns.idle] at ledger
    have spawned : Visit.spawned? id
        ⟨.launch, d.world, .done (.launched (.ok ())), d.world, w⟩ = some k := spawns.held
    have stopped : Visit.stopped? id
        ⟨.launch, d.world, .done (.launched (.ok ())), d.world, w⟩ = none := rfl
    rw [spawned, stopped, spawns.held, spawns.tasks, spawns.number, Option.toList_some,
      Option.toList_none, List.append_nil, List.length_append, List.length_singleton]
    exact ledger.spawn
  | failed => exact same rfl rfl
  | claims => exact same rfl rfl
  | nothing free => exact same rfl free
  | @takes ctx s k w server serving takes =>
    have held : d.world.held id = some k := held_of_serving server serving
    refine took held rfl held takes.held ?_
    rw [takes.tasks, List.length_modify]
  | @stops ctx s k v result w server serving takes stops =>
    have held : d.world.held id = some k := held_of_serving server serving
    refine took held rfl held (stops.concludes.held.trans takes.held) ?_
    rw [stops.concludes.length, takes.tasks, List.length_modify]

end

/-- What begins at a desk at which nobody waits, fits. -/
lemma Succeeds.begins {use : Use} {rest : Flow κ υ Answer} {w : World κ υ} (here : d.Succeeds id)
    (idle : d.IsIdle) (begins : Begins id d.world use rest w)
    (sound : (d.add use rest w).Sound id) :
    (d.add use rest w).Succeeds id :=
  .concat sound idle here.fits (here.begins_fits idle begins) (here.begins_held begins)
    (here.begins_ledger begins)

section
variable {i : Nat} {visits : List (Visit κ υ)} {v : Visit κ υ} {rest : Flow κ υ Answer}
  {w : World κ υ}

/-- Only the latest visit waits. -/
lemma Succeeds.latest_cases (here : d.Succeeds id) (there : d.visits[i]? = some v)
    (waits : ¬v.IsOver) :
    ∃ visits, d.visits = visits ++ [v] ∧ i = visits.length ∧ ∀ u ∈ visits, u.IsOver := by
  have last : i + 1 = d.visits.length := here.latest i v there waits
  have length : (d.visits.take i).length = i := by
    rw [List.length_take]
    omega
  refine ⟨d.visits.take i, ?_, length.symm, fun u member => ?_⟩
  · have whole : d.visits.take (i + 1) = d.visits := by rw [last, List.take_length]
    rw [List.take_add_one, there] at whole
    exact whole.symm
  · obtain ⟨j, before⟩ := List.mem_iff_getElem?.1 member
    have inside : j < i := by
      have h := (List.getElem?_eq_some_iff.1 before).1
      rwa [length] at h
    rw [List.getElem?_take_of_lt inside] at before
    by_contra waits'
    have last' := here.latest j u before waits'
    omega

/-- A call that waits has spawned nothing. -/
lemma spawned?_of_waits (waits : ¬v.IsOver) : v.spawned? id = none := by
  unfold Visit.spawned?
  split
  next rest => exact absurd ⟨_, rest⟩ waits
  next => rfl

/-- A call that waits was not accepted. -/
lemma not_isAccepted_of_waits (waits : ¬v.IsOver) : ¬v.IsAccepted :=
  fun accepted => waits ⟨_, accepted⟩

/-- While a shutdown waits, the server holds no task. -/
lemma free_of_shutdown {ctx} (held : d.world.held id ≠ none ↔ IsOpen (visits ++ [v]))
    (use : v.use = .shutdown ctx) (waits : ¬v.IsOver) : d.world.held id = none := by
  by_contra busy
  exact not_isOpen_concat use (not_isAccepted_of_waits waits) (held.1 busy)

/-- A launch that waits finds the server without a task when it goes on. -/
lemma free_of_launch (held : d.world.held id ≠ none ↔ IsOpen (visits ++ [v]))
    (use : v.use = .launch) (waits : ¬v.IsOver) (closed : ¬IsOpen visits) :
    d.world.held id = none := by
  by_contra busy
  have opened := held.1 busy
  rw [isOpen_concat_launch use (not_isAccepted_of_waits waits)] at opened
  exact closed opened

/-- A call that goes on fits as it did. -/
lemma resumes_fits (fit : v.Fits id visits) (waits : ¬v.IsOver)
    (held : d.world.held id ≠ none ↔ IsOpen (visits ++ [v]))
    (resumes : v.Resumes id d.world rest w) :
    Visit.Fits id visits { v with rest := rest, before := d.world, after := w } := by
  cases resumes with
  | refused use busy =>
    cases (free_of_launch held use waits (fit.waits use waits)).symm.trans busy
  | spawned use kind spawns =>
    have closed := fit.waits use waits
    refine .of_launch fit.held use rfl ⟨?_, fun h => absurd rfl h, fun _ => ⟨_, _, spawns⟩, ?_⟩
    · exact ⟨fun h => (nomatch h), fun opened => absurd opened closed⟩
    · exact fun e h => nomatch h
  | @stops ctx s k result w use began serving stops =>
    obtain ⟨⟨winner, decided, result⟩, concludes⟩ := stops
    refine .of_shutdown fit.held use rfl ⟨?_, concludes.address, fun closed => ?_, ?_⟩
    · exact concludes.held.trans (free_of_shutdown held use waits)
    · refine absurd (fit.held.1 ?_) closed
      rw [held_of_serving began serving]
      exact fun h => nomatch h
    · intro s' k' began' serving'
      cases began.symm.trans began'
      cases serving.symm.trans serving'
      exact ⟨concludes.ended, winner, decided, result⟩

/-- After a call has gone on, the server holds a task if and only if it is open. -/
lemma resumes_held (fit : v.Fits id visits) (waits : ¬v.IsOver)
    (held : d.world.held id ≠ none ↔ IsOpen (visits ++ [v]))
    (resumes : v.Resumes id d.world rest w) :
    w.held id ≠ none ↔
      IsOpen (visits ++ [{ v with rest := rest, before := d.world, after := w }]) := by
  cases resumes with
  | refused use busy =>
    cases (free_of_launch held use waits (fit.waits use waits)).symm.trans busy
  | spawned use kind spawns =>
    rw [spawns.held]
    exact ⟨fun _ => isOpen_concat.2 (.inl rfl), fun _ h => nomatch h⟩
  | stops use began serving stops =>
    rw [stops.concludes.held, free_of_shutdown held use waits]
    exact ⟨fun h => absurd rfl h, fun opened => absurd opened (not_isOpen_concat use nofun)⟩

/-- After a call has gone on, the ledger is right. -/
lemma resumes_ledger (fit : v.Fits id visits) (waits : ¬v.IsOver)
    (held : d.world.held id ≠ none ↔ IsOpen (visits ++ [v]))
    (ledger : Ledger (visits.filterMap (Visit.spawned? id))
      (visits.filterMap (Visit.stopped? id) ++ (v.stopped? id).toList) (d.world.held id)
      d.world.tasks.length)
    (resumes : v.Resumes id d.world rest w) :
    Ledger
      (visits.filterMap (Visit.spawned? id) ++
        (Visit.spawned? id { v with rest := rest, before := d.world, after := w }).toList)
      (visits.filterMap (Visit.stopped? id) ++ (v.stopped? id).toList) (w.held id)
      w.tasks.length := by
  cases resumes with
  | refused use busy =>
    cases (free_of_launch held use waits (fit.waits use waits)).symm.trans busy
  | @spawned a k w use kind spawns =>
    have spawned : Visit.spawned? id { v with
        rest := .done (.launched (.ok ())), before := d.world, after := w } = some k :=
      spawns.held
    rw [spawns.idle] at ledger
    rw [spawned, spawns.held, spawns.tasks, spawns.number, Option.toList_some, List.length_append,
      List.length_singleton]
    exact ledger.spawn
  | stops use began serving stops =>
    rw [stops.concludes.held, stops.concludes.length]
    exact (List.append_nil _).symm ▸ ledger

end

/-- What goes on at a desk at which nobody else waits, fits. -/
lemma Succeeds.resumes {i : Nat} {v : Visit κ υ} {rest : Flow κ υ Answer} {w : World κ υ}
    (here : d.Succeeds id) (there : d.visits[i]? = some v) (waits : ¬v.IsOver)
    (resumes : v.Resumes id d.world rest w) (sound : (d.set i v rest w).Sound id) :
    (d.set i v rest w).Succeeds id := by
  -- the visit that goes on is the last one of the list
  obtain ⟨visits, split, rfl, ended⟩ := here.latest_cases there waits
  have earlier : ∀ (j : Nat) (u : Visit κ υ), visits[j]? = some u → u.Fits id (visits.take j) := by
    intro j u before
    have inside : j < visits.length := (List.getElem?_eq_some_iff.1 before).1
    have fits := here.fits j u
    rw [split, List.getElem?_append_left inside,
      List.take_append_of_le_length (Nat.le_of_lt inside)] at fits
    exact fits before
  have fit : v.Fits id visits := by
    have fit := here.fits visits.length v there
    rwa [split, List.take_left] at fit
  have held : d.world.held id ≠ none ↔ IsOpen (visits ++ [v]) := by
    rw [← split]
    exact here.held
  have ledger := here.ledger
  rw [split, filterMap_snoc, filterMap_snoc, spawned?_of_waits waits, Option.toList_none,
    List.append_nil] at ledger
  rw [set_concat split] at sound ⊢
  exact .concat sound ended earlier (resumes_fits fit waits held resumes)
    (resumes_held fit waits held resumes) (resumes_ledger fit waits held ledger resumes)

/-- A step at a desk, where nobody comes while another one waits, keeps all of this. -/
theorem Succeeds.step (here : d.Succeeds id) (step : Step id IsIdle d d') : d'.Succeeds id := by
  have sound : d'.Sound id := here.sound.step step
  cases here.sound.moves step with
  | begins idle begins => exact here.begins idle begins sound
  | resumes there waits resumes => exact here.resumes there waits resumes sound
  | besides besides =>
    -- the visits stay as they are, and so does the task that the server holds
    obtain ⟨news, minds⟩ := besides.minds
    refine ⟨sound, here.latest, here.fits, ?_, ?_⟩
    · rw [minds.held]
      exact here.held
    · rw [minds.held]
      exact here.ledger.mono minds.length

/-- By induction on the steps, calls that do not overlap succeed one another. -/
theorem Succeeds.reaches (here : d.Succeeds id) (reaches : Reaches id IsIdle d d') :
    d'.Succeeds id := by
  induction reaches with
  | refl => exact here
  | tail _ step ih => exact ih.step step

/-! ## Calls in succession -/

/-- A visit that waits goes on at its deadline, if not before, and comes to its end. -/
lemma Succeeds.goes_on {i : Nat} {v : Visit κ υ} (here : d.Succeeds id)
    (there : d.visits[i]? = some v) (waits : ¬v.IsOver) :
    ∃ trigger next, v.rest = .wait trigger next ∧
      (v.deadline id ≤ d.world.now → trigger.ready d.world = true) ∧
      (trigger.ready d.world = true → (d.resume i v (next d.world)).IsIdle) := by
  have idle {trigger next} (rest : v.rest = .wait trigger next)
      (ready : trigger.ready d.world = true) : (d.resume i v (next d.world)).IsIdle := by
    obtain ⟨rest, w, polls, resumes⟩ := here.sound.resumes there rest ready
    obtain ⟨visits, split, rfl, ended⟩ := here.latest_cases there waits
    rw [resume, polls]
    dsimp only
    rw [set_concat split]
    intro u member
    rcases List.mem_append.1 member with old | new
    · exact ended u old
    · cases List.mem_singleton.1 new
      exact resumes.ended
  cases here.sound.visits v (List.mem_of_getElem? there) with
  | ended ended => exact absurd ended waits
  | claims use kind claims => exact ⟨_, _, claims, fun _ => rfl, idle claims⟩
  | races use began serving races =>
    refine ⟨_, _, races, fun late => raceIn_isSome.2 (.inr (.inl ?_)), idle races⟩
    rw [Visit.deadline, use, began] at late
    exact late

/-- A task is stopped once. -/
lemma Succeeds.stops_once {i j : Nat} {u v : Visit κ υ} (here : d.Succeeds id)
    (one : d.visits[i]? = some v) (stops : v.stopped? id = some k)
    (other : d.visits[j]? = some u) (stops' : u.stopped? id = some k) : j = i := by
  have sorted := here.ledger.sorted
  rw [here.ledger.balance, List.pairwise_append] at sorted
  have sorted := List.pairwise_iff_getElem.1 (List.pairwise_filterMap.1 sorted.1)
  obtain ⟨inside, rfl⟩ := List.getElem?_eq_some_iff.1 one
  obtain ⟨inside', rfl⟩ := List.getElem?_eq_some_iff.1 other
  rcases Nat.lt_trichotomy j i with before | same | after
  · exact absurd (sorted j i inside' inside before k stops' k stops) (Nat.lt_irrefl k)
  · exact same
  · exact absurd (sorted i j inside inside' after k stops k stops') (Nat.lt_irrefl k)

/-- Calls of a server in succession. Each one fits to those before it (`Visit.Fits`) and comes to
its end. An idle server without a task has no address. The tasks that were spawned are different
ones, and all of them but the one that is held were stopped, each by one shutdown, which finds what
the task has reported before. -/
theorem succession {d₀ d : Desk κ υ} (fresh : d₀.IsFresh id) (run : Reaches id IsIdle d₀ d) :
    (∀ (i : Nat) (v : Visit κ υ), d.visits[i]? = some v → v.Fits id (d.visits.take i)) ∧
    (∀ (i : Nat) (v : Visit κ υ), d.visits[i]? = some v → ¬v.IsOver →
      ∃ trigger next, v.rest = .wait trigger next ∧
        (v.deadline id ≤ d.world.now → trigger.ready d.world = true) ∧
        (trigger.ready d.world = true → (d.resume i v (next d.world)).IsIdle)) ∧
    (d.world.held id ≠ none ↔ IsOpen d.visits) ∧
    (d.IsIdle → d.world.held id = none → d.world.addressOf id = none) ∧
    (d.visits.filterMap (Visit.spawned? id)).Nodup ∧
    d.visits.filterMap (Visit.spawned? id) =
      d.visits.filterMap (Visit.stopped? id) ++ (d.world.held id).toList ∧
    ∀ (i : Nat) (v : Visit κ υ) (k : Nat) (e : ServerError), d.visits[i]? = some v → v.IsOver →
      v.stopped? id = some k →
      (v.before.reported k = some e ↔ ReportsBefore id IsIdle d₀ d i k e) := by
  have here : d.Succeeds id := fresh.succeeds.reaches run
  refine ⟨here.fits, fun i v there waits => here.goes_on there waits, here.held,
    here.sound.address_of_idle, ?_, here.ledger.balance, ?_⟩
  · exact here.ledger.sorted.imp Nat.ne_of_lt
  · intro i v k e there ended stops
    refine fresh.sound.reported_iff fresh.visits (fun _ => fresh.not_owns) run there ended stops ?_
    exact fun j u there' stops' => here.stops_once there stops there' stops'

/-- A server that may not bind its port. -/
def unprivileged : Desk Empty Unit where
  world := {
    servers := [{ kind := .http, name := "server", address := "127.0.0.1:80" }]
    host := Net.isolatedHost
    user := () }

/-- The task of the server has failed to bind. -/
def unbound : Desk Empty Unit :=
  let d := unprivileged.begin 0 .launch
  { d with world := d.world.taskTurn 0 }

/-- The server is launched in vain, shut down, and launched again. -/
def retried : Desk Empty Unit :=
  ((unbound.begin 0 .launch).begin 0 (.shutdown ⟨0⟩)).begin 0 .launch

/-- The second launch is refused, the shutdown reports that the task could not bind, and the third
launch is accepted. -/
theorem succession_unbound :
    ∃ (u v : Visit Empty Unit) (e : ServerError), Reaches 0 IsIdle unprivileged retried ∧
      bindAddress "127.0.0.1:80" Net.isolatedHost = .error e ∧
      retried.visits[1]? = some u ∧ u.rest = .done (.launched (.error .alreadyStarted)) ∧
      u.after = u.began ∧
      retried.visits[2]? = some v ∧ v.rest = .done (.shutDown (.error ⟨e, []⟩)) ∧
      ReportsBefore 0 IsIdle unprivileged retried 2 0 e ∧ IsOpen retried.visits := by
  have fresh : unprivileged.IsFresh 0 := by
    refine ⟨rfl, ⟨_, rfl, rfl, rfl⟩, ?_⟩
    intro t member
    cases member
  have run : Reaches 0 IsIdle unprivileged retried := by
    refine .tail (.tail (.tail (.tail (.tail .refl (.begins .launch ?_)) (.besides (.turn 0)))
      (.begins .launch ?_)) (.begins (.shutdown ⟨0⟩) ?_)) (.begins .launch ?_)
    all_goals decide +kernel
  obtain ⟨fits, -, held, -, -, -, reports⟩ := succession fresh run
  have refused := (fits 1 _ rfl).launches rfl _ rfl
  refine ⟨_, _, _, run, rfl, rfl, rfl, refused.unchanged nofun, rfl, rfl, ?_, held.1 nofun⟩
  exact (reports 2 _ 0 _ rfl ⟨_, rfl⟩ rfl).1 rfl

end Desk

end Supervision.Server
