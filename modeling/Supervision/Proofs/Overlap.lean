import Supervision.Proofs.Desk
import Supervision.Proofs.Shutdown

/-!
# Overlapping calls of a server

A launch is accepted while a shutdown still waits for the task that it has taken. The shutdown takes
the address of the server away at its end, also when the address is that of the new task by then.
`Desk.addressOf_of_idle` says which address a server has once all calls have come to their end: none
without a task, and with a task the address of this task if and only if no shutdown was waiting when
the task bound it. A launch during a shutdown leaves its task without an address
(`relaunched_hidden`).
-/

namespace Supervision.Server
open Net World

variable {κ υ : Type} {id k : Nat} {a : SocketAddress}

/-- A task of the server begins to listen on an address. -/
structure Binds (id k : Nat) (a : SocketAddress) (w w' : World κ υ) : Prop where
  owns : w'.Owns id k
  before : w.listening k = none
  after : w'.listening k = some a

namespace Desk

variable {may : Desk κ υ → Prop} {d d' : Desk κ υ}

/-- What a step does to a server that holds the task `k` after it: it has held the task before, and
its address remains, or is taken away by a shutdown, or a task binds it. -/
lemma Sound.held_cases (sound : d.Sound id) (step : Step id may d d') (owns : d.world.Owns id k)
    (held : d'.world.held id = some k) :
    d.world.held id = some k ∧ (d'.world.Pending id k → d.world.Pending id k) ∧
      (d'.world.addressOf id = d.world.addressOf id ∧
          (∀ j, d'.Stopping id j ↔ d.Stopping id j) ∨
        (∃ j, d.Stopping id j) ∧ d'.world.addressOf id = none ∨
        ∃ j, d.world.Pending id j ∧ ∀ j, d'.Stopping id j ↔ d.Stopping id j) := by
  -- what needs an idle server, or makes a new task, did not happen
  have busy (held : d.world.held id = some k) {P : Prop} (idle : d.world.held id = none) : P := by
    rw [held] at idle
    cases idle
  have fresh {j : Nat} {b} {w : World κ υ} (spawns : Spawns id j b d.world w) {P : Prop}
      (held : w.held id = some k) : P := by
    obtain ⟨t, here, -⟩ := owns
    rw [spawns.held] at held
    cases held
    rw [spawns.number, List.getElem?_eq_none (Nat.le_refl _)] at here
    cases here
  cases sound.moves step with
  | begins _ begins =>
    cases begins with
    | refused => exact ⟨held, fun h => h, .inl ⟨rfl, fun j => stopping_add_done⟩⟩
    | spawned kind spawns => exact fresh spawns held
    | failed idle => exact busy held idle
    | claims idle => exact busy held idle
    | nothing idle => exact busy held idle
    | takes here serving takes =>
      cases takes.held.symm.trans held
    | stops here serving takes stops =>
      cases (stops.concludes.held.trans takes.held).symm.trans held
  | @resumes i v rest w here waits resumes =>
    cases resumes with
    | refused use =>
      exact ⟨held, fun h => h, .inl ⟨rfl, fun j => stopping_set_launch here use⟩⟩
    | spawned use kind spawns => exact fresh spawns held
    | @stops ctx s j result w use began serving stops =>
      have concludes := stops.concludes
      refine ⟨concludes.held.symm.trans held, concludes.tends.pending_of, ?_⟩
      refine .inr (.inl ⟨⟨j, v, List.mem_of_getElem? here, waits, ?_⟩, concludes.address⟩)
      exact Visit.stopped?_eq use began serving
  | besides besides =>
    obtain ⟨news, minds⟩ := besides.minds
    refine ⟨minds.held.symm.trans held, minds.tends.pending_of, ?_⟩
    cases news with
    | none => exact .inl ⟨minds.address, fun j => Iff.rfl⟩
    | some new => exact .inr (.inr ⟨new.1, (minds.pending new.1 new.2 rfl).1, fun j => Iff.rfl⟩)

/-- A task that the server holds has been held since it exists. -/
lemma Sound.held_of_reaches (sound : d.Sound id) (owns : d.world.Owns id k)
    (reaches : Reaches id may d d') (held : d'.world.held id = some k) :
    d.world.held id = some k := by
  induction reaches with
  | refl => exact held
  | tail before step ih =>
    exact ih ((sound.reaches before).held_cases step (sound.owns_reaches before owns) held).1

/-- If nobody waits to stop anything, the task of the server keeps its address. -/
lemma Sound.keeps_address (sound : d.Sound id) (owns : d.world.Owns id k)
    (bound : ¬d.world.Pending id k) (address : d.world.addressOf id = some a)
    (nobody : ∀ j, ¬d.Stopping id j) (reaches : Reaches id may d d')
    (held : d'.world.held id = some k) :
    ¬d'.world.Pending id k ∧ d'.world.addressOf id = some a ∧ ∀ j, ¬d'.Stopping id j := by
  induction reaches with
  | refl => exact ⟨bound, address, nobody⟩
  | tail before step ih =>
    have here := sound.reaches before
    obtain ⟨holds, pending, cases⟩ := here.held_cases step (sound.owns_reaches before owns) held
    obtain ⟨bound, address, nobody⟩ := ih holds
    refine ⟨fun h => bound (pending h), ?_⟩
    obtain ⟨same, stopping⟩ | ⟨⟨j, stops⟩, -⟩ | ⟨j, binds, -⟩ := cases
    · exact ⟨same.trans address, fun j stops => nobody j ((stopping j).1 stops)⟩
    · exact absurd stops (nobody j)
    · -- another task that binds would have to be one that is being stopped
      obtain other | stops := here.custody.pending binds
      · cases holds.symm.trans other
        exact absurd binds bound
      · exact absurd stops (nobody j)

/-- If somebody waits to stop another task, the address goes with this task. -/
lemma Sound.loses_address (sound : d.Sound id) (owns : d.world.Owns id k)
    (bound : ¬d.world.Pending id k) (somebody : ∃ j, d.Stopping id j)
    (reaches : Reaches id may d d') (held : d'.world.held id = some k) :
    ¬d'.world.Pending id k ∧ ((∃ j, d'.Stopping id j) ∨ d'.world.addressOf id = none) := by
  induction reaches with
  | refl => exact ⟨bound, .inl somebody⟩
  | tail before step ih =>
    have here := sound.reaches before
    obtain ⟨holds, pending, cases⟩ := here.held_cases step (sound.owns_reaches before owns) held
    obtain ⟨bound, going⟩ := ih holds
    refine ⟨fun h => bound (pending h), ?_⟩
    obtain ⟨same, stopping⟩ | ⟨-, gone⟩ | ⟨j, binds, stopping⟩ := cases
    · rw [same]
      obtain ⟨j, stops⟩ | gone := going
      · exact .inl ⟨j, (stopping j).2 stops⟩
      · exact .inr gone
    · exact .inr gone
    · obtain other | stops := here.custody.pending binds
      · cases holds.symm.trans other
        exact absurd binds bound
      · exact .inl ⟨j, (stopping j).2 stops⟩

/-- A task that begins to listen gives its address to the server that holds it. -/
lemma Sound.binds (sound : d.Sound id) (step : Step id may d d')
    (held : d'.world.held id = some k) (binds : Binds id k a d.world d'.world) :
    d'.world.addressOf id = some a ∧ ¬d'.world.Pending id k := by
  obtain ⟨owns, before, after⟩ := binds
  have silent {P : Prop} (same : d'.world.listening k = d.world.listening k) : P := by
    cases (same.symm.trans after).symm.trans before
  cases sound.moves step with
  | begins _ begins =>
    cases begins with
    | refused => exact silent rfl
    | spawned kind spawns =>
      obtain ⟨-, listens⟩ := spawns.listens before after
      cases listens
    | failed => exact silent rfl
    | claims => exact silent rfl
    | nothing => exact silent rfl
    | takes here serving takes => cases takes.held.symm.trans held
    | stops here serving takes stops =>
      cases (stops.concludes.held.trans takes.held).symm.trans held
  | resumes here waits resumes =>
    cases resumes with
    | refused => exact silent rfl
    | spawned use kind spawns =>
      obtain ⟨rfl, listens⟩ := spawns.listens before after
      refine ⟨spawns.address.trans listens, ?_⟩
      -- the task of a gRPC server has bound before it is spawned
      rintro ⟨http, -⟩
      cases (spawns.kind.trans kind).symm.trans http
    | stops use began serving stops => exact silent stops.concludes.listening
  | besides besides =>
    obtain ⟨news, minds⟩ := besides.minds
    obtain listens | rfl := minds.listens k a owns after
    · exact silent (after.trans listens.symm)
    · exact ⟨minds.address, (minds.pending k a rfl).2⟩

/-- When all calls have come to their end, a server without a task has no address, and every other
task of it is over. With a task that has bound, it has the address of this task if and only if
nobody was waiting to stop another one when the task bound; otherwise it has none. -/
theorem addressOf_of_idle {d₀ d : Desk κ υ} (fresh : d₀.IsFresh id) (run : Reaches id may d₀ d)
    (idle : d.IsIdle) :
    (d.world.held id = none → d.world.addressOf id = none) ∧
    (∀ k, d.world.Owns id k → d.world.held id ≠ some k → IsOver k d.world) ∧
    ∀ k a x y, Reaches id may d₀ x → Step id may x y → Reaches id may y d →
      d.world.held id = some k → Binds id k a x.world y.world →
      (d.world.addressOf id = some a ↔ ∀ j, ¬y.Stopping id j) ∧
      ((∃ j, y.Stopping id j) → d.world.addressOf id = none) := by
  have sound : d.Sound id := fresh.sound.reaches run
  have nobody (j : Nat) : ¬d.Stopping id j := by
    rintro ⟨v, member, waits, -⟩
    exact waits (idle v member)
  refine ⟨fun none => ?_, fun k owns other => ?_, ?_⟩
  · cases address : d.world.addressOf id with
    | none => rfl
    | some a =>
      obtain ⟨k, held⟩ | ⟨k, stops⟩ := sound.custody.address a address
      · cases none.symm.trans held
      · exact absurd stops (nobody k)
  · obtain held | ended | stops := sound.custody.tasks k owns
    · exact absurd held other
    · exact ended
    · exact absurd stops (nobody k)
  · intro k a x y first step rest held binds
    have soundx : x.Sound id := fresh.sound.reaches first
    have soundy : y.Sound id := soundx.step step
    have owns := binds.owns
    obtain ⟨address, bound⟩ := soundx.binds step (soundy.held_of_reaches owns rest held) binds
    have gone (somebody : ∃ j, y.Stopping id j) : d.world.addressOf id = none := by
      obtain ⟨-, ⟨j, stops⟩ | gone⟩ := soundy.loses_address owns bound somebody rest held
      · exact absurd stops (nobody j)
      · exact gone
    refine ⟨⟨fun kept j stops => ?_, fun nobody => ?_⟩, gone⟩
    · cases (gone ⟨j, stops⟩).symm.trans kept
    · exact (soundy.keeps_address owns bound address nobody rest held).2.1

/-- A server that was never launched, on a machine of its own. -/
def unlaunched (kind : Kind) : Desk Empty Unit where
  world := {
    servers := [{ kind := kind, name := "server", address := "127.0.0.1:0" }]
    host := Net.isolatedHost
    user := () }

/-- A server that was never launched is fresh. -/
lemma isFresh_unlaunched (kind : Kind) : (unlaunched kind).IsFresh 0 := by
  refine ⟨rfl, ⟨_, rfl, rfl, rfl⟩, ?_⟩
  intro t member
  cases member

/-- A shutdown waits for the first task, while the second one is launched and binds. -/
def beforeBinding : Desk Empty Unit :=
  let d := (unlaunched .http).begin 0 .launch
  let d := { d with world := d.world.taskTurn 0 }
  let d := d.begin 0 (.shutdown ⟨0⟩)
  d.begin 0 .launch

def afterBinding : Desk Empty Unit :=
  { beforeBinding with world := beforeBinding.world.taskTurn 1 }

abbrev always : Desk κ υ → Prop := fun _ => True

/-- The second task loses its address to the shutdown of the first one. -/
theorem addressOf_of_idle_overlapped :
    ∃ d : Desk Empty Unit, Reaches 0 always (unlaunched .http) d ∧ d.IsIdle ∧
      d.world.held 0 = some 1 ∧ d.world.listening 1 = some (.v4 ⟨[127, 0, 0, 1]⟩ 32769) ∧
      d.world.addressOf 0 = none := by
  have first : Reaches 0 always (unlaunched .http) beforeBinding :=
    .tail (.tail (.tail (.tail .refl (.begins .launch trivial)) (.besides (.turn 0)))
      (.begins (.shutdown ⟨0⟩) trivial)) (.begins .launch trivial)
  have step : Step 0 always beforeBinding afterBinding := .besides (.turn 1)
  have binds : Binds 0 1 (.v4 ⟨[127, 0, 0, 1]⟩ 32769) beforeBinding.world afterBinding.world :=
    ⟨⟨_, rfl, rfl⟩, rfl, rfl⟩
  -- the first task ends, and its shutdown goes on
  let d : Desk Empty Unit := { afterBinding with world := afterBinding.world.taskTurn 0 }
  obtain ⟨v, trigger, next, here, waits, ready, ended, held, listens⟩ :
      ∃ v trigger next, d.visits[1]? = some v ∧ v.rest = .wait trigger next ∧
        trigger.ready d.world = true ∧ (d.resume 1 v (next d.world)).IsIdle ∧
        (d.resume 1 v (next d.world)).world.held 0 = some 1 ∧
        (d.resume 1 v (next d.world)).world.listening 1 =
          some (.v4 ⟨[127, 0, 0, 1]⟩ 32769) := by
    refine ⟨_, _, _, rfl, rfl, rfl, ?_, rfl, rfl⟩
    decide +kernel
  have rest : Reaches 0 always afterBinding (d.resume 1 v (next d.world)) :=
    .tail (.tail .refl (.besides (.turn 0))) (.resumes here waits ready)
  have run : Reaches 0 always (unlaunched .http) (d.resume 1 v (next d.world)) :=
    (Relation.ReflTransGen.tail first step).trans rest
  have address := (addressOf_of_idle (isFresh_unlaunched .http) run ended).2.2 1 _ _ _ first step
    rest held binds
  have somebody : afterBinding.Stopping 0 0 := by decide +kernel
  exact ⟨_, run, ended, held, listens, address.2 ⟨0, somebody⟩⟩

end Desk

/-! ## By the clock -/

/-- A server whose task does not end is launched while it is shut down. -/
def relaunched (kind : Kind) :
    Option (Except (Errors ServerError) Unit × Except ServerError Unit) × World Empty Unit :=
  World.clockwork.run 5001 (Activity.pair (shutdown 0 ⟨0⟩) (launch 0))
    ((Lifecycle.lingering 5000).changeServer 0 fun s => { s with kind := kind })

/-- Both calls have come to their end, the shutdown by force. The server holds the new task, which
listens, and has no address. -/
theorem relaunched_hidden :
    ((relaunched .http).1.map (fun r => (wasForced r.1, r.2.toBool)) = some (true, true) ∧
      (relaunched .http).2.held 0 = some 1 ∧
      (relaunched .http).2.listening 1 = some (.v4 ⟨[127, 0, 0, 1]⟩ 32768) ∧
      (relaunched .http).2.addressOf 0 = none) ∧
    ((relaunched .grpc).1.map (fun r => (wasForced r.1, r.2.toBool)) = some (true, true) ∧
      (relaunched .grpc).2.held 0 = some 1 ∧
      (relaunched .grpc).2.listening 1 = some (.v4 ⟨[127, 0, 0, 1]⟩ 32768) ∧
      (relaunched .grpc).2.addressOf 0 = none) := by
  refine ⟨⟨?_, ?_, ?_, ?_⟩, ?_, ?_, ?_, ?_⟩
  all_goals decide +kernel

end Supervision.Server
