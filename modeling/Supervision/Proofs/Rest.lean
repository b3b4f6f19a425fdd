import Supervision.Proofs.Background
import Supervision.Proofs.Servers

/-!
# The background at rest

Once the background has settled, it rests until its next alarm (`World.settle_rests`,
`World.Rests.later`). So the clock, which jumps from alarm to alarm, misses nothing: a wait ends in
the world in which it would end on a clock that goes through every instant
(`World.passTime_leftAlone`). What the owner of a task has asked of it is not for the background to
change (`World.orders_leftAlone`).
-/

namespace Supervision
open Server

variable {κ υ : Type}

/-! ## Orders -/

/-- What the owner of a serve task has asked of it. -/
structure Server.Orders where
  graceful : Bool
  forced : Bool
  aborted : Bool
deriving DecidableEq, Repr

namespace Server.ServeTask

def orders (t : ServeTask) : Orders :=
  ⟨t.graceful, t.forced, t.aborted⟩

/-- A new exchange changes no order. -/
lemma orders_addExchange {t : ServeTask} {x} : (t.addExchange x).orders = t.orders := by
  unfold addExchange
  split <;> rfl

end Server.ServeTask

namespace World

def orders (w : World κ υ) (id : Nat) : Option Orders :=
  (w.tasks[id]?).map ServeTask.orders

/-- Tasks go on from one world to another, at the same instant and under the same orders. -/
structure SameOrders (w w' : World κ υ) : Prop where
  now : w'.now = w.now
  incidents : w'.incidents = w.incidents
  servers : ∀ id : Nat, w'.servers[id]? = none ↔ w.servers[id]? = none
  orders : ∀ id, w'.orders id = w.orders id

/-- Tasks take turns, and the control of the service remains as it is. -/
structure Turns (w w' : World κ υ) : Prop where
  same : SameOrders w w'
  control : SameControl w w'

namespace SameOrders

variable {w w' w'' : World κ υ}

/-- A world is under the same orders as itself. -/
lemma refl : SameOrders w w :=
  ⟨rfl, rfl, fun _ => Iff.rfl, fun _ => rfl⟩

/-- Tasks go on under the same orders from one world to the next. -/
lemma trans (first : SameOrders w w') (rest : SameOrders w' w'') : SameOrders w w'' where
  now := rest.now.trans first.now
  incidents := rest.incidents.trans first.incidents
  servers id := (rest.servers id).trans (first.servers id)
  orders id := (rest.orders id).trans (first.orders id)

/-- What is the same from one world to another is the same back again. -/
lemma symm (same : SameOrders w w') : SameOrders w' w where
  now := same.now.symm
  incidents := same.incidents.symm
  servers id := (same.servers id).symm
  orders id := (same.orders id).symm

/-- Orders are about the instant, the incidents, the servers and the tasks. -/
lemma of_eq (now : w'.now = w.now) (incidents : w'.incidents = w.incidents)
    (servers : w'.servers = w.servers) (tasks : w'.tasks = w.tasks) : SameOrders w w' where
  now := now
  incidents := incidents
  servers id := by rw [servers]
  orders id := by rw [World.orders, World.orders, tasks]

/-- Steps that change no order change none, one after the other. -/
lemma foldl {γ : Type} {f : World κ υ → γ → World κ υ} {xs : List γ}
    (same : ∀ w x, SameOrders w (f w x)) : SameOrders w (xs.foldl f w) := by
  induction xs generalizing w with
  | nil => exact refl
  | cons x rest ih => exact trans (same w x) ih

end SameOrders

namespace Turns

variable {w w' w'' : World κ υ}

/-- No turn may be taken at all. -/
lemma refl : Turns w w :=
  ⟨.refl, .refl⟩

/-- Turns after turns are turns. -/
lemma trans (first : Turns w w') (rest : Turns w' w'') : Turns w w'' :=
  ⟨first.same.trans rest.same, first.control.trans rest.control⟩

/-- What changes neither the tasks nor the control of the service takes turns. -/
lemma of_eq (now : w'.now = w.now) (incidents : w'.incidents = w.incidents)
    (servers : w'.servers = w.servers) (tasks : w'.tasks = w.tasks) (control : SameControl w w') :
    Turns w w' :=
  ⟨.of_eq now incidents servers tasks, control⟩

/-- To change a task without its orders is a turn. -/
lemma changeTask {i f} (keeps : ∀ t : ServeTask, (f t).orders = t.orders) :
    Turns w (w.changeTask i f) := by
  refine ⟨⟨rfl, rfl, fun _ => Iff.rfl, fun id => ?_⟩, ⟨rfl, rfl, rfl⟩⟩
  unfold World.orders
  by_cases same : i = id
  · subst same
    rw [tasks_changeTask, Option.map_map]
    apply congrArg (Option.map · _)
    funext t
    exact keeps t
  · rw [tasks_changeTask_ne same]

/-- To change a server is one. -/
lemma changeServer {i f} : Turns w (w.changeServer i f) := by
  refine ⟨⟨rfl, rfl, fun id => ?_, fun _ => rfl⟩, ⟨rfl, rfl, rfl⟩⟩
  by_cases same : i = id
  · subst same
    rw [servers_changeServer, Option.map_eq_none_iff]
  · rw [servers_changeServer_ne same]

/-- To close a listener is one. -/
lemma closeListener {i} : Turns w (w.closeListener i) := by
  unfold World.closeListener
  split
  · exact refl
  · refine trans ?_ (changeTask fun _ => rfl)
    exact of_eq rfl rfl rfl rfl ⟨rfl, rfl, rfl⟩

/-- The end of a task is one. -/
lemma endTask {i panicked} : Turns w (w.endTask i panicked) :=
  trans closeListener (changeTask fun _ => rfl)

/-- The first turn of a task is one. -/
lemma firstTurn {i t} : Turns w (w.firstTurn i t) := by
  unfold World.firstTurn
  split
  · exact refl
  · split
    · exact changeTask fun _ => rfl
    · split
      · dsimp only
        refine trans (trans ?_ (changeTask fun t => ?_)) endTask
        · exact of_eq rfl rfl rfl rfl ⟨rfl, rfl, rfl⟩
        · rfl
      · dsimp only
        refine trans (trans ?_ changeServer) (changeTask fun t => ?_)
        · exact of_eq rfl rfl rfl rfl ⟨rfl, rfl, rfl⟩
        · rfl

/-- The turn of a task that serves is one. -/
lemma servingTurn {i} : Turns w (w.servingTurn i) := by
  unfold World.servingTurn
  split
  · exact refl
  · split
    · exact refl
    · split
      · exact endTask
      · exact closeListener

/-- The turn of any task is one. -/
lemma taskTurn {i} : Turns w (w.taskTurn i) := by
  unfold World.taskTurn
  dsimp only
  have settles : Turns w (w.changeTask i (ServeTask.settleExchanges w.now)) :=
    changeTask fun _ => rfl
  refine settles.trans ?_
  split
  · exact refl
  · split
    · exact refl
    · unfold World.liveTurn
      split
      · exact endTask
      · split
        · exact trans firstTurn servingTurn
        · exact servingTurn

/-- To take in a report is one. -/
lemma takeReport {i e} : Turns w (w.takeReport i e) := by
  unfold World.takeReport
  dsimp only
  have reports : Turns w (w.changeTask i fun t => { t with slot := (t.slot.report e).2 }) :=
    changeTask fun _ => rfl
  split
  · exact reports.trans (of_eq rfl rfl rfl rfl ⟨rfl, rfl, rfl⟩)
  · exact reports

/-- What happens to a task that has not ended is one, if it is one in any case. -/
lemma ifLive {i f} (same : Turns w (f w)) : Turns w (w.ifLive i f) := by
  unfold World.ifLive
  split
  · exact same
  · exact refl

end Turns

/-- No incident changes the orders of a task. -/
lemma SameOrders.meet {w : World κ υ} {incident} : SameOrders w (w.meet incident) := by
  cases incident with
  | cancellation => exact of_eq rfl rfl rfl rfl
  | signal => exact of_eq rfl rfl rfl rfl
  | exchange =>
    exact (Turns.ifLive (.changeTask fun _ => ServeTask.orders_addExchange)).same
  | report => exact (Turns.ifLive .takeReport).same
  | ending => exact (Turns.ifLive .endTask).same

end World

/-! ## Rest -/

/-- A task is past the first part of its turn in a world. One without a server has no first turn. -/
structure Server.ServeTask.HasTurned (t : ServeTask) (w : World κ υ) : Prop where
  exchanges : ∀ x ∈ t.exchanges, x.settle w.now t.forced = x
  live : t.hasEnded = false → t.aborted = false
  hosted : t.progress = .spawned → w.servers[t.server]? = none

/-- A task has nothing to do in a world until one of its exchanges is answered. -/
structure Server.ServeTask.Rests (t : ServeTask) (w : World κ υ) : Prop extends t.HasTurned w where
  drains : t.hasEnded = false → t.graceful = true → t.isDrained = false ∧ t.listening = none

/-- The background has nothing to do at this instant. -/
structure World.Rests (w : World κ υ) : Prop where
  incidents : ∀ i ∈ w.incidents, w.now < i.1
  tasks : ∀ (id : Nat) (t : ServeTask), w.tasks[id]? = some t → t.Rests w

section
variable {w w' : World κ υ} {i j : Nat} {t t' : ServeTask}

/-- That a task has turned depends on the instant and its server alone. -/
lemma Server.ServeTask.HasTurned.of_same (turned : t.HasTurned w) (same : w.SameOrders w') :
    t.HasTurned w' where
  exchanges := same.now ▸ turned.exchanges
  live := turned.live
  hosted spawned := (same.servers _).2 (turned.hosted spawned)

/-- That a task rests depends on the instant and its server alone. -/
lemma Server.ServeTask.Rests.of_same (rests : t.Rests w) (same : w.SameOrders w') : t.Rests w' where
  toHasTurned := rests.toHasTurned.of_same same
  drains := rests.drains

/-- An exchange that is closed stays as it is. -/
lemma Server.Exchange.settle_closed {now : Nat} {forced : Bool} {x : Exchange}
    (closed : x.isOpen = false) : x.settle now forced = x := by
  simp [settle, closed]

/-- An exchange closes, or nothing happens to it. -/
lemma Server.Exchange.settle_cases (now : Nat) (forced : Bool) (x : Exchange) :
    (x.settle now forced).isOpen = false ∨ x.settle now forced = x := by
  unfold settle
  split
  · exact .inr rfl
  · split
    · exact .inl rfl
    · split
      · exact .inl rfl
      · exact .inr rfl

/-- To settle an exchange twice is to settle it once. -/
lemma Server.Exchange.settle_settle {now : Nat} {forced : Bool} {x : Exchange} :
    (x.settle now forced).settle now forced = x.settle now forced := by
  obtain closed | same := settle_cases now forced x
  · exact settle_closed closed
  · rw [same, same]

/-- A task whose exchanges have settled is as settled as it will be. -/
lemma Server.ServeTask.settleExchanges_eq {now : Nat}
    (settled : ∀ x ∈ t.exchanges, x.settle now t.forced = x) : t.settleExchanges now = t := by
  have same : t.exchanges.map (Exchange.settle now t.forced) = t.exchanges.map id :=
    List.map_congr_left settled
  rw [settleExchanges, same, List.map_id]

/-- Once they are settled, the exchanges of a task are settled. -/
lemma Server.ServeTask.settled_settleExchanges {now : Nat} :
    ∀ x ∈ (t.settleExchanges now).exchanges, x.settle now t.forced = x := by
  intro x member
  obtain ⟨y, -, rfl⟩ := List.mem_map.1 member
  exact Exchange.settle_settle

/-- A task that has ended with settled exchanges is past the first part of its turn. -/
lemma Server.ServeTask.hasTurned_of_ended
    (exchanges : ∀ x ∈ t.exchanges, x.settle w.now t.forced = x)
    (ended : t.hasEnded = true) : t.HasTurned w where
  exchanges := exchanges
  live live := by simp [ended] at live
  hosted spawned := by simp [hasEnded, spawned] at ended

/-- A task that has ended and turned rests. -/
lemma Server.ServeTask.HasTurned.rests_of_ended (turned : t.HasTurned w)
    (ended : t.hasEnded = true) : t.Rests w where
  toHasTurned := turned
  drains live := by simp [ended] at live

namespace World

/-- A closed listener is gone from its task. -/
lemma tasks_closeListener :
    (w.closeListener i).tasks[i]? = (w.tasks[i]?).map fun t => { t with listening := none } := by
  unfold closeListener
  split
  next closed =>
    cases here : w.tasks[i]? with
    | none => rfl
    | some t =>
      rw [here, Option.bind_some] at closed
      rw [Option.map_some, ← closed]
  next => exact tasks_changeTask

/-- The end of a task leaves it ended, and past the first part of its turn. -/
lemma hasTurned_endTask (panicked : Bool) (here : w.tasks[i]? = some t)
    (exchanges : ∀ x ∈ t.exchanges, x.settle w.now t.forced = x) :
    ∃ t', (w.endTask i panicked).tasks[i]? = some t' ∧ t'.HasTurned w ∧ t'.hasEnded = true := by
  have after : (w.endTask i panicked).tasks[i]? = some
      { t with progress := .ended panicked, listening := none, slot := t.slot.drop.2 } := by
    rw [endTask, tasks_changeTask, tasks_closeListener, here, Option.map_some, Option.map_some]
  exact ⟨_, after, ServeTask.hasTurned_of_ended exchanges rfl, rfl⟩

/-- The first turn of a task leaves nothing of it for later. -/
lemma hasTurned_firstTurn (here : w.tasks[i]? = some t)
    (exchanges : ∀ x ∈ t.exchanges, x.settle w.now t.forced = x) (live : t.aborted = false) :
    ∃ t', (w.firstTurn i t).tasks[i]? = some t' ∧ t'.HasTurned w := by
  unfold firstTurn
  split
  next missing => exact ⟨t, here, exchanges, fun _ => live, fun _ => missing⟩
  next server _ =>
    split
    · refine ⟨{ t with progress := .serving }, ?_, exchanges, fun _ => live, fun h => nomatch h⟩
      rw [tasks_changeTask, here, Option.map_some]
    · split
      next e _ =>
        dsimp only
        have reported : ((w.log (.bindFailed server.name e)).changeTask i fun t =>
            { t with slot := (t.slot.report e).2 }).tasks[i]? =
            some { t with slot := (t.slot.report e).2 } := by
          rw [tasks_changeTask, log, here, Option.map_some]
        obtain ⟨t', here', turned, -⟩ := hasTurned_endTask false reported exchanges
        exact ⟨t', here', ⟨turned.exchanges, turned.live, turned.hosted⟩⟩
      next address host _ =>
        dsimp only
        refine ⟨{ t with progress := .serving, listening := some address }, ?_, exchanges,
          fun _ => live, fun h => nomatch h⟩
        rw [tasks_changeTask, changeServer, here, Option.map_some]

/-- After its turn, a task that serves rests. -/
lemma rests_servingTurn (here : w.tasks[i]? = some t) (turned : t.HasTurned w) :
    ∃ t', (w.servingTurn i).tasks[i]? = some t' ∧ t'.Rests w := by
  unfold servingTurn
  rw [here]
  dsimp only
  split
  next asked =>
    refine ⟨t, here, turned, fun _ graceful => ?_⟩
    simp [graceful] at asked
  next =>
    split
    next =>
      obtain ⟨t', here', turned', ended⟩ :=
        hasTurned_endTask false here turned.exchanges
      exact ⟨t', here', turned'.rests_of_ended ended⟩
    next undrained =>
      refine ⟨{ t with listening := none }, ?_, ⟨turned.exchanges, turned.live, turned.hosted⟩,
        fun _ _ => ⟨Bool.eq_false_iff.2 undrained, rfl⟩⟩
      rw [tasks_closeListener, here, Option.map_some]

/-- A task rests after its turn. -/
lemma rests_taskTurn (here : w.tasks[i]? = some t) :
    ∃ t', (w.taskTurn i).tasks[i]? = some t' ∧ t'.Rests w := by
  have turns : Turns w (w.changeTask i (ServeTask.settleExchanges w.now)) :=
    .changeTask fun _ => rfl
  have settles := turns.same
  have settled : (w.changeTask i (ServeTask.settleExchanges w.now)).tasks[i]? =
      some (t.settleExchanges w.now) := by
    rw [tasks_changeTask, here, Option.map_some]
  have exchanges : ∀ x ∈ (t.settleExchanges w.now).exchanges, x.settle w.now t.forced = x :=
    ServeTask.settled_settleExchanges
  unfold taskTurn
  -- a turn has four branches: ended before, aborted, the first one, or a later one
  dsimp only
  rw [settled]
  dsimp only
  split
  next ended =>
    exact ⟨_, settled, (ServeTask.hasTurned_of_ended exchanges ended).rests_of_ended ended⟩
  next =>
    unfold liveTurn
    split
    next =>
      obtain ⟨t', here', turned, ended⟩ := hasTurned_endTask false settled exchanges
      exact ⟨t', here', (turned.rests_of_ended ended).of_same settles.symm⟩
    next live =>
      have live : t.aborted = false := Bool.eq_false_iff.2 live
      split
      next =>
        have first : SameOrders _ (firstTurn i (t.settleExchanges w.now)
          (w.changeTask i (ServeTask.settleExchanges w.now))) := Turns.firstTurn.same
        obtain ⟨t', here', turned⟩ := hasTurned_firstTurn settled exchanges live
        obtain ⟨t'', here'', rests⟩ := rests_servingTurn here' (turned.of_same first)
        exact ⟨t'', here'', rests.of_same (settles.trans first).symm⟩
      next started =>
        have turned : (t.settleExchanges w.now).HasTurned w :=
          ⟨exchanges, fun _ => live, fun spawned => absurd spawned started⟩
        obtain ⟨t', here', rests⟩ := rests_servingTurn settled (turned.of_same settles)
        exact ⟨t', here', rests.of_same settles.symm⟩

/-- To close a listener leaves the other tasks as they are. -/
lemma tasks_closeListener_ne (other : i ≠ j) : (w.closeListener i).tasks[j]? = w.tasks[j]? := by
  unfold closeListener
  split
  · rfl
  · exact tasks_changeTask_ne other

/-- The end of a task leaves the other tasks as they are. -/
lemma tasks_endTask_ne {panicked} (other : i ≠ j) :
    (w.endTask i panicked).tasks[j]? = w.tasks[j]? := by
  rw [endTask, tasks_changeTask_ne other, tasks_closeListener_ne other]

/-- The first turn of a task leaves the other tasks as they are. -/
lemma tasks_firstTurn_ne (other : i ≠ j) : (w.firstTurn i t).tasks[j]? = w.tasks[j]? := by
  unfold firstTurn
  split
  · rfl
  · split
    · exact tasks_changeTask_ne other
    · split
      · dsimp only
        rw [tasks_endTask_ne other, tasks_changeTask_ne other, log]
      · dsimp only
        rw [tasks_changeTask_ne other, changeServer]

/-- The turn of a task that serves leaves the other tasks as they are. -/
lemma tasks_servingTurn_ne (other : i ≠ j) : (w.servingTurn i).tasks[j]? = w.tasks[j]? := by
  unfold servingTurn
  split
  · rfl
  · split
    · rfl
    · split
      · exact tasks_endTask_ne other
      · exact tasks_closeListener_ne other

/-- The turn of a task leaves the other tasks as they are. -/
lemma tasks_taskTurn_ne (other : i ≠ j) : (w.taskTurn i).tasks[j]? = w.tasks[j]? := by
  have settles : (w.changeTask i (ServeTask.settleExchanges w.now)).tasks[j]? = w.tasks[j]? :=
    tasks_changeTask_ne other
  unfold taskTurn
  dsimp only
  split
  · exact settles
  · split
    · exact settles
    · unfold liveTurn
      split
      · rw [tasks_endTask_ne other, settles]
      · split
        · rw [tasks_servingTurn_ne other, tasks_firstTurn_ne other, settles]
        · rw [tasks_servingTurn_ne other, settles]

/-- Turns of other tasks leave a task as it is. -/
lemma tasks_turns {ids : List Nat} (absent : i ∉ ids) :
    (ids.foldl taskTurn w).tasks[i]? = w.tasks[i]? := by
  induction ids generalizing w with
  | nil => rfl
  | cons id rest ih =>
    rw [List.mem_cons, not_or] at absent
    rw [List.foldl_cons, ih absent.2, tasks_taskTurn_ne (Ne.symm absent.1)]

/-- Every task rests once it has had its turn. -/
lemma rests_turns {ids : List Nat} (member : i ∈ ids)
    (here : (ids.foldl taskTurn w).tasks[i]? = some t) : t.Rests w := by
  induction ids generalizing w with
  | nil => cases member
  | cons id rest ih =>
    have turns : SameOrders w (w.taskTurn id) := Turns.taskTurn.same
    by_cases later : i ∈ rest
    · exact (ih later here).of_same turns.symm
    · obtain rfl : i = id := (List.mem_cons.1 member).resolve_right later
      rw [List.foldl_cons, tasks_turns later] at here
      cases before : w.tasks[i]? with
      | none =>
        have orders := turns.orders i
        simp [World.orders, before, here] at orders
      | some t₀ =>
        obtain ⟨t', here', rests⟩ := rests_taskTurn before
        cases here.symm.trans here'
        exact rests

/-- The incidents that are due change no orders. -/
lemma sameOrders_meetDue :
    SameOrders { w with incidents := w.incidents.filter fun i => !(i.1 ≤ w.now) } w.meetDue :=
  .foldl fun _ _ => .meet

/-- While it settles, the background changes no orders. -/
lemma sameOrders_settle :
    SameOrders { w with incidents := w.incidents.filter fun i => !(i.1 ≤ w.now) } w.settle :=
  sameOrders_meetDue.trans (.foldl fun _ _ => Turns.taskTurn.same)

/-- To settle takes no time. -/
@[simp] lemma now_settle : w.settle.now = w.now :=
  sameOrders_settle.now

/-- To settle changes no orders. -/
@[simp] lemma orders_settle : w.settle.orders i = w.orders i :=
  sameOrders_settle.orders i

/-- After the background has settled, it rests. -/
theorem settle_rests : w.settle.Rests where
  incidents i member := by
    rw [sameOrders_settle.incidents] at member
    simpa using (List.mem_filter.1 member).2
  tasks id t here := by
    have turns : SameOrders w.meetDue w.settle :=
      .foldl fun _ _ => Turns.taskTurn.same
    have member : id ∈ List.range w.tasks.length := by
      refine List.mem_range.2 (Nat.lt_of_not_le fun beyond => ?_)
      have missing : w.orders id = none := by
        rw [World.orders, List.getElem?_eq_none beyond, Option.map_none]
      rw [← orders_settle, World.orders, here] at missing
      cases missing
    exact (rests_turns member here).of_same turns

/-! ## Nothing happens at rest -/

/-- To change a task into itself changes nothing. -/
lemma changeTask_eq_self {f} (same : ∀ t, w.tasks[i]? = some t → f t = t) :
    w.changeTask i f = w := by
  have tasks : w.tasks.modify i f = w.tasks := by
    apply List.ext_getElem?
    intro j
    by_cases here : i = j
    · subst here
      rw [List.getElem?_modify_eq]
      cases place : w.tasks[i]? with
      | none => rfl
      | some t => exact congrArg some (same t place)
    · simp [here]
  rw [changeTask, tasks]

/-- A listener that is closed cannot be closed again. -/
lemma closeListener_of_closed (here : w.tasks[i]? = some t) (closed : t.listening = none) :
    w.closeListener i = w := by
  rw [closeListener, here, Option.bind_some, closed]

/-- A task at rest has no turn to take. -/
lemma servingTurn_of_rests (here : w.tasks[i]? = some t) (rests : t.Rests w)
    (live : t.hasEnded = false) : w.servingTurn i = w := by
  rw [servingTurn, here]
  dsimp only
  split
  next => rfl
  next asked =>
    obtain ⟨undrained, closed⟩ := rests.drains live (by simpa using asked)
    rw [if_neg (by simp [undrained]), closeListener_of_closed here closed]

/-- Where everything rests, no turn changes anything. -/
lemma taskTurn_of_rests (rests : w.Rests) : w.taskTurn i = w := by
  have settled : w.changeTask i (ServeTask.settleExchanges w.now) = w :=
    changeTask_eq_self fun t here => ServeTask.settleExchanges_eq (rests.tasks i t here).exchanges
  unfold taskTurn
  dsimp only
  rw [settled]
  split
  next => rfl
  next t here =>
    have rests := rests.tasks i t here
    split
    next => rfl
    next live =>
      have live := Bool.eq_false_iff.2 live
      rw [liveTurn, if_neg (by simp [rests.live live])]
      split
      next spawned =>
        have same : w.firstTurn i t = w := by
          rw [firstTurn, rests.hosted spawned]
        rw [same, servingTurn_of_rests here rests live]
      next => exact servingTurn_of_rests here rests live

/-- Where everything rests, there is nothing to settle. -/
theorem settle_of_rests (rests : w.Rests) : w.settle = w := by
  have due : w.incidents.filter (fun i => decide (i.1 ≤ w.now)) = [] := by
    rw [List.filter_eq_nil_iff]
    intro i member
    simpa using rests.incidents i member
  have rest : w.incidents.filter (fun i => !decide (i.1 ≤ w.now)) = w.incidents := by
    rw [List.filter_eq_self]
    intro i member
    simpa using rests.incidents i member
  have met : w.meetDue = w := by
    rw [meetDue, due, rest]
    rfl
  have turns (ids : List Nat) : ids.foldl taskTurn w = w := by
    induction ids with
    | nil => rfl
    | cons id rest ih => rw [List.foldl_cons, taskTurn_of_rests rests, ih]
  rw [settle, met, turns]

/-- An instant before the next alarm is before every answer and every incident to come. -/
lemma lt_of_lt_alarm {instant next : Nat}
    (before : ∀ alarm, w.nextAlarm = some alarm → instant < alarm)
    (member : next ∈ w.tasks.filterMap (ServeTask.nextAnswer w.now) ++
      (w.incidents.map (·.1)).filter (w.now < ·)) : instant < next := by
  obtain ⟨alarm, first⟩ := Option.isSome_iff_exists.1 (List.isSome_min?_of_mem member)
  have earlier : alarm ≤ next := (List.min?_eq_some_iff.1 first).2 next member
  have later : instant < alarm := before alarm first
  omega

/-- An open exchange of a resting task is answered later, if ever. -/
lemma lt_answer {instant : Nat} {x : Exchange} (rests : w.Rests) (here : w.tasks[i]? = some t)
    (before : ∀ alarm, w.nextAlarm = some alarm → instant < alarm) (member : x ∈ t.exchanges)
    (isOpen : x.isOpen = true) : x.answersAt.any (· ≤ instant) = false ∧ t.forced = false := by
  have same := (rests.tasks i t here).exchanges x member
  have waits : x.answersAt.any (· ≤ w.now) = false ∧ t.forced = false := by
    -- otherwise the exchange would be closed by now
    rw [Exchange.settle, if_neg (by simp [isOpen])] at same
    split at same
    next =>
      rw [← same] at isOpen
      cases isOpen
    next unanswered =>
      split at same
      next =>
        rw [← same] at isOpen
        cases isOpen
      next unforced => exact ⟨Bool.eq_false_iff.2 unanswered, Bool.eq_false_iff.2 unforced⟩
  refine ⟨?_, waits.2⟩
  cases answer : x.answersAt with
  | none => rfl
  | some next =>
    have later : w.now < next := by simpa [answer] using waits.1
    have answers : next ∈ ((t.exchanges.filter Exchange.isOpen).filterMap (·.answersAt)).filter
        (w.now < ·) := by
      refine List.mem_filter.2 ⟨List.mem_filterMap.2 ⟨x, ?_, answer⟩, by simpa using later⟩
      exact List.mem_filter.2 ⟨member, isOpen⟩
    obtain ⟨first, answered⟩ := Option.isSome_iff_exists.1 (List.isSome_min?_of_mem answers)
    have earlier : first ≤ next := (List.min?_eq_some_iff.1 answered).2 next answers
    have reached : instant < first := by
      refine lt_of_lt_alarm before (List.mem_append_left _ ?_)
      exact List.mem_filterMap.2 ⟨t, List.mem_of_getElem? here, answered⟩
    simp only [Option.any_some, decide_eq_false_iff_not]
    omega

/-- The background rests on until its next alarm. -/
theorem Rests.later (rests : w.Rests) {instant : Nat}
    (before : ∀ alarm, w.nextAlarm = some alarm → instant < alarm) :
    Rests { w with now := instant } := by
  constructor
  · intro i member
    refine lt_of_lt_alarm before (List.mem_append_right _ ?_)
    refine List.mem_filter.2 ⟨List.mem_map_of_mem member, ?_⟩
    simpa using rests.incidents i member
  · intro id t here
    have here : w.tasks[id]? = some t := here
    have rests' := rests.tasks id t here
    refine ⟨⟨fun x member => ?_, rests'.live, rests'.hosted⟩, rests'.drains⟩
    cases isOpen : x.isOpen with
    | false => exact Exchange.settle_closed isOpen
    | true =>
      obtain ⟨waits, unforced⟩ := lt_answer rests here before member isOpen
      simp [Exchange.settle, isOpen, waits, unforced]

end World

/-! ## The instants of a world -/

namespace World

/-- The world after `n` milliseconds with the background alone. -/
def leftAlone (w : World κ υ) : Nat → World κ υ
  | 0 => w.settle
  | n + 1 => settle { w.leftAlone n with now := w.now + (n + 1) }

/-- A world that is left alone for `n` milliseconds is `n` milliseconds later. -/
lemma now_leftAlone {n} : (w.leftAlone n).now = w.now + n := by
  cases n <;> exact now_settle

/-- A world that is left alone changes no orders. -/
lemma orders_leftAlone {n} : (w.leftAlone n).orders i = w.orders i := by
  induction n with
  | zero => exact orders_settle
  | succ n ih =>
    rw [leftAlone, orders_settle]
    exact ih

/-- Before the next alarm, time passes and nothing else happens. -/
lemma leftAlone_before {n} (before : ∀ alarm, w.settle.nextAlarm = some alarm → w.now + n < alarm) :
    w.leftAlone n = { w.settle with now := w.now + n } := by
  induction n with
  | zero =>
    rw [leftAlone, Nat.add_zero, ← now_settle]
  | succ n ih =>
    have sooner : ∀ alarm, w.settle.nextAlarm = some alarm → w.now + n < alarm := by
      intro alarm next
      have := before alarm next
      omega
    rw [leftAlone, ih sooner]
    exact settle_of_rests (settle_rests.later before)

/-- A clock that jumps to the next alarm skips instants at which nothing happens. -/
lemma leftAlone_jump {n m} (first : ∀ alarm, w.settle.nextAlarm = some alarm → w.now + n ≤ alarm)
    (positive : 0 < n) :
    ({ w.settle with now := w.now + n } : World κ υ).leftAlone m = w.leftAlone (n + m) := by
  induction m with
  | zero =>
    obtain ⟨k, rfl⟩ := Nat.exists_eq_add_one.2 positive
    have before : ∀ alarm, w.settle.nextAlarm = some alarm → w.now + k < alarm := by
      intro alarm next
      have := first alarm next
      omega
    rw [Nat.add_zero, leftAlone, leftAlone, leftAlone_before before]
  | succ m ih =>
    have instant : w.now + n + (m + 1) = w.now + (n + m + 1) := by omega
    show settle { leftAlone _ m with now := w.now + n + (m + 1) } =
      settle { w.leftAlone (n + m) with now := w.now + (n + m + 1) }
    rw [ih, instant]

/-- The next alarm is still to come. -/
lemma lt_nextAlarm {alarm} (next : w.nextAlarm = some alarm) : w.now < alarm := by
  have member := (List.min?_eq_some_iff.1 next).1
  rcases List.mem_append.1 member with answers | incidents
  · obtain ⟨t, -, answered⟩ := List.mem_filterMap.1 answers
    have answer := (List.min?_eq_some_iff.1 answered).1
    simpa using (List.mem_filter.1 answer).2
  · simpa using (List.mem_filter.1 incidents).2

end World

/-- There is no earliest instant if there is none at all. -/
lemma earliest_eq_none {a b : Option Nat} (none : earliest a b = none) :
    a = Option.none ∧ b = Option.none := by
  cases a <;> cases b <;> simp [earliest] at none ⊢

/-- The earliest of two instants is one of them, and none of them is before it. -/
lemma earliest_eq_some {a b : Option Nat} {n} (some : earliest a b = some n) :
    (a = Option.some n ∨ b = Option.some n) ∧ (∀ m, a = Option.some m → n ≤ m) ∧
      ∀ m, b = Option.some m → n ≤ m := by
  cases a with
  | none =>
    obtain rfl : b = Option.some n := some
    simp
  | some x =>
    cases b with
    | none =>
      obtain rfl : x = n := Option.some.inj some
      simp
    | some y =>
      obtain rfl : min x y = n := Option.some.inj some
      simp only [Option.some.injEq, forall_eq']
      omega

/-- A trigger to which the passing of time does nothing before its alarm. -/
structure Trigger.IsPunctual (trigger : Trigger (World κ υ)) : Prop where
  busy : trigger.idle = false
  ahead : ∀ w alarm, trigger.ready w = false → trigger.alarm w = some alarm → w.now < alarm
  waits : ∀ (w : World κ υ) (instant : Nat), trigger.ready w = false →
    (∀ alarm, trigger.alarm w = some alarm → instant < alarm) →
    trigger.ready { w with now := instant } = false

/-- A trigger that is punctual ends a wait when it is ready, and only then. -/
lemma Trigger.IsPunctual.ends {trigger : Trigger (World κ υ)} (punctual : trigger.IsPunctual) :
    trigger.ends w = trigger.ready w := by
  rw [Trigger.ends, punctual.busy, Bool.or_false]

namespace World

section
variable {trigger : Trigger (World κ υ)} {n jumps : Nat}

/-- No time passes if the wait can end once the background has settled. -/
lemma passTime_ready (ends : trigger.ends w.settle = true) :
    World.clockwork.passTime trigger jumps w = some w.settle := by
  have ends : trigger.ends (World.clockwork.settle w) = true := ends
  cases jumps with
  | zero =>
    rw [Clockwork.passTime_zero, if_pos ends]
    rfl
  | succ jumps =>
    rw [Clockwork.passTime_succ, if_pos ends]
    rfl

/-- If it cannot, then time goes on to the next alarm. -/
lemma passTime_alarm {next} (waits : trigger.ends w.settle = false) (later : w.now < next)
    (alarm : earliest (trigger.alarm w.settle) w.settle.nextAlarm = some next) :
    World.clockwork.passTime trigger (jumps + 1) w =
      World.clockwork.passTime trigger jumps { w.settle with now := next } := by
  have waits : ¬ trigger.ends (World.clockwork.settle w) = true := Bool.eq_false_iff.1 waits
  have alarm : earliest (trigger.alarm (World.clockwork.settle w))
      (World.clockwork.alarm (World.clockwork.settle w)) = some next := alarm
  have later : ¬ next ≤ World.clockwork.now (World.clockwork.settle w) := by
    show ¬ next ≤ w.settle.now
    rw [now_settle]
    omega
  rw [Clockwork.passTime_succ, if_neg waits, alarm]
  dsimp only
  rw [if_neg later]
  rfl

/-- There is an alarm at or before an instant at which the trigger is ready. -/
lemma exists_alarm (punctual : trigger.IsPunctual) (unready : trigger.ready w.settle = false)
    (ready : trigger.ready (w.leftAlone n) = true) :
    ∃ next, earliest (trigger.alarm w.settle) w.settle.nextAlarm = some next ∧ w.now < next ∧
      next ≤ w.now + n := by
  have silent : ¬((∀ alarm, trigger.alarm w.settle = some alarm → w.now + n < alarm) ∧
      ∀ alarm, w.settle.nextAlarm = some alarm → w.now + n < alarm) := by
    rintro ⟨own, others⟩
    rw [leftAlone_before others, punctual.waits _ _ unready own] at ready
    cases ready
  cases alarm : earliest (trigger.alarm w.settle) w.settle.nextAlarm with
  | none =>
    obtain ⟨own, others⟩ := earliest_eq_none alarm
    exact absurd ⟨by simp [own], by simp [others]⟩ silent
  | some next =>
    obtain ⟨source, own, others⟩ := earliest_eq_some alarm
    refine ⟨next, rfl, ?_, ?_⟩
    · rw [← now_settle (w := w)]
      rcases source with source | source
      · exact punctual.ahead _ _ unready source
      · exact lt_nextAlarm source
    · refine Nat.le_of_not_lt fun late => silent ⟨fun alarm here => ?_, fun alarm here => ?_⟩
      · exact Nat.lt_of_lt_of_le late (own alarm here)
      · exact Nat.lt_of_lt_of_le late (others alarm here)

/-- The clock stops at the first instant at which the trigger is ready. -/
theorem passTime_leftAlone (punctual : trigger.IsPunctual)
    (first : ∀ j < n, trigger.ready (w.leftAlone j) = false)
    (ready : trigger.ready (w.leftAlone n) = true) (enough : n ≤ jumps) :
    World.clockwork.passTime trigger jumps w = some (w.leftAlone n) := by
  induction jumps generalizing w n with
  | zero =>
    obtain rfl : n = 0 := Nat.le_zero.1 enough
    exact passTime_ready (punctual.ends.trans ready)
  | succ jumps ih =>
    cases n with
    | zero => exact passTime_ready (punctual.ends.trans ready)
    | succ n =>
      have unready : trigger.ready w.settle = false := first 0 (Nat.succ_pos n)
      obtain ⟨next, alarm, later, reached⟩ := exists_alarm punctual unready ready
      -- the clock jumps to the next alarm, and the rest is a shorter wait from there
      obtain ⟨k, rfl⟩ : ∃ k, next = w.now + (k + 1) := ⟨next - w.now - 1, by omega⟩
      have jump (m : Nat) : ({ w.settle with now := w.now + (k + 1) } : World κ υ).leftAlone m =
          w.leftAlone (k + 1 + m) := by
        refine leftAlone_jump (fun other here => ?_) (Nat.succ_pos k)
        exact (earliest_eq_some alarm).2.2 other here
      have whole : k + 1 + (n - k) = n + 1 := by omega
      have early : ∀ j < n - k, trigger.ready
          (({ w.settle with now := w.now + (k + 1) } : World κ υ).leftAlone j) = false := by
        intro j earlier
        rw [jump]
        exact first _ (by omega)
      have due : trigger.ready
          (({ w.settle with now := w.now + (k + 1) } : World κ υ).leftAlone (n - k)) = true := by
        rw [jump, whole]
        exact ready
      rw [passTime_alarm (punctual.ends.trans unready) later alarm, ih early due (by omega), jump,
        whole]

end

end World

end

end Supervision
