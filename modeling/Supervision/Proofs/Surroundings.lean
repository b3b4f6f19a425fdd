import Supervision.Proofs.Race

/-!
# What goes on around a server

While a server and its calls wait, serve tasks take their turns, incidents come about, and
everything else in the world changes at will (`World.Besides`). Whatever it is, the server holds the
task that it held, and its own tasks go on with what they have reported. Its address changes when
one of its tasks binds it, in the first turn of the task, and only then (`World.Besides.minds`).

What comes to the slot of a task is an error that the task reports: its address cannot be bound, or
its serve loop fails (`World.Reports`).
-/

namespace Supervision
open Net Server

variable {κ υ : Type}

/-! ## Tasks and slots -/

/-- An error is in the slot only if it was reported, and a task reports once. -/
def Server.Slot.IsSound (slot : Slot) : Prop :=
  slot.reporting = true → slot.content = none

/-- A slot keeps what was reported. -/
structure Server.Slot.Keeps (slot slot' : Slot) : Prop where
  sound : slot.IsSound → slot'.IsSound
  content : slot.IsSound → ∀ e, slot.content = some e → slot'.content = some e

namespace Server.Slot.Keeps

variable {slot slot' slot'' : Slot}

/-- A slot keeps what is in it. -/
lemma refl : slot.Keeps slot :=
  ⟨fun sound => sound, fun _ _ here => here⟩

/-- What is kept twice is kept. -/
lemma trans (first : slot.Keeps slot') (rest : slot'.Keeps slot'') : slot.Keeps slot'' where
  sound sound := rest.sound (first.sound sound)
  content sound e here := rest.content (first.sound sound) e (first.content sound e here)

/-- A report does not replace an earlier one. -/
lemma report {e} : slot.Keeps (slot.report e).2 := by
  unfold Slot.report
  split
  next reporting =>
    constructor
    · intro _ h
      cases h
    · intro sound e' here
      rw [sound reporting] at here
      cases here
  next => exact refl

/-- To give up reporting keeps what was reported. -/
lemma drop : slot.Keeps slot.drop.2 :=
  ⟨fun _ h => (nomatch h), fun _ _ here => here⟩

end Server.Slot.Keeps

/-- A task goes on, and its slot keeps what was reported. -/
structure Server.ServeTask.Follows (t t' : ServeTask) : Prop where
  goes : t.Goes t'
  slot : t.slot.Keeps t'.slot

namespace Server.ServeTask.Follows

variable {t t' t'' : ServeTask}

/-- A task may stay as it is. -/
lemma refl : t.Follows t :=
  ⟨.refl, .refl⟩

/-- What follows twice follows. -/
lemma trans (first : t.Follows t') (rest : t'.Follows t'') : t.Follows t'' :=
  ⟨first.goes.trans rest.goes, first.slot.trans rest.slot⟩

/-- A spawned task may come to serve, whether or not it listens. -/
lemma serves {listening} (spawned : t.progress = .spawned) :
    t.Follows { t with progress := .serving, listening := listening } := by
  refine ⟨.of_live ?_ rfl (fun h => (nomatch h)) rfl rfl, .refl⟩
  rw [hasEnded, spawned]

end Server.ServeTask.Follows

namespace World

/-! ## What is seen of a server -/

/-- The task that a server holds. -/
def held (id : Nat) (w : World κ υ) : Option Nat :=
  (w.servers[id]?).bind Server.serving

/-- A server holds the task with which it serves. -/
lemma held_of_serving {id : Nat} {k : Option Nat} {s : Server} {w : World κ υ}
    (here : w.servers[id]? = some s) (serving : s.serving = k) : w.held id = k := by
  rw [held, here]
  exact serving

def addressOf (id : Nat) (w : World κ υ) : Option SocketAddress :=
  (w.servers[id]?).bind Server.localAddress

def kindOf (id : Nat) (w : World κ υ) : Option Kind :=
  (w.servers[id]?).map Server.kind

/-- The address on which a task listens. -/
def listening (k : Nat) (w : World κ υ) : Option SocketAddress :=
  (w.tasks[k]?).bind ServeTask.listening

/-- The error in the slot of a task. -/
def reported (k : Nat) (w : World κ υ) : Option ServerError :=
  (w.tasks[k]?).bind fun t => t.slot.content

/-- The task was spawned for the server. -/
def Owns (id k : Nat) (w : World κ υ) : Prop :=
  ∃ t, w.tasks[k]? = some t ∧ t.server = id

/-- The task of an HTTP server is still to bind its address. -/
def Pending (id k : Nat) (w : World κ υ) : Prop :=
  w.kindOf id = some .http ∧
    ∃ t, w.tasks[k]? = some t ∧ t.server = id ∧ t.progress = .spawned ∧ t.aborted = false

/-- A task that is pending belongs to its server. -/
lemma Pending.owns {id k : Nat} {w : World κ υ} (pending : w.Pending id k) : w.Owns id k := by
  obtain ⟨-, t, here, server, -⟩ := pending
  exact ⟨t, here, server⟩

/-- A task that is pending is not over. -/
lemma Pending.not_isOver {id k : Nat} {w : World κ υ} (pending : w.Pending id k) :
    ¬IsOver k w := by
  obtain ⟨-, t, here, -, spawned, live⟩ := pending
  rintro ⟨t', here', ended⟩
  cases here.symm.trans here'
  rw [ServeTask.hasEnded, spawned, live] at ended
  simp at ended

/-! ## Frames -/

/-- After a change of one task, a task is the changed one or as it was. -/
lemma tasks_changeTask_cases {w : World κ υ} {i k : Nat} {f : ServeTask → ServeTask}
    {t' : ServeTask} (here : (w.changeTask i f).tasks[k]? = some t') :
    (i = k ∧ ∃ t, w.tasks[i]? = some t ∧ f t = t') ∨ i ≠ k ∧ w.tasks[k]? = some t' := by
  by_cases same : i = k
  · subst same
    rw [tasks_changeTask, Option.map_eq_some_iff] at here
    exact .inl ⟨rfl, here⟩
  · rw [tasks_changeTask_ne same] at here
    exact .inr ⟨same, here⟩

/-- A server remains what it is, and its own tasks go on. -/
structure Tends (id : Nat) (w w' : World κ υ) : Prop where
  kind : w'.kindOf id = w.kindOf id
  forth : ∀ k, w.Owns id k → w'.Owns id k
  back : ∀ (k : Nat) (t' : ServeTask), w'.tasks[k]? = some t' → t'.server = id →
    ∃ t, w.tasks[k]? = some t ∧ t.server = id ∧ t.Goes t' ∧ (t.slot.IsSound → t'.slot.IsSound)

namespace Tends

variable {id k : Nat} {w w' : World κ υ}

/-- A server that is tended has the same tasks as before. -/
lemma owns (tends : Tends id w w') : w'.Owns id k ↔ w.Owns id k := by
  constructor
  · rintro ⟨t', here, server⟩
    obtain ⟨t, before, server, -⟩ := tends.back k t' here server
    exact ⟨t, before, server⟩
  · exact tends.forth k

/-- A task that is over stays so while its server is tended. -/
lemma isOver (tends : Tends id w w') (owns : w.Owns id k) (ended : IsOver k w) : IsOver k w' := by
  obtain ⟨t, here, ended⟩ := ended
  obtain ⟨t', here', server'⟩ := tends.forth k owns
  obtain ⟨t₀, here₀, -, goes, -⟩ := tends.back k t' here' server'
  cases here.symm.trans here₀
  exact ⟨t', here', ended.imp goes.ended fun h => ⟨goes.forced h.1, goes.aborted h.2⟩⟩

/-- No task comes to be pending while its server is tended. -/
lemma pending_of (tends : Tends id w w') (pending : w'.Pending id k) : w.Pending id k := by
  obtain ⟨kind, t', here', server, spawned, live⟩ := pending
  obtain ⟨t, here, server, goes, -⟩ := tends.back k t' here' server
  refine ⟨tends.kind.symm.trans kind, t, here, server, goes.spawned spawned, ?_⟩
  refine Bool.eq_false_iff.2 fun aborted => ?_
  rw [goes.aborted aborted] at live
  cases live

/-- A single task goes on. -/
lemma of_task {t t' : ServeTask} (kind : w'.kindOf id = w.kindOf id)
    (others : ∀ j, j ≠ k → w'.tasks[j]? = w.tasks[j]?) (here : w.tasks[k]? = some t)
    (here' : w'.tasks[k]? = some t') (goes : t.Goes t') (sound : t.slot.IsSound → t'.slot.IsSound) :
    Tends id w w' := by
  refine ⟨kind, fun j => ?_, fun j u' there' own => ?_⟩
  · rintro ⟨u, there, own⟩
    by_cases same : j = k
    · subst same
      cases here.symm.trans there
      exact ⟨t', here', goes.server.trans own⟩
    · exact ⟨u, (others j same).trans there, own⟩
  · by_cases same : j = k
    · subst same
      cases here'.symm.trans there'
      exact ⟨t, here, goes.server.symm.trans own, goes, sound⟩
    · exact ⟨u', (others j same).symm.trans there', own, .refl, fun sound => sound⟩

end Tends

/-- A server is minded from one world to another. If there are `news`, one of its tasks has bound
an address. -/
structure Minds (id : Nat) (news : Option (Nat × SocketAddress)) (w w' : World κ υ) : Prop where
  held : w'.held id = w.held id
  kind : w'.kindOf id = w.kindOf id
  forth : ∀ k, w.Owns id k → w'.Owns id k
  back : ∀ (k : Nat) (t' : ServeTask), w'.tasks[k]? = some t' → t'.server = id →
    ∃ t, w.tasks[k]? = some t ∧ t.server = id ∧ t.Follows t'
  address : w'.addressOf id = news.elim (w.addressOf id) fun bound => some bound.2
  listens : ∀ k a, w'.Owns id k → w'.listening k = some a →
    w.listening k = some a ∨ news = some (k, a)
  pending : ∀ k a, news = some (k, a) → w.Pending id k ∧ ¬w'.Pending id k
  length : w.tasks.length ≤ w'.tasks.length

namespace Minds

variable {id k i : Nat} {a : SocketAddress} {news : Option (Nat × SocketAddress)}
  {w w' w'' : World κ υ}

/-- A server that is minded is tended. -/
lemma tends (minds : Minds id news w w') : Tends id w w' where
  kind := minds.kind
  forth := minds.forth
  back k t' here' server := by
    obtain ⟨t, here, server, follows⟩ := minds.back k t' here' server
    exact ⟨t, here, server, follows.goes, follows.slot.sound⟩

/-- The server's own tasks keep what they have reported. -/
lemma reported {t : ServeTask} {e} (minds : Minds id news w w') (here : w.tasks[k]? = some t)
    (server : t.server = id) (sound : t.slot.IsSound) (before : w.reported k = some e) :
    w'.reported k = some e := by
  obtain ⟨t', here', server'⟩ := minds.forth k ⟨t, here, server⟩
  obtain ⟨t₀, here₀, -, follows⟩ := minds.back k t' here' server'
  cases here.symm.trans here₀
  rw [World.reported, here, Option.bind_some] at before
  rw [World.reported, here', Option.bind_some]
  exact follows.slot.content sound e before

/-- A server is minded while nothing happens. -/
lemma refl : Minds id none w w where
  held := rfl
  kind := rfl
  forth _ owns := owns
  back _ t here server := ⟨t, here, server, .refl⟩
  address := rfl
  listens _ _ _ listens := .inl listens
  pending _ _ news := nomatch news
  length := Nat.le_refl _

/-- To mind a server is about the servers and the tasks alone. -/
lemma of_eq (servers : w'.servers = w.servers) (tasks : w'.tasks = w.tasks) :
    Minds id none w w' := by
  have same : Minds id none w w := refl
  constructor
  · rw [World.held, World.held, servers]
  · rw [World.kindOf, World.kindOf, servers]
  · intro k
    rw [World.Owns, World.Owns, tasks]
    exact same.forth k
  · rw [tasks]
    exact same.back
  · rw [World.addressOf, servers]
    rfl
  · intro k a
    rw [World.Owns, World.listening, World.listening, tasks]
    exact same.listens k a
  · exact fun _ _ news => nomatch news
  · rw [tasks]

/-- A task after two stretches of minding goes on from one before them. -/
lemma back_trans {news' : Option (Nat × SocketAddress)} {t'' : ServeTask}
    (first : Minds id news w w') (rest : Minds id news' w' w'') (here : w''.tasks[k]? = some t'')
    (server : t''.server = id) :
    ∃ t, w.tasks[k]? = some t ∧ t.server = id ∧ t.Follows t'' := by
  obtain ⟨t', here', server', follows'⟩ := rest.back k t'' here server
  obtain ⟨t, here, server, follows⟩ := first.back k t' here' server'
  exact ⟨t, here, server, follows.trans follows'⟩

/-- Nothing new happens first. -/
lemma before (first : Minds id none w w') (rest : Minds id news w' w'') :
    Minds id news w w'' where
  held := rest.held.trans first.held
  kind := rest.kind.trans first.kind
  forth k owns := rest.forth k (first.forth k owns)
  back k t'' here server := first.back_trans rest here server
  address := by
    rw [rest.address, first.address]
    rfl
  listens k a owns listens := by
    obtain listens | new := rest.listens k a owns listens
    · obtain listens | new := first.listens k a (rest.tends.owns.1 owns) listens
      · exact .inl listens
      · cases new
    · exact .inr new
  pending k a new := by
    obtain ⟨pending, done⟩ := rest.pending k a new
    exact ⟨first.tends.pending_of pending, done⟩
  length := Nat.le_trans first.length rest.length

/-- Nothing new happens afterwards. -/
lemma after (first : Minds id news w w') (rest : Minds id none w' w'') :
    Minds id news w w'' where
  held := rest.held.trans first.held
  kind := rest.kind.trans first.kind
  forth k owns := rest.forth k (first.forth k owns)
  back k t'' here server := first.back_trans rest here server
  address := by
    rw [rest.address]
    exact first.address
  listens k a owns listens := by
    obtain listens | new := rest.listens k a owns listens
    · exact first.listens k a (rest.tends.owns.1 owns) listens
    · cases new
  pending k a new := by
    obtain ⟨pending, done⟩ := first.pending k a new
    exact ⟨pending, fun still => done (rest.tends.pending_of still)⟩
  length := Nat.le_trans first.length rest.length

/-- To change a task leaves each task with its server. -/
lemma forth_changeTask {f : ServeTask → ServeTask} (server : ∀ t, (f t).server = t.server)
    (owns : w.Owns id k) : (w.changeTask i f).Owns id k := by
  obtain ⟨t, here, own⟩ := owns
  by_cases same : i = k
  · subst same
    refine ⟨f t, ?_, (server t).trans own⟩
    rw [tasks_changeTask, here, Option.map_some]
  · refine ⟨t, ?_, own⟩
    rw [tasks_changeTask_ne same, here]

/-- A task that was changed goes on from one before the change, if the change follows it. -/
lemma back_changeTask {f : ServeTask → ServeTask} {t' : ServeTask}
    (server : ∀ t, (f t).server = t.server)
    (follows : ∀ t, w.tasks[i]? = some t → t.server = id → t.Follows (f t))
    (here : (w.changeTask i f).tasks[k]? = some t') (own : t'.server = id) :
    ∃ t, w.tasks[k]? = some t ∧ t.server = id ∧ t.Follows t' := by
  obtain ⟨rfl, t, before, rfl⟩ | ⟨-, before⟩ := tasks_changeTask_cases here
  · have own : t.server = id := (server t).symm.trans own
    exact ⟨t, before, own, follows t before own⟩
  · exact ⟨t', before, own, .refl⟩

/-- A task that goes on does not begin to listen. -/
lemma changeTask {f : ServeTask → ServeTask} (server : ∀ t, (f t).server = t.server)
    (follows : ∀ t, w.tasks[i]? = some t → t.server = id → t.Follows (f t))
    (listens : ∀ t, w.tasks[i]? = some t → t.server = id →
      ∀ a, (f t).listening = some a → t.listening = some a) :
    Minds id none w (w.changeTask i f) := by
  constructor
  · rfl
  · rfl
  · exact fun k => forth_changeTask server
  · exact fun k t' => back_changeTask server follows
  · rfl
  · rintro k a ⟨t', here', own⟩ listens'
    rw [World.listening, here', Option.bind_some] at listens'
    apply Or.inl
    obtain ⟨rfl, t, here, rfl⟩ | ⟨-, here⟩ := tasks_changeTask_cases here'
    · rw [World.listening, here]
      exact listens t here ((server t).symm.trans own) a listens'
    · rw [World.listening, here]
      exact listens'
  · exact fun _ _ news => nomatch news
  · rw [World.changeTask, List.length_modify]

/-- To change another server minds this one. -/
lemma changeServer {f} (other : i ≠ id) : Minds id none w (w.changeServer i f) := by
  have servers : (w.changeServer i f).servers[id]? = w.servers[id]? :=
    servers_changeServer_ne other
  have same : Minds id none w w := refl
  constructor
  · rw [World.held, World.held, servers]
  · rw [World.kindOf, World.kindOf, servers]
  · exact same.forth
  · exact same.back
  · rw [World.addressOf, servers]
    rfl
  · exact same.listens
  · exact fun _ _ news => nomatch news
  · exact same.length

/-! ## Turns -/

/-- To close a listener minds a server. -/
lemma closeListener : Minds id none w (w.closeListener i) := by
  unfold World.closeListener
  split
  · exact refl
  · refine before ?_ (changeTask (fun _ => rfl) (fun t _ _ => ?_) fun t _ _ a listens => ?_)
    · exact of_eq rfl rfl
    · exact ⟨.of_eq rfl rfl rfl rfl rfl, .refl⟩
    · cases listens

/-- The end of a task minds a server. -/
lemma endTask {panicked} : Minds id none w (w.endTask i panicked) := by
  refine before closeListener (changeTask (fun _ => rfl) (fun t _ _ => ?_) fun t _ _ a => ?_)
  · refine ⟨⟨rfl, ?_, fun _ => rfl, fun h => h, fun h => h, fun _ h => h⟩, .drop⟩
    exact fun spawned => nomatch spawned
  · exact fun listens => listens

/-- A task reports to its slot. -/
lemma report {e} : Minds id none w
    (w.changeTask i fun t => { t with slot := (t.slot.report e).2 }) := by
  refine changeTask (fun _ => rfl) (fun t _ _ => ?_) fun t _ _ a listens => listens
  exact ⟨.of_eq rfl rfl rfl rfl rfl, .report⟩

/-- The task of a server binds its address. -/
lemma binds (pending : w.Pending id i) :
    Minds id (some (i, a)) w
      ((w.changeServer id fun s => { s with localAddress := some a }).changeTask i
        fun t => { t with progress := .serving, listening := some a }) := by
  have ⟨kind, t, here, _, spawned, _⟩ := pending
  obtain ⟨s, there, -⟩ := Option.map_eq_some_iff.1 kind
  let v := w.changeServer id fun s => { s with localAddress := some a }
  have servers : v.servers[id]? = some { s with localAddress := some a } := by
    rw [servers_changeServer, there, Option.map_some]
  constructor
  · refine (congrArg (Option.bind · Server.serving) servers).trans ?_
    rw [World.held, there]
    rfl
  · refine (congrArg (Option.map Server.kind) servers).trans ?_
    rw [World.kindOf, there]
    rfl
  · exact fun k => forth_changeTask (w := v) fun _ => rfl
  · refine fun k t' => back_changeTask (w := v) (fun _ => rfl) fun t' here' _ => ?_
    cases here.symm.trans here'
    exact .serves spawned
  · exact congrArg (Option.bind · Server.localAddress) servers
  · intro k b _ listens
    obtain ⟨t', here', address⟩ := Option.bind_eq_some_iff.1 listens
    obtain ⟨rfl, t, -, rfl⟩ | ⟨-, here⟩ := tasks_changeTask_cases here'
    · cases address
      exact .inr rfl
    · exact .inl (Option.bind_eq_some_iff.2 ⟨t', here, address⟩)
  · -- the task has had its first turn, and so is pending no more
    rintro k b new
    cases new
    refine ⟨pending, ?_⟩
    rintro ⟨-, t', here', -, spawned', -⟩
    obtain ⟨-, t, -, rfl⟩ | ⟨other, -⟩ := tasks_changeTask_cases here'
    · cases spawned'
    · exact other rfl
  · simp [World.changeTask, World.changeServer]

/-- In its first turn, a task may bind an address, which is news of its server alone. -/
lemma firstTurn {t : ServeTask} (here : w.tasks[i]? = some t) (spawned : t.progress = .spawned)
    (live : t.aborted = false) : ∃ news, Minds id news w (w.firstTurn i t) := by
  unfold World.firstTurn
  split
  · exact ⟨none, refl⟩
  next s there =>
    split
    · refine ⟨none, changeTask (fun _ => rfl) (fun t' here' _ => ?_) fun _ _ _ _ h => h⟩
      cases here.symm.trans here'
      exact .serves spawned
    next kind =>
      split
      · dsimp only
        refine ⟨none, before ?_ (before report endTask)⟩
        exact of_eq rfl rfl
      next address host _ =>
        dsimp only
        by_cases own : t.server = id
        · subst own
          refine ⟨some (i, address), before ?_ (binds ?_)⟩
          · exact of_eq rfl rfl
          · refine ⟨?_, t, here, rfl, spawned, live⟩
            rw [kindOf, there, Option.map_some, kind]
        · -- the task of another server
          refine ⟨none, before ?_ (before (changeServer own) (changeTask (fun _ => rfl) ?_ ?_))⟩
          · exact of_eq rfl rfl
          · intro t' here' own'
            cases here.symm.trans here'
            exact absurd own' own
          · intro t' here' own'
            cases here.symm.trans here'
            exact absurd own' own

/-- The turn of a task that serves minds a server. -/
lemma servingTurn : Minds id none w (w.servingTurn i) := by
  unfold World.servingTurn
  split
  · exact refl
  · split
    · exact refl
    · split
      · exact endTask
      · exact closeListener

/-- The turn of any task minds a server, with news at most of one address. -/
lemma taskTurn : ∃ news, Minds id news w (w.taskTurn i) := by
  unfold World.taskTurn
  dsimp only
  have settles : Minds id none w (w.changeTask i (ServeTask.settleExchanges w.now)) := by
    refine changeTask (fun _ => rfl) (fun t _ _ => ⟨?_, .refl⟩) fun _ _ _ _ h => h
    refine ⟨rfl, fun h => h, fun h => h, fun h => h, fun h => h, fun _ => ?_⟩
    exact ServeTask.isQuiet_settleExchanges
  split
  · exact ⟨none, settles⟩
  next t here =>
    split
    · exact ⟨none, settles⟩
    · unfold World.liveTurn
      split
      · exact ⟨none, before settles endTask⟩
      next live =>
        split
        next spawned =>
          have live : t.aborted = false := Bool.eq_false_iff.2 live
          obtain ⟨news, turns⟩ : ∃ news, Minds id news _ _ := firstTurn here spawned live
          exact ⟨news, before settles (after turns servingTurn)⟩
        next => exact ⟨none, before settles servingTurn⟩

/-! ## Incidents -/

/-- To take in a report minds a server. -/
lemma takeReport {e} : Minds id none w (w.takeReport i e) := by
  unfold World.takeReport
  dsimp only
  have reports : Minds id none w
      (w.changeTask i fun t => { t with slot := (t.slot.report e).2 }) := report
  split
  · exact before reports (of_eq rfl rfl)
  · exact reports

/-- What happens to a task that has not ended minds a server if it does so then. -/
lemma ifLive {f} (minds : (w.tasks[i]?).any (fun t => !t.hasEnded) = true → Minds id none w (f w)) :
    Minds id none w (w.ifLive i f) := by
  unfold World.ifLive
  split
  next live => exact minds live
  next => exact refl

/-- An incident minds a server. -/
lemma meet {incident} : Minds id none w (w.meet incident) := by
  cases incident with
  | cancellation => exact of_eq rfl rfl
  | signal => exact of_eq rfl rfl
  | exchange i x =>
    refine ifLive fun live =>
      changeTask (fun t => ?_) (fun t here _ => ?_) fun t _ _ a listens => ?_
    · unfold ServeTask.addExchange
      split <;> rfl
    · rw [here, Option.any_some, Bool.not_eq_true'] at live
      unfold ServeTask.addExchange
      split
      · exact ⟨.of_live live rfl (fun h => h) rfl rfl, .refl⟩
      · exact .refl
    · unfold ServeTask.addExchange at listens
      split at listens
      · exact listens
      · exact listens
  | report => exact ifLive fun _ => takeReport
  | ending => exact ifLive fun _ => endTask

end Minds

/-! ## Reports -/

variable {id k i : Nat} {e : ServerError} {w w' : World κ υ}

/-- A task reports an error that comes to its slot: its serve loop fails, or its first turn cannot
bind the address of its server. -/
inductive Reports (k : Nat) (e : ServerError) (w : World κ υ) : World κ υ → Prop where
  | serve {t : ServeTask} :
    w.tasks[k]? = some t →
    t.hasEnded = false →
    t.slot.reporting = true →
    Reports k e w (w.meet (.report k e))
  | bind {t : ServeTask} {s : Server} :
    w.tasks[k]? = some t →
    t.progress = .spawned →
    t.aborted = false →
    t.slot.reporting = true →
    w.servers[t.server]? = some s →
    s.kind = .http →
    bindAddress s.address w.host = .error e →
    Reports k e w (w.taskTurn k)

/-- A change of a task that leaves its slot alone reports nothing. -/
lemma reported_changeTask {f : ServeTask → ServeTask}
    (same : ∀ t, (f t).slot.content = t.slot.content) :
    (w.changeTask i f).reported k = w.reported k := by
  unfold World.reported
  by_cases here : i = k
  · subst here
    rw [tasks_changeTask, Option.bind_map]
    exact congrArg (Option.bind _) (funext same)
  · rw [tasks_changeTask_ne here]

/-- A change of another task reports nothing. -/
lemma reported_changeTask_ne {f : ServeTask → ServeTask} (other : i ≠ k) :
    (w.changeTask i f).reported k = w.reported k := by
  rw [World.reported, tasks_changeTask_ne other, World.reported]

/-- To close a listener reports nothing. -/
lemma reported_closeListener : (w.closeListener i).reported k = w.reported k := by
  unfold closeListener
  split
  · rfl
  · exact reported_changeTask fun _ => rfl

/-- The end of a task reports nothing. -/
lemma reported_endTask {panicked} : (w.endTask i panicked).reported k = w.reported k := by
  refine (reported_changeTask fun t => ?_).trans reported_closeListener
  rfl

/-- The turn of a task that serves reports nothing. -/
lemma reported_servingTurn : (w.servingTurn i).reported k = w.reported k := by
  unfold servingTurn
  split
  · rfl
  · split
    · rfl
    · split
      · exact reported_endTask
      · exact reported_closeListener

/-- What comes to a slot with a report is its error. -/
lemma reported_report {e' : ServerError}
    (after : (w.changeTask i fun t => { t with slot := (t.slot.report e').2 }).reported k =
      some e) :
    w.reported k = some e ∨
      i = k ∧ e' = e ∧ ∀ t, w.tasks[i]? = some t → t.slot.reporting = true := by
  by_cases same : i = k
  · subst same
    rw [World.reported, tasks_changeTask] at after
    cases here : w.tasks[i]? with
    | none =>
      rw [here] at after
      cases after
    | some t =>
      rw [here, Option.map_some, Option.bind_some, Slot.report] at after
      split at after
      next reporting =>
        cases after
        refine .inr ⟨rfl, rfl, fun t' here' => ?_⟩
        cases here'
        exact reporting
      next =>
        left
        rw [World.reported, here]
        exact after
  · rw [reported_changeTask_ne same] at after
    exact .inl after

/-- The first turn of a task may report that its address cannot be bound, and nothing else. -/
lemma reported_firstTurn {t : ServeTask} (here : w.tasks[i]? = some t)
    (after : (w.firstTurn i t).reported k = some e) :
    w.reported k = some e ∨ i = k ∧ t.slot.reporting = true ∧
      ∃ s, w.servers[t.server]? = some s ∧ s.kind = .http ∧
        bindAddress s.address w.host = .error e := by
  unfold firstTurn at after
  split at after
  · exact .inl after
  next s there =>
    split at after
    · rw [reported_changeTask fun _ => by rfl] at after
      exact .inl after
    next kind =>
      split at after
      next e' fails =>
        have after := reported_endTask.symm.trans after
        have reports : (w.log (.bindFailed s.name e')).reported k = w.reported k := rfl
        obtain before | ⟨rfl, rfl, reporting⟩ := reported_report after
        · exact .inl (reports.symm.trans before)
        · exact .inr ⟨rfl, reporting t here, s, there, kind, fails⟩
      · dsimp only at after
        rw [reported_changeTask fun _ => by rfl] at after
        exact .inl after

/-- The turn of a task. -/
lemma taskTurn_some {t : ServeTask} (here : w.tasks[i]? = some t) :
    w.taskTurn i =
      let v := w.changeTask i (ServeTask.settleExchanges w.now)
      if (t.settleExchanges w.now).hasEnded then v else v.liveTurn i (t.settleExchanges w.now) := by
  simp only [taskTurn, tasks_changeTask, here, Option.map_some]

/-- A turn brings an error to a slot if the task reports it. -/
lemma reports_of_taskTurn (after : (w.taskTurn i).reported k = some e) :
    w.reported k = some e ∨ Reports k e w (w.taskTurn i) := by
  let v := w.changeTask i (ServeTask.settleExchanges w.now)
  have settles : v.reported k = w.reported k := reported_changeTask fun _ => rfl
  cases here₀ : w.tasks[i]? with
  | none =>
    have turn : w.taskTurn i = v := by
      simp only [taskTurn, tasks_changeTask, here₀, Option.map_none]
      rfl
    rw [turn] at after
    exact .inl (settles.symm.trans after)
  | some t₀ =>
    let t := t₀.settleExchanges w.now
    have here : v.tasks[i]? = some t := by rw [tasks_changeTask, here₀, Option.map_some]
    have live : (if t.hasEnded then v else v.liveTurn i t).reported k = some e := by
      rwa [taskTurn_some here₀] at after
    split at live
    · exact .inl (settles.symm.trans live)
    · -- only the first turn of a task can report, and only where its bind fails
      unfold liveTurn at live
      split at live
      · exact .inl (settles.symm.trans (reported_endTask.symm.trans live))
      next unaborted =>
        split at live
        next spawned =>
          have first := reported_servingTurn.symm.trans live
          obtain before | ⟨rfl, reporting, s, there, kind, fails⟩ := reported_firstTurn here first
          · exact .inl (settles.symm.trans before)
          · have unaborted : t₀.aborted = false := Bool.eq_false_iff.2 unaborted
            exact .inr (.bind here₀ spawned unaborted reporting there kind fails)
        next =>
          exact .inl (settles.symm.trans (reported_servingTurn.symm.trans live))

/-- A task that has not ended is there. -/
lemma live_cases (live : (w.tasks[i]?).any (fun t => !t.hasEnded) = true) :
    ∃ t, w.tasks[i]? = some t ∧ t.hasEnded = false := by
  cases here : w.tasks[i]? with
  | none =>
    rw [here] at live
    cases live
  | some t =>
    rw [here, Option.any_some, Bool.not_eq_true'] at live
    exact ⟨t, rfl, live⟩

/-- To take in a report is to put it into the slot of its task. -/
lemma reported_takeReport {e' : ServerError} :
    (w.takeReport i e').reported k =
      (w.changeTask i fun t => { t with slot := (t.slot.report e').2 }).reported k := by
  unfold takeReport
  dsimp only
  split <;> rfl

/-- An incident brings an error to a slot if it is the report of the task. -/
lemma reports_of_meet {incident} (after : (w.meet incident).reported k = some e) :
    w.reported k = some e ∨ Reports k e w (w.meet incident) := by
  cases incident with
  | cancellation => exact .inl after
  | signal => exact .inl after
  | exchange i x =>
    simp only [meet, ifLive] at after
    split at after
    · rw [reported_changeTask fun t => ?_] at after
      · exact .inl after
      · unfold ServeTask.addExchange
        split <;> rfl
    · exact .inl after
  -- no other incident reports anything
  | report i e' =>
    have taken : (w.ifLive i (takeReport i e')).reported k = some e := after
    unfold ifLive at taken
    split at taken
    next live =>
      obtain ⟨t, here, live⟩ := live_cases live
      obtain before | ⟨rfl, rfl, reporting⟩ :=
        reported_report (reported_takeReport.symm.trans taken)
      · exact .inl before
      · exact .inr (.serve here live (reporting t here))
    next => exact .inl taken
  | ending i panicked =>
    simp only [meet, ifLive] at after
    split at after
    · exact .inl (reported_endTask.symm.trans after)
    · exact .inl after

/-! ## Besides -/

/-- What else happens in the world: nothing to a server and its tasks. -/
structure Elsewhere (id : Nat) (w w' : World κ υ) : Prop where
  server : w'.servers[id]? = w.servers[id]?
  tasks : ∀ (k : Nat) (t : ServeTask), t.server = id →
    (w'.tasks[k]? = some t ↔ w.tasks[k]? = some t)
  length : w.tasks.length ≤ w'.tasks.length

/-- What happens besides the calls of a server. -/
inductive Besides (id : Nat) (w : World κ υ) : World κ υ → Prop where
  | turn (i : Nat) : Besides id w (w.taskTurn i)
  | incident (x : Incident) : Besides id w (w.meet x)
  | elsewhere {w' : World κ υ} : w.Elsewhere id w' → Besides id w w'

/-- What happens elsewhere minds a server. -/
lemma Elsewhere.minds (elsewhere : w.Elsewhere id w') : Minds id none w w' where
  held := by rw [World.held, World.held, elsewhere.server]
  kind := by rw [World.kindOf, World.kindOf, elsewhere.server]
  forth k := by
    rintro ⟨t, here, own⟩
    exact ⟨t, (elsewhere.tasks k t own).2 here, own⟩
  back k t here own := ⟨t, (elsewhere.tasks k t own).1 here, own, .refl⟩
  address := by
    rw [World.addressOf, elsewhere.server]
    rfl
  listens k a := by
    rintro ⟨t, here, own⟩ listens
    rw [World.listening, here] at listens
    rw [World.listening, (elsewhere.tasks k t own).1 here]
    exact .inl listens
  pending _ _ news := nomatch news
  length := elsewhere.length

/-- What happens besides the calls of a server minds it, with news at most of one address. -/
theorem Besides.minds (besides : Besides id w w') : ∃ news, Minds id news w w' := by
  cases besides with
  | turn => exact Minds.taskTurn
  | incident => exact ⟨none, .meet⟩
  | elsewhere elsewhere => exact ⟨none, elsewhere.minds⟩

/-- The passing of time is nothing else. -/
theorem besides_of_passes (passes : World.clockwork.Passes w w') :
    Relation.ReflTransGen (Besides id) w w' := by
  have elsewhere {v v' : World κ υ} (servers : v'.servers = v.servers)
      (tasks : v'.tasks = v.tasks) :
      Besides id v v' := by
    refine .elsewhere ⟨by rw [servers], fun k t _ => ?_, by rw [tasks]⟩
    rw [tasks]
  have folds {γ : Type} {f : World κ υ → γ → World κ υ} (each : ∀ v x, Besides id v (f v x))
      (xs : List γ) (v : World κ υ) : Relation.ReflTransGen (Besides id) v (xs.foldl f v) := by
    induction xs generalizing v with
    | nil => exact .refl
    | cons x rest ih => exact .head (each v x) (ih (f v x))
  have settles (v : World κ υ) : Relation.ReflTransGen (Besides id) v v.settle := by
    have met : Relation.ReflTransGen (Besides id) v v.meetDue := by
      unfold meetDue
      refine .head ?_ (folds (fun v (i : Nat × Incident) => .incident i.2) _ _)
      exact elsewhere rfl rfl
    exact met.trans (folds (fun v i => .turn i) _ _)
  -- time passes by settling, which is incidents and turns, and by moving the clock
  induction passes with
  | refl => exact .refl
  | settle _ ih => exact (settles _).trans ih
  | advance _ _ ih =>
    refine .head ?_ ih
    exact elsewhere rfl rfl

/-- What a task reports happens besides the calls of its server. -/
lemma Reports.besides (reports : Reports k e w w') : Besides id w w' := by
  cases reports with
  | serve => exact .incident (.report k e)
  | bind => exact .turn k

/-- Nothing but a report brings an error to a slot of a server's task. -/
theorem Besides.reports (besides : Besides id w w') (owns : w'.Owns id k)
    (after : w'.reported k = some e) : w.reported k = some e ∨ Reports k e w w' := by
  cases besides with
  | turn => exact reports_of_taskTurn after
  | incident => exact reports_of_meet after
  | elsewhere elsewhere =>
    obtain ⟨t, here, own⟩ := owns
    rw [World.reported, here] at after
    rw [World.reported, (elsewhere.tasks k t own).1 here]
    exact .inl after

/-- A task that can still report brings its error to its slot. -/
lemma report_reported {t : ServeTask} (here : w.tasks[k]? = some t)
    (reporting : t.slot.reporting = true) :
    (w.changeTask k fun t => { t with slot := (t.slot.report e).2 }).reported k = some e := by
  rw [World.reported, tasks_changeTask, here, Option.map_some, Option.bind_some, Slot.report,
    if_pos reporting]

/-- The error that a task reports is in its slot then. -/
theorem Reports.reported (reports : Reports k e w w') : w'.reported k = some e := by
  cases reports with
  | @serve t here live reporting =>
    have any : (w.tasks[k]?).any (fun t => !t.hasEnded) = true := by
      rw [here, Option.any_some, live]
      rfl
    have takes : w.meet (.report k e) = w.takeReport k e := if_pos any
    rw [takes, reported_takeReport]
    exact report_reported here reporting
  | @bind t s here spawned unaborted reporting there kind fails =>
    let v := w.changeTask k (ServeTask.settleExchanges w.now)
    let t' := t.settleExchanges w.now
    have here' : v.tasks[k]? = some t' := by rw [tasks_changeTask, here, Option.map_some]
    have live : t'.hasEnded = false := by
      show t.hasEnded = false
      rw [ServeTask.hasEnded, spawned]
    have turn : w.taskTurn k = servingTurn k (v.firstTurn k t') := by
      have unaborted : t'.aborted = false := unaborted
      have spawned : t'.progress = .spawned := spawned
      rw [taskTurn_some here]
      show (if t'.hasEnded then v else v.liveTurn k t') = _
      simp only [live, liveTurn, unaborted, spawned, Bool.false_eq_true, if_false]
    have first : v.firstTurn k t' = endTask k false
        ((v.log (.bindFailed s.name e)).changeTask k
          fun t => { t with slot := (t.slot.report e).2 }) := by
      have there : v.servers[t'.server]? = some s := there
      have fails : bindAddress s.address v.host = .error e := fails
      simp only [firstTurn, there, kind, fails]
    rw [turn, reported_servingTurn, first, reported_endTask]
    exact report_reported (w := v.log (.bindFailed s.name e)) here' reporting

end World

end Supervision
