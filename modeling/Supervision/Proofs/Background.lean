import Supervision.Flow
import Supervision.Proofs.Execution

/-!
# What the background does to servers

Serve tasks go on by themselves, but not back: what has ended, was forced or was aborted remains so
(`ServeTask.Goes`). The address of a server is theirs to set in their first turn alone, and nobody
else's while time passes (`World.Spares`). `World.Spares.passes` says so of the clock.

A task is `World.Orderly` if nothing ends it out of turn. It ends without open exchanges then, and
so does one that was forced and aborted, with its next turn (`World.Leaves.settle`).
-/

namespace Supervision
open Server

variable {κ υ : Type}

/-! ## Tasks -/

namespace Server.ServeTask

variable {t t' t'' : ServeTask}

/-- No exchange of the task is open. -/
def IsQuiet (t : ServeTask) : Prop :=
  t.exchanges.any Exchange.isOpen = false

/-- A task goes on to another state of it. -/
structure Goes (t t' : ServeTask) : Prop where
  server : t'.server = t.server
  spawned : t'.progress = .spawned → t.progress = .spawned
  ended : t.hasEnded = true → t'.hasEnded = true
  forced : t.forced = true → t'.forced = true
  aborted : t.aborted = true → t'.aborted = true
  quiet : t.hasEnded = true → t.IsQuiet → t'.IsQuiet

/-- What the task listens on, and what it has reported, do not count. -/
lemma Goes.of_eq (server : t'.server = t.server) (progress : t'.progress = t.progress)
    (forced : t'.forced = t.forced) (aborted : t'.aborted = t.aborted)
    (exchanges : t'.exchanges = t.exchanges) : t.Goes t' where
  server := server
  spawned h := progress ▸ h
  ended h := by rwa [hasEnded, progress]
  forced h := forced.trans h
  aborted h := aborted.trans h
  quiet _ h := by rwa [IsQuiet, exchanges]

/-- Before its end, a task may take exchanges. -/
lemma Goes.of_live (live : t.hasEnded = false) (server : t'.server = t.server)
    (spawned : t'.progress = .spawned → t.progress = .spawned) (forced : t'.forced = t.forced)
    (aborted : t'.aborted = t.aborted) : t.Goes t' where
  server := server
  spawned := spawned
  ended h := by simp [live] at h
  forced h := forced.trans h
  aborted h := aborted.trans h
  quiet h := by simp [live] at h

/-- A task may stay as it is. -/
lemma Goes.refl : t.Goes t :=
  .of_eq rfl rfl rfl rfl rfl

/-- What a task goes on to goes on in turn. -/
lemma Goes.trans (first : t.Goes t') (rest : t'.Goes t'') : t.Goes t'' where
  server := rest.server.trans first.server
  spawned h := first.spawned (rest.spawned h)
  ended h := rest.ended (first.ended h)
  forced h := rest.forced (first.forced h)
  aborted h := rest.aborted (first.aborted h)
  quiet ended h := rest.quiet (first.ended ended) (first.quiet ended h)

/-- To settle opens no exchange. -/
lemma isQuiet_settleExchanges {now} (h : t.IsQuiet) : (t.settleExchanges now).IsQuiet := by
  simp only [IsQuiet, settleExchanges, List.any_map, List.any_eq_false] at h ⊢
  intro x member
  simp [Exchange.settle, h x member]

/-- Forced exchanges end at the next turn of their task. -/
lemma isQuiet_settleExchanges_of_forced {now} (forced : t.forced = true) :
    (t.settleExchanges now).IsQuiet := by
  simp only [IsQuiet, settleExchanges, forced, List.any_map, List.any_eq_false]
  intro x _
  simp only [Function.comp_apply, Exchange.settle]
  split
  next closed => simpa using closed
  next =>
    split
    · simp [Exchange.isOpen]
    · simp [Exchange.isOpen]

end Server.ServeTask

namespace World

/-- A task that is changed is found changed. -/
@[simp] lemma tasks_changeTask {w : World κ υ} {i f} :
    (w.changeTask i f).tasks[i]? = (w.tasks[i]?).map f := by
  simp [World.changeTask]

/-- To change a task leaves every other one as it is. -/
lemma tasks_changeTask_ne {w : World κ υ} {i j f} (other : i ≠ j) :
    (w.changeTask i f).tasks[j]? = w.tasks[j]? := by
  simp [World.changeTask, other]

/-- A server that is changed is found changed. -/
@[simp] lemma servers_changeServer {w : World κ υ} {i f} :
    (w.changeServer i f).servers[i]? = (w.servers[i]?).map f := by
  simp [World.changeServer]

/-- To change a server leaves every other one as it is. -/
lemma servers_changeServer_ne {w : World κ υ} {i j f} (other : i ≠ j) :
    (w.changeServer i f).servers[j]? = w.servers[j]? := by
  simp [World.changeServer, other]

/-- No task of the server has yet to take its first turn. -/
def Settled (id : Nat) (w : World κ υ) : Prop :=
  ∀ (i : Nat) (t : ServeTask), w.tasks[i]? = some t → t.server = id → t.progress ≠ .spawned

/-- From one world to another, a task goes on, and a server that has bound keeps its address. -/
structure Spares (id task : Nat) (w w' : World κ υ) : Prop where
  settled : w.Settled id → w'.Settled id
  address : w.Settled id →
    (w'.servers[id]?).map Server.localAddress = (w.servers[id]?).map Server.localAddress
  goes : ∀ t, w.tasks[task]? = some t → ∃ t', w'.tasks[task]? = some t' ∧ t.Goes t'

namespace Spares

variable {id task : Nat} {w w' w'' : World κ υ}

/-- A world spares everything for itself. -/
lemma refl : Spares id task w w :=
  ⟨fun settled => settled, fun _ => rfl, fun t here => ⟨t, here, .refl⟩⟩

/-- What is spared twice is spared. -/
lemma trans (first : Spares id task w w') (rest : Spares id task w' w'') :
    Spares id task w w'' := by
  constructor
  · exact fun settled => rest.settled (first.settled settled)
  · exact fun settled => (rest.address (first.settled settled)).trans (first.address settled)
  · intro t here
    obtain ⟨t', here', goes⟩ := first.goes t here
    obtain ⟨t'', here'', goes'⟩ := rest.goes t' here'
    exact ⟨t'', here'', goes.trans goes'⟩

/-- Servers and tasks are all that counts. -/
lemma of_eq (servers : w'.servers = w.servers) (tasks : w'.tasks = w.tasks) :
    Spares id task w w' := by
  constructor
  · intro settled
    rw [Settled, tasks]
    exact settled
  · intro _
    rw [servers]
  · intro t here
    rw [tasks]
    exact ⟨t, here, .refl⟩

/-- A task goes on. -/
lemma changeTask {i f} (goes : ∀ t, w.tasks[i]? = some t → t.Goes (f t)) :
    Spares id task w (w.changeTask i f) := by
  have after : ∀ (j : Nat) (t' : ServeTask), (w.changeTask i f).tasks[j]? = some t' →
      ∃ t, w.tasks[j]? = some t ∧ t.Goes t' := by
    intro j t' here
    by_cases same : i = j
    · subst same
      rw [tasks_changeTask, Option.map_eq_some_iff] at here
      obtain ⟨t, here, rfl⟩ := here
      exact ⟨t, here, goes t here⟩
    · rw [tasks_changeTask_ne same] at here
      exact ⟨t', here, .refl⟩
  constructor
  · intro settled j t' here belongs
    obtain ⟨t, before, goes⟩ := after j t' here
    rw [goes.server] at belongs
    exact fun spawned => settled j t before belongs (goes.spawned spawned)
  · intro _
    rfl
  · intro t here
    by_cases same : i = task
    · subst same
      refine ⟨f t, ?_, goes t here⟩
      rw [tasks_changeTask, here, Option.map_some]
    · refine ⟨t, ?_, .refl⟩
      rw [tasks_changeTask_ne same, here]

/-- A server changes, and keeps its address. -/
lemma changeServer {i f}
    (keeps : i = id → w.Settled id → ∀ s, (f s).localAddress = s.localAddress) :
    Spares id task w (w.changeServer i f) := by
  constructor
  · exact fun settled => settled
  · intro settled
    by_cases same : i = id
    · subst same
      cases here : w.servers[i]? with
      | none => simp [here]
      | some s => simp [here, keeps rfl settled s]
    · rw [servers_changeServer_ne same]
  · intro t here
    exact ⟨t, here, .refl⟩

/-! ## Turns -/

/-- To close a listener touches neither the progress of a task nor an address. -/
lemma closeListener {i} : Spares id task w (w.closeListener i) := by
  unfold World.closeListener
  split
  · exact refl
  · refine trans ?_ (changeTask fun t _ => ?_)
    · exact of_eq rfl rfl
    · exact .of_eq rfl rfl rfl rfl rfl

/-- A task that ends goes on, and the servers are as they were. -/
lemma endTask {i panicked} : Spares id task w (w.endTask i panicked) := by
  refine trans closeListener (changeTask fun t _ => ?_)
  exact ⟨rfl, fun h => (nomatch h), fun _ => rfl, fun h => h, fun h => h, fun _ h => h⟩

/-- In its first turn, a task may bind the address of its server. -/
lemma firstTurn {i t} (here : w.tasks[i]? = some t) (spawned : t.progress = .spawned) :
    Spares id task w (w.firstTurn i t) := by
  have serves : ∀ {listening t'}, some t' = some t →
      t'.Goes { t' with progress := .serving, listening := listening } := by
    intro listening t' same
    cases same
    refine .of_live ?_ rfl (fun h => (nomatch h)) rfl rfl
    rw [ServeTask.hasEnded, spawned]
  unfold World.firstTurn
  split
  · exact refl
  · split
    · refine changeTask fun t' here' => ?_
      exact serves (here'.symm.trans here)
    · split
      · dsimp only
        refine trans (trans ?_ (changeTask fun t' _ => ?_)) endTask
        · exact of_eq rfl rfl
        · exact .of_eq rfl rfl rfl rfl rfl
      · dsimp only
        refine trans (trans ?_ (changeServer fun belongs settled => ?_))
          (changeTask fun t' here' => ?_)
        · exact of_eq rfl rfl
        · -- a task that is to bind the server's own address contradicts that the server has bound
          exact absurd spawned (settled i t here belongs)
        · exact serves (here'.symm.trans here)

/-- A turn of a task that serves lets it go on. -/
lemma servingTurn {i} : Spares id task w (w.servingTurn i) := by
  unfold World.servingTurn
  split
  · exact refl
  · split
    · exact refl
    · split
      · exact endTask
      · exact closeListener

/-- A turn of any task spares servers that have bound. -/
lemma taskTurn {i} : Spares id task w (w.taskTurn i) := by
  unfold World.taskTurn
  dsimp only
  have settles : Spares id task w (w.changeTask i (ServeTask.settleExchanges w.now)) := by
    refine changeTask fun t _ => ⟨rfl, fun h => h, fun h => h, fun h => h, fun h => h, fun _ => ?_⟩
    exact ServeTask.isQuiet_settleExchanges
  refine trans settles ?_
  split
  · exact refl
  next t here =>
    split
    · exact refl
    · unfold World.liveTurn
      split
      · exact endTask
      · split
        next spawned => exact trans (firstTurn here spawned) servingTurn
        next => exact servingTurn

/-! ## Incidents -/

/-- A report of a task that is taken in lets the task go on. -/
lemma takeReport {i e} : Spares id task w (w.takeReport i e) := by
  unfold World.takeReport
  dsimp only
  have reports : Spares id task w
      (w.changeTask i fun t => { t with slot := (t.slot.report e).2 }) :=
    changeTask fun t _ => .of_eq rfl rfl rfl rfl rfl
  split
  · exact trans reports (of_eq rfl rfl)
  · exact reports

/-- What happens to a task that has not ended spares what it spares then. -/
lemma ifLive {i f}
    (spares : (w.tasks[i]?).any (fun t => !t.hasEnded) = true → Spares id task w (f w)) :
    Spares id task w (w.ifLive i f) := by
  unfold World.ifLive
  split
  next live => exact spares live
  next => exact refl

/-- An incident spares servers that have bound. -/
lemma meet {incident} : Spares id task w (w.meet incident) := by
  cases incident with
  | cancellation => exact of_eq rfl rfl
  | signal => exact of_eq rfl rfl
  | exchange i x =>
    refine ifLive fun live => changeTask fun t here => ?_
    simp only [here, Option.any_some, Bool.not_eq_true'] at live
    rw [ServeTask.addExchange]
    split
    · exact .of_live live rfl (fun h => h) rfl rfl
    · exact .refl
  | report => exact ifLive fun _ => takeReport
  | ending => exact ifLive fun _ => endTask

/-- Steps that spare the task and the server do so one after the other. -/
lemma foldl {γ : Type} {f : World κ υ → γ → World κ υ} {xs : List γ}
    (spares : ∀ w x, Spares id task w (f w x)) : Spares id task w (xs.foldl f w) := by
  induction xs generalizing w with
  | nil => exact refl
  | cons x rest ih => exact trans (spares w x) ih

/-- So do all incidents that are due. -/
lemma meetDue : Spares id task w w.meetDue := by
  unfold World.meetDue
  refine trans ?_ (foldl fun _ _ => meet)
  exact of_eq rfl rfl

/-- Everything that comes about at an instant spares servers and tasks. -/
lemma settle : Spares id task w w.settle :=
  trans meetDue (foldl fun _ _ => taskTurn)

/-- The passing of time spares servers and tasks. -/
theorem passes (passes : World.clockwork.Passes w w') : Spares id task w w' := by
  induction passes with
  | refl => exact refl
  | settle _ ih => exact trans settle ih
  | advance _ _ ih =>
    refine trans ?_ ih
    exact of_eq rfl rfl

end Spares

/-! ## Ends of tasks -/

end World

/-- The task is past its first turn, is forced if it is aborted, and quiet if it has ended. -/
structure Server.ServeTask.IsOrderly (t : ServeTask) : Prop where
  turned : t.progress ≠ .spawned
  forced : t.aborted = true → t.forced = true
  quiet : t.hasEnded = true → t.IsQuiet

/-- Order is about the stage of a task, what it is told, and its exchanges. -/
lemma Server.ServeTask.IsOrderly.of_eq {t t' : ServeTask} (h : t.IsOrderly)
    (progress : t'.progress = t.progress) (forced : t'.forced = t.forced)
    (aborted : t'.aborted = t.aborted) (quiet : t.IsQuiet → t'.IsQuiet) : t'.IsOrderly where
  turned := progress ▸ h.turned
  forced k := forced.trans (h.forced (aborted.symm.trans k))
  quiet ended := quiet (h.quiet (by rwa [hasEnded, progress] at ended))

namespace World

/-- A task ends in order, when it is drained or aborted: nothing ends it out of turn. -/
structure Orderly (task : Nat) (w : World κ υ) : Prop where
  tasks : ∀ t, w.tasks[task]? = some t → t.IsOrderly
  incidents : ∀ i ∈ w.incidents, ∀ panicked, i.2 ≠ .ending task panicked

namespace Orderly

variable {task : Nat} {w w' : World κ υ}

/-- Order is about the tasks and the incidents. -/
lemma of_eq (h : w.Orderly task) (tasks : w'.tasks = w.tasks)
    (incidents : w'.incidents = w.incidents) : w'.Orderly task where
  tasks := tasks ▸ h.tasks
  incidents := incidents ▸ h.incidents

/-- To change a task keeps another one in order, and the same one if it stays orderly. -/
lemma changeTask {i f} (h : w.Orderly task)
    (keeps : i = task → ∀ t, w.tasks[task]? = some t → (f t).IsOrderly) :
    (w.changeTask i f).Orderly task where
  tasks t' here := by
    by_cases same : i = task
    · subst same
      rw [tasks_changeTask, Option.map_eq_some_iff] at here
      obtain ⟨t, here, rfl⟩ := here
      exact keeps rfl t here
    · rw [tasks_changeTask_ne same] at here
      exact h.tasks t' here
  incidents := h.incidents

/-- To close a listener keeps a task in order. -/
lemma closeListener {i} (h : w.Orderly task) : (w.closeListener i).Orderly task := by
  unfold World.closeListener
  split
  · exact h
  · refine changeTask (h.of_eq rfl rfl) fun _ t here => ?_
    exact (h.tasks t here).of_eq rfl rfl rfl fun quiet => quiet

/-- To close a listener leaves the exchanges as they are. -/
lemma exchanges_closeListener {i t'} (here : (w.closeListener i).tasks[task]? = some t') :
    ∃ t, w.tasks[task]? = some t ∧ t'.exchanges = t.exchanges := by
  unfold World.closeListener at here
  split at here
  · exact ⟨t', here, rfl⟩
  · by_cases same : i = task
    · subst same
      rw [tasks_changeTask, Option.map_eq_some_iff] at here
      obtain ⟨t, here, rfl⟩ := here
      exact ⟨t, here, rfl⟩
    · rw [tasks_changeTask_ne same] at here
      exact ⟨t', here, rfl⟩

/-- The end of a task is in order if the task is quiet then. -/
lemma endTask {i panicked} (h : w.Orderly task)
    (quiet : i = task → ∀ t, w.tasks[task]? = some t → t.IsQuiet) :
    (w.endTask i panicked).Orderly task := by
  refine changeTask h.closeListener fun same t' here' => ?_
  obtain ⟨t, here, exchanges⟩ := exchanges_closeListener here'
  refine ⟨fun spawned => (nomatch spawned), (h.closeListener.tasks t' here').forced, fun _ => ?_⟩
  rw [ServeTask.IsQuiet, exchanges]
  exact quiet same t here

/-- The first turn of a task leaves no exchange behind. -/
lemma firstTurn {i t} (h : w.Orderly task) (here : w.tasks[i]? = some t)
    (spawned : t.progress = .spawned) : (w.firstTurn i t).Orderly task := by
  -- the task itself has had its first turn, so this one is another's
  have other : i ≠ task := by
    rintro rfl
    exact (h.tasks t here).turned spawned
  have skips {w : World κ υ} {f} (h : w.Orderly task) : (w.changeTask i f).Orderly task :=
    h.changeTask fun same => absurd same other
  unfold World.firstTurn
  split
  · exact h
  · split
    · exact skips h
    · split
      · dsimp only
        exact endTask (skips (h.of_eq rfl rfl)) fun same => absurd same other
      · dsimp only
        exact skips (h.of_eq rfl rfl)

/-- A task that serves ends when it is drained or aborted, which is in order. -/
lemma servingTurn {i} (h : w.Orderly task) : (w.servingTurn i).Orderly task := by
  unfold World.servingTurn
  split
  · exact h
  next t here =>
    split
    · exact h
    · split
      next drained =>
        refine endTask h fun same t' here' => ?_
        subst same
        cases here.symm.trans here'
        rw [ServeTask.isDrained, Bool.and_eq_true, Bool.not_eq_true'] at drained
        exact drained.2
      next => exact closeListener h

/-- A turn of any task keeps a task in order. -/
lemma taskTurn {i} (h : w.Orderly task) : (w.taskTurn i).Orderly task := by
  unfold World.taskTurn
  dsimp only
  have settled : (w.changeTask i (ServeTask.settleExchanges w.now)).Orderly task := by
    refine h.changeTask fun _ t here => ?_
    exact (h.tasks t here).of_eq rfl rfl rfl ServeTask.isQuiet_settleExchanges
  split
  · exact settled
  next t here =>
    split
    · exact settled
    · unfold World.liveTurn
      split
      next aborted =>
        -- aborted tasks are forced, and this turn has ended the exchanges of a forced one
        refine endTask settled fun same t' here' => ?_
        subst same
        cases here.symm.trans here'
        have forced := (settled.tasks t here).forced aborted
        rw [tasks_changeTask, Option.map_eq_some_iff] at here
        obtain ⟨t, -, rfl⟩ := here
        exact ServeTask.isQuiet_settleExchanges_of_forced forced
      next =>
        split
        next spawned => exact servingTurn (firstTurn settled here spawned)
        next => exact servingTurn settled

/-- A report that is taken in keeps a task in order. -/
lemma takeReport {i e} (h : w.Orderly task) : (w.takeReport i e).Orderly task := by
  unfold World.takeReport
  dsimp only
  have reported :
      (w.changeTask i fun t => { t with slot := (t.slot.report e).2 }).Orderly task := by
    refine h.changeTask fun _ t here => ?_
    exact (h.tasks t here).of_eq rfl rfl rfl fun quiet => quiet
  split
  · exact reported.of_eq rfl rfl
  · exact reported

/-- An incident keeps a task in order, unless it is the end of that task. -/
lemma meet {incident} (h : w.Orderly task)
    (orderly : ∀ panicked, incident ≠ .ending task panicked) :
    (w.meet incident).Orderly task := by
  cases incident with
  | cancellation => exact h.of_eq rfl rfl
  | signal => exact h.of_eq rfl rfl
  | exchange i x =>
    simp only [World.meet, World.ifLive]
    split
    next live =>
      refine h.changeTask fun same t here => ?_
      subst same
      rw [here, Option.any_some, Bool.not_eq_true'] at live
      unfold ServeTask.addExchange
      split
      · refine ⟨(h.tasks t here).turned, (h.tasks t here).forced, fun ended => ?_⟩
        exact absurd (live.symm.trans ended) Bool.false_ne_true
      · exact h.tasks t here
    next => exact h
  | report =>
    simp only [World.meet, World.ifLive]
    split
    · exact h.takeReport
    · exact h
  | ending i panicked =>
    simp only [World.meet, World.ifLive]
    split
    · refine h.endTask fun same => ?_
      subst same
      exact absurd rfl (orderly panicked)
    · exact h

/-- Steps that keep a task in order do so one after the other. -/
lemma foldl {γ : Type} {f : World κ υ → γ → World κ υ} {xs : List γ} (h : w.Orderly task)
    (keeps : ∀ x ∈ xs, ∀ w : World κ υ, w.Orderly task → (f w x).Orderly task) :
    (xs.foldl f w).Orderly task := by
  induction xs generalizing w with
  | nil => exact h
  | cons x rest ih =>
    rw [List.forall_mem_cons] at keeps
    exact ih (keeps.1 w h) keeps.2

/-- The background keeps a task in order while it settles. -/
lemma settle (h : w.Orderly task) : w.settle.Orderly task := by
  unfold World.settle World.meetDue
  refine foldl (foldl ?_ fun i due _ kept => ?_) fun _ _ _ kept => kept.taskTurn
  · exact ⟨h.tasks, fun i member => h.incidents i (List.mem_filter.1 member).1⟩
  · exact kept.meet (h.incidents i (List.mem_filter.1 due).1)

/-- As time passes, a task that ends in order goes on to do so. -/
theorem passes (h : w.Orderly task) (passes : World.clockwork.Passes w w') : w'.Orderly task := by
  induction passes with
  | refl => exact h
  | settle _ ih => exact ih h.settle
  | advance _ _ ih => exact ih (h.of_eq rfl rfl)

end Orderly

/-- The task has ended, and no exchange of it is open. -/
def Gone (task : Nat) (w : World κ υ) : Prop :=
  ∃ t, w.tasks[task]? = some t ∧ t.hasEnded = true ∧ t.IsQuiet

/-- The task is gone, or goes with its next turn. -/
def Leaves (task : Nat) (w : World κ υ) : Prop :=
  ∃ t, w.tasks[task]? = some t ∧
    (t.hasEnded = true ∧ t.IsQuiet ∨ t.forced = true ∧ t.aborted = true)

section
variable {id task : Nat} {w w' : World κ υ}

/-- A task that is gone stays so as tasks go on. -/
lemma Gone.spares (gone : w.Gone task) (spares : Spares id task w w') : w'.Gone task := by
  obtain ⟨t, here, ended, quiet⟩ := gone
  obtain ⟨t', here', goes⟩ := spares.goes t here
  exact ⟨t', here', goes.ended ended, goes.quiet ended quiet⟩

/-- A task that leaves will do so as tasks go on. -/
lemma Leaves.spares (leaves : w.Leaves task) (spares : Spares id task w w') :
    w'.Leaves task := by
  obtain ⟨t, here, state⟩ := leaves
  obtain ⟨t', here', goes⟩ := spares.goes t here
  refine ⟨t', here', ?_⟩
  obtain ⟨ended, quiet⟩ | ⟨forced, aborted⟩ := state
  · exact .inl ⟨goes.ended ended, goes.quiet ended quiet⟩
  · exact .inr ⟨goes.forced forced, goes.aborted aborted⟩

/-- The end of a quiet task leaves nothing of it. -/
lemma gone_endTask {t} {panicked} (here : w.tasks[task]? = some t) (quiet : t.IsQuiet) :
    (w.endTask task panicked).Gone task := by
  have closes : Spares task task w (w.closeListener task) := .closeListener
  obtain ⟨t', here', -⟩ := closes.goes t here
  obtain ⟨t'', here'', exchanges⟩ := Orderly.exchanges_closeListener here'
  cases here.symm.trans here''
  refine ⟨_, by rw [endTask, tasks_changeTask, here', Option.map_some], rfl, ?_⟩
  rw [ServeTask.IsQuiet, exchanges]
  exact quiet

/-- With its next turn, a task that leaves is gone. -/
lemma Leaves.taskTurn (leaves : w.Leaves task) : (w.taskTurn task).Gone task := by
  obtain ⟨t, here, state⟩ := leaves
  have turned : (w.changeTask task (ServeTask.settleExchanges w.now)).tasks[task]? =
      some (t.settleExchanges w.now) := by
    rw [tasks_changeTask, here, Option.map_some]
  have quiet : (t.settleExchanges w.now).IsQuiet := by
    obtain ⟨-, quiet⟩ | ⟨forced, -⟩ := state
    · exact ServeTask.isQuiet_settleExchanges quiet
    · exact ServeTask.isQuiet_settleExchanges_of_forced forced
  rw [World.taskTurn]
  simp only [turned]
  split
  next ended => exact ⟨_, turned, ended, quiet⟩
  next live =>
    obtain ⟨ended, -⟩ | ⟨-, aborted⟩ := state
    · exact absurd ended live
    · have aborted : (t.settleExchanges w.now).aborted = true := aborted
      rw [liveTurn, if_pos aborted]
      exact gone_endTask turned quiet

/-- A task that leaves is gone when the background has come to rest. -/
theorem Leaves.settle (leaves : w.Leaves task) : w.settle.Gone task := by
  have turns (is : List Nat) (member : task ∈ is) {w : World κ υ} (leaves : w.Leaves task) :
      (is.foldl World.taskTurn w).Gone task := by
    induction is generalizing w with
    | nil => cases member
    | cons i rest ih =>
      by_cases same : i = task
      · subst same
        have spares : Spares i i (w.taskTurn i) (rest.foldl World.taskTurn (w.taskTurn i)) :=
          .foldl fun _ _ => .taskTurn
        exact leaves.taskTurn.spares spares
      · have turns : Spares task task w (w.taskTurn i) := .taskTurn
        exact ih (List.mem_of_ne_of_mem (Ne.symm same) member) (leaves.spares turns)
  have met : Spares task task w w.meetDue := .meetDue
  obtain ⟨t, here, -⟩ := id leaves
  have member : task ∈ List.range w.tasks.length :=
    List.mem_range.2 (List.getElem?_eq_some_iff.1 here).1
  exact turns _ member (leaves.spares met)

end

end World

end Supervision
