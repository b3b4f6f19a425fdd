import Supervision.Proofs.Visits

/-!
# Binds that fail

Whether the address of a server can be bound is up to its host. An HTTP server tries in the first
turn of its task, a gRPC server in its launch. `World.binding` is the setting of an activity that is
alone with the background, in which the binds of serve tasks come out as `refuses` says: why a
server cannot bind its address, if it cannot. A task that cannot bind (`World.CannotBind`) has not
tried yet, or has its failure in its slot; by `World.Lives.cannotBind` it stays so.
-/

namespace Supervision
open Net Server

variable {κ υ : Type} {id i j k : Nat} {e : ServerError} {w w' u v : World κ υ}

/-! ## What a server is made of -/

namespace World

/-- What a server is made of. -/
def make (id : Nat) (w : World κ υ) : Option Server :=
  (w.servers[id]?).map Server.blank

/-- A server of the same make has the same kind, address and timeout. -/
lemma server_of_make {s : Server} (make : w.make id = some s.blank) :
    ∃ s', w.servers[id]? = some s' ∧ s'.kind = s.kind ∧ s'.address = s.address ∧
      s'.timeoutMs = s.timeoutMs := by
  obtain ⟨s', here, same⟩ := Option.map_eq_some_iff.1 make
  refine ⟨s', here, ?_, ?_, ?_⟩
  · have kind : s'.blank.kind = s.blank.kind := congrArg Server.kind same
    exact kind
  · have address : s'.blank.address = s.blank.address := congrArg Server.address same
    exact address
  · have timeoutMs : s'.blank.timeoutMs = s.blank.timeoutMs := congrArg Server.timeoutMs same
    exact timeoutMs

/-- Servers change what they remember at most. -/
def SameMakes (w w' : World κ υ) : Prop :=
  ∀ id, w'.make id = w.make id

namespace SameMakes

/-- A world has the makes of itself. -/
lemma refl : SameMakes w w :=
  fun _ => rfl

/-- The same makes through two steps are the same makes. -/
lemma trans (first : SameMakes w w') (rest : SameMakes w' u) : SameMakes w u :=
  fun id => (rest id).trans (first id)

/-- The same servers have the same makes. -/
lemma of_eq (servers : w'.servers = w.servers) : SameMakes w w' := by
  intro id
  rw [World.make, servers, World.make]

/-- A change that leaves alone what a server is made of changes no make. -/
lemma changeServer {f : Server → Server} (keeps : ∀ s, (f s).blank = s.blank) :
    SameMakes w (w.changeServer i f) := by
  intro id
  rw [World.make, World.make]
  by_cases same : i = id
  · subst same
    rw [servers_changeServer, Option.map_map]
    exact congrArg (Option.map · _) (funext keeps)
  · rw [servers_changeServer_ne same]

/-- Many steps that change no make change none. -/
lemma foldl {γ : Type} {f : World κ υ → γ → World κ υ} {xs : List γ}
    (each : ∀ w x, SameMakes w (f w x)) : SameMakes w (xs.foldl f w) := by
  induction xs generalizing w with
  | nil => exact refl
  | cons x rest ih => exact trans (each w x) ih

end SameMakes

/-- Closing a listener leaves the servers alone. -/
lemma servers_closeListener : (w.closeListener i).servers = w.servers := by
  unfold closeListener
  split <;> rfl

/-- The end of a task leaves the servers alone. -/
lemma servers_endTask {panicked} : (w.endTask i panicked).servers = w.servers :=
  servers_closeListener

/-- A serving turn leaves the servers alone. -/
lemma servers_servingTurn : (w.servingTurn i).servers = w.servers := by
  unfold servingTurn
  split
  · rfl
  · split
    · rfl
    · split
      · exact servers_endTask
      · exact servers_closeListener

/-- An incident leaves the servers alone. -/
lemma servers_meet {incident} : (w.meet incident).servers = w.servers := by
  cases incident with
  | cancellation => rfl
  | signal => rfl
  | exchange =>
    simp only [meet, ifLive]
    split <;> rfl
  | report =>
    simp only [meet, ifLive]
    split
    · unfold takeReport
      dsimp only
      split <;> rfl
    · rfl
  | ending =>
    simp only [meet, ifLive]
    split
    · exact servers_endTask
    · rfl

/-- A first turn changes no make: it gives its server an address at most. -/
lemma sameMakes_firstTurn {t : ServeTask} : SameMakes w (w.firstTurn i t) := by
  unfold firstTurn
  split
  · exact .refl
  · split
    · exact .of_eq rfl
    · split
      · exact .of_eq servers_endTask
      next address host _ =>
        have binds : SameMakes { w with host := host }
            (changeServer t.server (fun s => { s with localAddress := some address })
              { w with host := host }) := .changeServer fun _ => rfl
        exact SameMakes.trans (.of_eq rfl) binds

/-- No turn of a task changes a make. -/
lemma sameMakes_taskTurn : SameMakes w (w.taskTurn i) := by
  unfold taskTurn
  dsimp only
  split
  · exact .of_eq rfl
  · split
    · exact .of_eq rfl
    · unfold liveTurn
      split
      · exact .of_eq servers_endTask
      · split
        · refine SameMakes.trans ?_ (.of_eq servers_servingTurn)
          exact SameMakes.trans (.of_eq rfl) sameMakes_firstTurn
        · exact .of_eq servers_servingTurn

/-- Incidents that are due change no make. -/
lemma sameMakes_meetDue : SameMakes w w.meetDue :=
  SameMakes.trans (.of_eq rfl) (.foldl fun _ _ => .of_eq servers_meet)

/-- Settling changes no make. -/
lemma sameMakes_settle : SameMakes w w.settle :=
  sameMakes_meetDue.trans (.foldl fun _ _ => sameMakes_taskTurn)

/-- No make changes as time passes. -/
lemma sameMakes_passes (passes : World.clockwork.Passes w u) : SameMakes w u := by
  induction passes with
  | refl => exact .refl
  | settle _ ih => exact sameMakes_settle.trans ih
  | advance _ _ ih => exact SameMakes.trans (.of_eq rfl) ih

end World

/-! ## Tasks that cannot bind -/

/-- Who the task is, how far it has come, and what it has reported, are the same. -/
structure Server.ServeTask.Alike (t t' : ServeTask) : Prop where
  server : t'.server = t.server
  progress : t'.progress = t.progress
  aborted : t'.aborted = t.aborted
  slot : t'.slot = t.slot

/-- The task is still to find that it cannot bind, or has reported so and ended. -/
inductive Server.ServeTask.Fails (e : ServerError) (t : ServeTask) : Prop where
  | untried :
    t.progress = .spawned →
    t.aborted = false →
    t.slot.reporting = true →
    Fails e t
  | failed :
    t.progress = .ended false →
    t.slot.content = some e →
    Fails e t

/-- A task that fails to bind does so in all tasks alike. -/
lemma Server.ServeTask.Alike.fails {t t' : ServeTask} (alike : t.Alike t') (fails : t.Fails e) :
    t'.Fails e := by
  cases fails with
  | untried spawned live reporting =>
    apply Fails.untried
    · rw [alike.progress, spawned]
    · rw [alike.aborted, live]
    · rw [alike.slot, reporting]
  | failed ended content =>
    apply Fails.failed
    · rw [alike.progress, ended]
    · rw [alike.slot, content]

/-- The task that does something by itself. -/
def Incident.doer? : Incident → Option Nat
  | .report k _ => some k
  | .ending k _ => some k
  | _ => none

namespace World

/-- Why a server cannot bind its address, if it cannot. -/
def bindFailure? (s : Server) (w : World κ υ) : Option ServerError :=
  match bindAddress s.address w.host with
  | .error e => some e
  | .ok _ => none

/-- The bind of a server comes out as `refuses` says. -/
def BindsAs (refuses : Nat → Option String) (id : Nat) (s : Server) (w : World κ υ) : Prop :=
  w.bindFailure? s = (refuses id).map (.bind s.address)

/-- A server fails to bind for the error that its address meets on the host. -/
lemma bindFailure?_eq_some {s : Server} :
    w.bindFailure? s = some e ↔ bindAddress s.address w.host = .error e := by
  unfold bindFailure?
  cases bindAddress s.address w.host <;> simp

/-- A server that does not fail to bind is bound to some address. -/
lemma bindFailure?_eq_none {s : Server} :
    w.bindFailure? s = none ↔ ∃ bound, bindAddress s.address w.host = .ok bound := by
  unfold bindFailure?
  cases bindAddress s.address w.host <;> simp

/-- The task of a server cannot bind. -/
def CannotBind (id k : Nat) (e : ServerError) (w : World κ υ) : Prop :=
  ∃ t, w.tasks[k]? = some t ∧ t.server = id ∧ t.Fails e

namespace CannotBind

/-- Whether a task cannot bind shows in itself. -/
lemma of_tasks (fails : w.CannotBind id k e) (same : w'.tasks[k]? = w.tasks[k]?) :
    w'.CannotBind id k e := by
  rw [CannotBind, same]
  exact fails

/-- A task still cannot bind after a change that keeps it alike. -/
lemma changeTask {f : ServeTask → ServeTask} (fails : w.CannotBind id k e)
    (alike : ∀ t : ServeTask, t.Alike (f t)) : (w.changeTask i f).CannotBind id k e := by
  by_cases same : i = k
  · subst same
    obtain ⟨t, here, server, fails⟩ := fails
    refine ⟨f t, ?_, (alike t).server.trans server, (alike t).fails fails⟩
    rw [tasks_changeTask, here, Option.map_some]
  · exact fails.of_tasks (tasks_changeTask_ne same)

/-- A task still cannot bind after a listener was closed. -/
lemma closeListener (fails : w.CannotBind id k e) : (w.closeListener i).CannotBind id k e := by
  unfold World.closeListener
  split
  · exact fails
  · exact changeTask (fails.of_tasks rfl) fun _ => ⟨rfl, rfl, rfl, rfl⟩

/-- A task that has reported may end once more. -/
lemma endTask {t : ServeTask} (here : w.tasks[k]? = some t) (server : t.server = id)
    (content : t.slot.content = some e) : (w.endTask k false).CannotBind id k e := by
  let t' : ServeTask :=
    { t with progress := .ended false, listening := none, slot := t.slot.drop.2 }
  have after : (w.endTask k false).tasks[k]? = some t' := by
    rw [World.endTask, tasks_changeTask, tasks_closeListener, here, Option.map_some,
      Option.map_some]
  exact ⟨t', after, server, .failed rfl content⟩

/-- The turn of a task that has tried. -/
lemma servingTurn {t : ServeTask} (here : w.tasks[k]? = some t) (server : t.server = id)
    (ended : t.progress = .ended false) (content : t.slot.content = some e) :
    (w.servingTurn k).CannotBind id k e := by
  have fails : w.CannotBind id k e := ⟨t, here, server, .failed ended content⟩
  unfold World.servingTurn
  split
  · exact fails
  · split
    · exact fails
    · split
      · exact endTask here server content
      · exact fails.closeListener

/-! ## Turns and incidents -/

/-- The first turn of a task that cannot bind. -/
lemma firstTurn {t : ServeTask} {s : Server} (here : w.tasks[k]? = some t) (own : t.server = id)
    (reporting : t.slot.reporting = true) (there : w.servers[id]? = some s)
    (kind : s.kind = .http) (fails : bindAddress s.address w.host = .error e) :
    ∃ t', (w.firstTurn k t).tasks[k]? = some t' ∧ t'.server = id ∧ t'.progress = .ended false ∧
      t'.slot.content = some e := by
  let reported : ServeTask := { t with slot := (t.slot.report e).2 }
  have first : w.firstTurn k t = World.endTask k false
      ((w.log (.bindFailed s.name e)).changeTask k fun t =>
        { t with slot := (t.slot.report e).2 }) := by
    simp only [World.firstTurn, own, there, kind, fails]
  have reports : ((w.log (.bindFailed s.name e)).changeTask k fun t =>
      { t with slot := (t.slot.report e).2 }).tasks[k]? = some reported := by
    rw [tasks_changeTask, log, here, Option.map_some]
  have content : reported.slot.content = some e := by
    show (t.slot.report e).2.content = some e
    rw [Slot.report, if_pos reporting]
  refine ⟨{ reported with
    progress := .ended false, listening := none, slot := reported.slot.drop.2 }, ?_, own, rfl,
    content⟩
  rw [first, World.endTask, tasks_changeTask, tasks_closeListener, reports, Option.map_some,
    Option.map_some]

/-- A task that cannot bind finds so in its first turn. -/
lemma taskTurn (fails : w.CannotBind id k e)
    (binds : ∀ t, w.tasks[k]? = some t → t.progress = .spawned → t.aborted = false →
      ∃ s, w.servers[id]? = some s ∧ s.kind = .http ∧
        bindAddress s.address w.host = .error e) : (w.taskTurn i).CannotBind id k e := by
  by_cases other : i = k
  · subst other
    obtain ⟨t, here, own, fails⟩ := fails
    let v := w.changeTask i (ServeTask.settleExchanges w.now)
    have here' : v.tasks[i]? = some (t.settleExchanges w.now) := by
      rw [tasks_changeTask, here, Option.map_some]
    cases fails with
    -- the exchanges are settled before the first turn, and do not matter to it
    | untried spawned unaborted reporting =>
      obtain ⟨s, there, kind, fails⟩ := binds t here spawned unaborted
      obtain ⟨t', after, own', ended, content⟩ :=
        firstTurn (w := v) here' own reporting there kind fails
      have live : (t.settleExchanges w.now).hasEnded = false := by
        show t.hasEnded = false
        rw [ServeTask.hasEnded, spawned]
      have turn : w.taskTurn i = World.servingTurn i (v.firstTurn i (t.settleExchanges w.now)) := by
        have unaborted : (t.settleExchanges w.now).aborted = false := unaborted
        have spawned : (t.settleExchanges w.now).progress = .spawned := spawned
        rw [taskTurn_some here]
        dsimp only
        simp only [live, liveTurn, unaborted, spawned, Bool.false_eq_true, if_false]
        rfl
      rw [turn]
      exact servingTurn after own' ended content
    | failed ended content =>
      have turn : w.taskTurn i = v := by
        have ended : (t.settleExchanges w.now).hasEnded = true := by
          show t.hasEnded = true
          rw [ServeTask.hasEnded, ended]
        rw [taskTurn_some here]
        exact if_pos ended
      rw [turn]
      exact ⟨_, here', own, .failed ended content⟩
  · exact fails.of_tasks (tasks_taskTurn_ne other)

/-- A task still cannot bind after a turn of another one, or of its own once it has tried. -/
lemma ifLive {f : World κ υ → World κ υ} (fails : w.CannotBind id k e)
    (others : i ≠ k → (f w).tasks[k]? = w.tasks[k]?)
    (tried : i = k → ∀ t, w.tasks[k]? = some t → t.progress ≠ .spawned) :
    (w.ifLive i f).CannotBind id k e := by
  by_cases same : i = k
  · subst same
    have fails' := fails
    obtain ⟨t, here, own, fails⟩ := fails
    cases fails with
    | untried spawned _ _ => exact absurd spawned (tried rfl t here)
    | failed ended _ =>
      -- a task that has ended does nothing any more
      have silent : (w.tasks[i]?).any (fun t => !t.hasEnded) = false := by
        rw [here, Option.any_some, ServeTask.hasEnded, ended]
        rfl
      rw [World.ifLive, if_neg (by simp [silent])]
      exact fails'
  · unfold World.ifLive
    split
    · exact fails.of_tasks (others same)
    · exact fails

/-- A task still cannot bind after an incident, if it has tried before it does something by
itself. -/
lemma meet {incident : Incident} (fails : w.CannotBind id k e)
    (tried : incident.doer? = some k → ∀ t, w.tasks[k]? = some t → t.progress ≠ .spawned) :
    (w.meet incident).CannotBind id k e := by
  cases incident with
  | cancellation => exact fails.of_tasks rfl
  | signal => exact fails.of_tasks rfl
  | exchange i x =>
    have adds : ∀ t : ServeTask, t.Alike (t.addExchange x) := by
      intro t
      unfold ServeTask.addExchange
      split <;> exact ⟨rfl, rfl, rfl, rfl⟩
    show (w.ifLive i (World.changeTask i (ServeTask.addExchange x))).CannotBind id k e
    unfold World.ifLive
    split
    · exact fails.changeTask adds
    · exact fails
  | report i e' =>
    refine fails.ifLive (fun other => ?_) fun same => tried (congrArg some same)
    unfold takeReport
    dsimp only
    split
    · exact tasks_changeTask_ne other
    · exact tasks_changeTask_ne other
  | ending i panicked =>
    refine fails.ifLive (fun other => ?_) fun same => tried (congrArg some same)
    exact tasks_endTask_ne other

/-- Incidents that come about in order. -/
lemma meets {incidents : List (Nat × Incident)} (fails : w.CannotBind id k e)
    (tried : ∀ i ∈ incidents, i.2.doer? = some k →
      ∀ t, w.tasks[k]? = some t → t.progress ≠ .spawned) :
    (incidents.foldl (fun w i => w.meet i.2) w).CannotBind id k e := by
  induction incidents generalizing w with
  | nil => exact fails
  | cons i rest ih =>
    rw [List.forall_mem_cons] at tried
    have first : (w.meet i.2).CannotBind id k e := fails.meet tried.1
    apply ih first
    intro i' member doer t' here' spawned'
    -- what has tried before this incident has tried after it
    obtain ⟨t, here, server, -⟩ := fails
    have minds : Minds id none w (w.meet i.2) := .meet
    obtain ⟨t₁, here₁, server₁, -⟩ := first
    cases here₁.symm.trans here'
    obtain ⟨t₀, here₀, -, follows⟩ := minds.back k t' here' server₁
    cases here.symm.trans here₀
    exact tried.2 i' member doer t here (follows.goes.spawned spawned')

end CannotBind

/-! ## The background -/

/-- The world in which a task takes its turn when the background settles. -/
def turning (w : World κ υ) (k : Nat) : World κ υ :=
  (List.range k).foldl taskTurn w.meetDue

/-- The turns of a round are taken one by one. -/
lemma turning_succ : w.turning (k + 1) = (w.turning k).taskTurn k := by
  rw [turning, List.range_succ, List.foldl_append]
  rfl

/-- The turns of a round change no make. -/
lemma sameMakes_turning : SameMakes w (w.turning k) :=
  sameMakes_meetDue.trans (.foldl fun _ _ => sameMakes_taskTurn)

/-- Serve tasks do nothing by themselves before their first turns, and if they bind an address then,
it comes out as `refuses` says. -/
structure Allows (refuses : Nat → Option String) (w : World κ υ) : Prop where
  incidents : ∀ i ∈ w.incidents, i.1 ≤ w.now → ∀ k t, i.2.doer? = some k →
    w.tasks[k]? = some t → t.progress ≠ .spawned
  binds : ∀ k < w.tasks.length, ∀ t s, (w.turning k).tasks[k]? = some t → t.progress = .spawned →
    t.aborted = false → (w.turning k).servers[t.server]? = some s → s.kind = .http →
    (w.turning k).BindsAs refuses t.server s

/-- The background goes on, and lets time pass once it has settled. -/
inductive Lives (refuses : Nat → Option String) : World κ υ → World κ υ → Prop where
  | refl {w : World κ υ} :
    Lives refuses w w
  | settle {w u : World κ υ} :
    w.Allows refuses →
    Lives refuses w.settle u →
    Lives refuses w u
  | advance {w u : World κ υ} {next : Nat} :
    w.Allows refuses →
    w.now < next →
    Lives refuses { w.settle with now := next } u →
    Lives refuses w u

/-- The setting of an activity that is alone with the background. -/
def binding (refuses : Nat → Option String) : Setting (World κ υ) where
  between := Eq
  meanwhile := Lives refuses

variable {refuses : Nat → Option String} {s : Server}

/-- A world that lives on is a world in which time passes. -/
lemma Lives.passes (lives : w.Lives refuses u) : World.clockwork.Passes w u := by
  induction lives with
  | refl => exact .refl
  | settle _ _ ih => exact .settle ih
  | @advance w u next _ later _ ih =>
    refine .settle (.advance ?_ ih)
    show w.settle.now < next
    rwa [now_settle]

/-- A task cannot bind after the incidents that are due, since none is its own before its first
turn. -/
lemma CannotBind.meetDue (fails : w.CannotBind id k e) (allows : w.Allows refuses) :
    w.meetDue.CannotBind id k e := by
  have fails : World.CannotBind id k e
      { w with incidents := w.incidents.filter fun i => !(i.1 ≤ w.now) } := fails
  apply fails.meets
  intro i member doer t here
  obtain ⟨member, due⟩ := List.mem_filter.1 member
  exact allows.incidents i member (of_decide_eq_true due) k t doer here

/-- A task of a refused HTTP server does not come to bind while the background settles. -/
lemma CannotBind.turning {reason : String} (make : w.make id = some s.blank)
    (kind : s.kind = .http) (refused : refuses id = some reason)
    (fails : w.CannotBind id k (.bind s.address reason)) (allows : w.Allows refuses) {n : Nat}
    (inside : n ≤ w.tasks.length) : (w.turning n).CannotBind id k (.bind s.address reason) := by
  induction n with
  | zero => exact fails.meetDue allows
  | succ n ih =>
    have ih := ih (Nat.le_of_succ_le inside)
    rw [turning_succ]
    -- only its own first turn counts
    by_cases own : n = k
    · subst own
      apply ih.taskTurn
      intro t here spawned live
      obtain ⟨t', here', server, -⟩ := ih
      cases here.symm.trans here'
      have same : (w.turning n).make id = some s.blank := (sameMakes_turning id).trans make
      obtain ⟨s', there, kind', address, -⟩ := server_of_make same
      rw [← server] at there
      have binds := allows.binds n inside t s' here spawned live there (kind'.trans kind)
      rw [BindsAs, server, refused, address] at binds
      rw [server] at there
      exact ⟨s', there, kind'.trans kind, bindFailure?_eq_some.1 binds⟩
    · exact ih.of_tasks (tasks_taskTurn_ne own)

/-- A task that is to be refused still cannot bind once the background has settled. -/
lemma CannotBind.settle {reason : String} (make : w.make id = some s.blank)
    (kind : s.kind = .http) (refused : refuses id = some reason)
    (fails : w.CannotBind id k (.bind s.address reason)) (allows : w.Allows refuses) :
    w.settle.CannotBind id k (.bind s.address reason) :=
  fails.turning make kind refused allows le_rfl

/-- Once the background has settled, every server is settled. -/
lemma settled_settle (make : w.make id = some s.blank) : w.settle.Settled id := by
  intro i t here own spawned
  have hosted := (settle_rests.tasks i t here).hosted spawned
  have same : w.settle.make id = some s.blank := (sameMakes_settle id).trans make
  rw [World.make, ← own, hosted] at same
  cases same

/-- Once the background has settled, no task of the server has its first turn before it. -/
lemma Lives.settled (lives : w.Lives refuses u) (make : w.make id = some s.blank) :
    u = w ∨ u.Settled id := by
  have stays {v u : World κ υ} (settled : v.Settled id) (passes : World.clockwork.Passes v u) :
      u.Settled id := by
    have spares : v.Spares id 0 u := .passes passes
    exact spares.settled settled
  cases lives with
  | refl => exact .inl rfl
  | settle _ rest => exact .inr (stays (settled_settle make) rest.passes)
  | @advance _ _ next _ _ rest =>
    have settled : World.Settled id { w.settle with now := next } := settled_settle make
    exact .inr (stays settled rest.passes)

/-- A task that is to be refused cannot bind in any world in which the background lives on. -/
lemma Lives.cannotBind {reason : String} (lives : w.Lives refuses u)
    (make : w.make id = some s.blank) (kind : s.kind = .http) (refused : refuses id = some reason)
    (fails : w.CannotBind id k (.bind s.address reason)) :
    u.CannotBind id k (.bind s.address reason) := by
  induction lives with
  | refl => exact fails
  | settle allows _ ih =>
    exact ih ((sameMakes_settle id).trans make) (fails.settle make kind refused allows)
  | advance allows _ _ ih =>
    exact ih ((sameMakes_settle id).trans make) (fails.settle make kind refused allows)

end World

end Supervision
