import Supervision.Proofs.Crew
import Supervision.Proofs.Signals

/-!
# Attempts to bind

A server that was launched holds a task, and by the time anything waits, that task has tried to
bind: the server has an address then, or the task has reported why not (`World.HasTried`). A gRPC
server has tried before its task is spawned, an HTTP server has tried once the background has
settled (`World.Launched.settle`). Startups are over at once, and what they launch is launched in
order (`Plan.tryEach_launches`).
-/

namespace Supervision
open Activity Net Server

variable {κ υ α : Type} {id id' k k' n : Nat} {s s' : Server} {w w' u : World κ υ}

/-- An incident leaves a task alike that does nothing by itself. -/
lemma World.alike_meet {incident : Incident} {t : ServeTask} (silent : incident.doer? ≠ some k)
    (here : w.tasks[k]? = some t) :
    ∃ t', (w.meet incident).tasks[k]? = some t' ∧ t.Alike t' := by
  have alike : t.Alike t := ⟨rfl, rfl, rfl, rfl⟩
  have others {i : Nat} {f : World κ υ → World κ υ} (same : (f w).tasks[k]? = w.tasks[k]?) :
      ∃ t', (w.ifLive i f).tasks[k]? = some t' ∧ t.Alike t' := by
    unfold ifLive
    split
    · exact ⟨t, same.trans here, alike⟩
    · exact ⟨t, here, alike⟩
  cases incident with
  | cancellation => exact ⟨t, here, alike⟩
  | signal => exact ⟨t, here, alike⟩
  | exchange i x =>
    simp only [meet, ifLive]
    split
    · by_cases same : i = k
      · subst same
        refine ⟨t.addExchange x, ?_, ?_⟩
        · rw [tasks_changeTask, here, Option.map_some]
        · unfold ServeTask.addExchange
          split <;> exact ⟨rfl, rfl, rfl, rfl⟩
      · exact ⟨t, (tasks_changeTask_ne same).trans here, alike⟩
    · exact ⟨t, here, alike⟩
  | report i e =>
    have other : i ≠ k := fun same => silent (congrArg some same)
    apply others
    unfold takeReport
    dsimp only
    split <;> exact tasks_changeTask_ne other
  | ending i panicked =>
    have other : i ≠ k := fun same => silent (congrArg some same)
    exact others (tasks_endTask_ne other)

namespace World

/-! ## Servers with their tasks -/

/-- A server holds a task of its own. -/
structure Holds (id : Nat) (s : Server) (k : Nat) (w : World κ υ) : Prop where
  make : w.make id = some s.blank
  held : w.held id = some k
  task : ∃ t, w.tasks[k]? = some t ∧ t.server = id ∧ t.slot.IsSound

/-- What is besides a server does not change what it is made of. -/
lemma Besides.make (besides : Besides id w w') : w'.make id = w.make id := by
  cases besides with
  | turn => exact sameMakes_taskTurn id
  | incident => rw [World.make, servers_meet, World.make]
  | elsewhere elsewhere => rw [World.make, elsewhere.server, World.make]

namespace Holds

/-- What happens besides a server leaves its task with it. -/
lemma besides (holds : w.Holds id s k) (besides : Besides id w w') : w'.Holds id s k := by
  obtain ⟨news, minds⟩ := besides.minds
  obtain ⟨t, here, own, sound⟩ := holds.task
  refine ⟨besides.make.trans holds.make, minds.held.trans holds.held, ?_⟩
  obtain ⟨t', here', own'⟩ := minds.forth k ⟨t, here, own⟩
  obtain ⟨t₀, here₀, -, follows⟩ := minds.back k t' here' own'
  cases here.symm.trans here₀
  exact ⟨t', here', own', follows.slot.sound sound⟩

/-- The server and its task are all that counts. -/
lemma of_same (holds : w.Holds id s k) (server : w'.servers[id]? = w.servers[id]?)
    (task : w'.tasks[k]? = w.tasks[k]?) : w'.Holds id s k := by
  constructor
  · rw [World.make, server]
    exact holds.make
  · rw [World.held, server]
    exact holds.held
  · rw [task]
    exact holds.task

/-- The task of a server is one of the tasks. -/
lemma inside (holds : w.Holds id s k) : k < w.tasks.length := by
  obtain ⟨t, here, -⟩ := holds.task
  exact (List.getElem?_eq_some_iff.1 here).1

/-- Two servers hold different tasks. -/
lemma ne (holds : w.Holds id s k) (holds' : w.Holds id' s' k') (other : id' ≠ id) : k' ≠ k := by
  rintro rfl
  obtain ⟨t, here, own, -⟩ := holds.task
  obtain ⟨t', here', own', -⟩ := holds'.task
  cases here.symm.trans here'
  exact other (own'.symm.trans own)

end Holds

/-! ## Tasks that have tried -/

/-- The server has an address, or the task of an HTTP server has reported an error. -/
structure HasTried (id : Nat) (s : Server) (k : Nat) (w : World κ υ) : Prop
    extends w.Holds id s k where
  tried : w.addressOf id ≠ none ∨ s.kind = .http ∧ w.reported k ≠ none

namespace HasTried

/-- A server has still tried after something has happened besides it. -/
lemma besides (has : w.HasTried id s k) (besides : Besides id w w') : w'.HasTried id s k := by
  refine ⟨has.toHolds.besides besides, ?_⟩
  obtain ⟨news, minds⟩ := besides.minds
  obtain ⟨t, here, own, sound⟩ := has.task
  obtain bound | ⟨kind, reported⟩ := has.tried
  · left
    rw [minds.address]
    cases news with
    | none => exact bound
    | some => exact Option.some_ne_none _
  · right
    obtain ⟨e, reported⟩ := Option.ne_none_iff_exists'.1 reported
    refine ⟨kind, ?_⟩
    rw [minds.reported here own sound reported]
    exact Option.some_ne_none _

/-- A server has still tried when time has passed. -/
lemma passes (has : w.HasTried id s k) (passes : World.clockwork.Passes w u) :
    u.HasTried id s k := by
  have besides : Relation.ReflTransGen (Besides id) w u := besides_of_passes passes
  clear passes
  induction besides with
  | refl => exact has
  | tail _ step ih => exact ih.besides step

/-- Whether a server has tried shows in itself and in its task. -/
lemma of_same (has : w.HasTried id s k) (server : w'.servers[id]? = w.servers[id]?)
    (task : w'.tasks[k]? = w.tasks[k]?) : w'.HasTried id s k := by
  refine ⟨has.toHolds.of_same server task, ?_⟩
  rw [addressOf, server, reported, task]
  exact has.tried

end HasTried

/-! ## First turns -/

/-- Serve tasks do nothing by themselves at this instant. -/
def IsCalm (w : World κ υ) : Prop :=
  ∀ i ∈ w.incidents, i.1 ≤ w.now → i.2.doer? = none

/-- The task of an HTTP server is still to have its first turn. -/
structure IsFresh (id : Nat) (s : Server) (k : Nat) (w : World κ υ) : Prop where
  make : w.make id = some s.blank
  held : w.held id = some k
  kind : s.kind = .http
  task : ∃ t, w.tasks[k]? = some t ∧ t.server = id ∧ t.progress = .spawned ∧ t.aborted = false ∧
    t.slot = {}

namespace IsFresh

/-- A server whose task is fresh holds that task. -/
lemma holds (fresh : w.IsFresh id s k) : w.Holds id s k := by
  obtain ⟨t, here, own, -, -, slot⟩ := fresh.task
  refine ⟨fresh.make, fresh.held, t, here, own, ?_⟩
  rw [slot]
  exact fun _ => rfl

/-- Whether a task is fresh shows in its server and in itself. -/
lemma of_same (fresh : w.IsFresh id s k) (server : w'.servers[id]? = w.servers[id]?)
    (task : w'.tasks[k]? = w.tasks[k]?) : w'.IsFresh id s k := by
  have holds := fresh.holds.of_same server task
  refine ⟨holds.make, holds.held, fresh.kind, ?_⟩
  rw [task]
  exact fresh.task

/-- A task stays fresh while others do something. -/
lemma meet {incident : Incident} (fresh : w.IsFresh id s k) (silent : incident.doer? ≠ some k) :
    (w.meet incident).IsFresh id s k := by
  have holds := fresh.holds.besides (.incident incident)
  refine ⟨holds.make, holds.held, fresh.kind, ?_⟩
  obtain ⟨t, here, own, spawned, live, slot⟩ := fresh.task
  obtain ⟨t', here', alike⟩ := alike_meet silent here
  exact ⟨t', here', alike.server.trans own, alike.progress.trans spawned, alike.aborted.trans live,
    alike.slot.trans slot⟩

/-- A task stays fresh through the incidents of others. -/
lemma meets {incidents : List (Nat × Incident)} (fresh : w.IsFresh id s k)
    (silent : ∀ i ∈ incidents, i.2.doer? ≠ some k) :
    (incidents.foldl (fun w i => w.meet i.2) w).IsFresh id s k := by
  induction incidents generalizing w with
  | nil => exact fresh
  | cons i rest ih =>
    rw [List.forall_mem_cons] at silent
    exact ih (fresh.meet silent.1) silent.2

/-- A task stays fresh through the turns of others. -/
lemma turn_ne {i : Nat} (fresh : w.IsFresh id s k) (other : i ≠ k) :
    (w.taskTurn i).IsFresh id s k := by
  have holds := fresh.holds.besides (.turn i)
  refine ⟨holds.make, holds.held, fresh.kind, ?_⟩
  rw [tasks_taskTurn_ne other]
  exact fresh.task

/-- In its first turn, the task binds the address of its server, or reports why it cannot. -/
lemma turn (fresh : w.IsFresh id s k) : (w.taskTurn k).HasTried id s k := by
  refine ⟨fresh.holds.besides (.turn k), ?_⟩
  obtain ⟨t, here, rfl, spawned, unaborted, slot⟩ := fresh.task
  obtain ⟨server, there, kind, -⟩ := server_of_make fresh.make
  have kind : server.kind = .http := kind.trans fresh.kind
  cases bound : bindAddress server.address w.host with
  | error e =>
    right
    refine ⟨fresh.kind, ?_⟩
    have reports : Reports k e w (w.taskTurn k) :=
      .bind here spawned unaborted (by rw [slot]) there kind bound
    rw [reports.reported]
    exact Option.some_ne_none _
  | ok bound' =>
    left
    obtain ⟨a, host⟩ := bound'
    -- the turn settles the exchanges first, of which a fresh task has none
    let v := w.changeTask k (ServeTask.settleExchanges w.now)
    let t' := t.settleExchanges w.now
    have live : t'.hasEnded = false := by
      show t.hasEnded = false
      rw [ServeTask.hasEnded, spawned]
    have turn : w.taskTurn k = servingTurn k (v.firstTurn k t') := by
      have unaborted : t'.aborted = false := unaborted
      have spawned : t'.progress = .spawned := spawned
      rw [taskTurn_some here]
      show (if t'.hasEnded then v else v.liveTurn k t') = _
      simp only [live, liveTurn, unaborted, spawned, Bool.false_eq_true, if_false]
    have first : v.firstTurn k t' =
        (World.changeServer t.server (fun s => { s with localAddress := some a })
          { v with host := host }).changeTask k
            fun t => { t with progress := .serving, listening := some a } := by
      have there : v.servers[t'.server]? = some server := there
      have bound : bindAddress server.address v.host = .ok (a, host) := bound
      simp only [firstTurn, there, kind, bound]
      rfl
    have binds : (v.firstTurn k t').servers[t.server]? =
        (w.servers[t.server]?).map fun s => { s with localAddress := some a } := by
      rw [first]
      exact servers_changeServer
    rw [turn, addressOf, servers_servingTurn, binds, there]
    exact Option.some_ne_none _

/-- A task is fresh until it takes its first turn, while the background settles. -/
lemma turning (fresh : w.IsFresh id s k) (calm : w.IsCalm) (before : n ≤ k) :
    (w.turning n).IsFresh id s k := by
  induction n with
  | zero =>
    have fresh : World.IsFresh id s k
        { w with incidents := w.incidents.filter fun i => !(i.1 ≤ w.now) } :=
      fresh.of_same rfl rfl
    apply fresh.meets
    intro i member
    obtain ⟨member, due⟩ := List.mem_filter.1 member
    rw [calm i member (of_decide_eq_true due)]
    exact nofun
  | succ n ih =>
    rw [turning_succ]
    exact (ih (Nat.le_of_succ_le before)).turn_ne (Nat.ne_of_lt before)

/-- After its own turn, a fresh task has tried to bind its address. -/
lemma turned (fresh : w.IsFresh id s k) (calm : w.IsCalm) (after : k < n) :
    (w.turning n).HasTried id s k := by
  induction n, after using Nat.le_induction with
  | base =>
    rw [turning_succ]
    exact (fresh.turning calm (Nat.le_refl k)).turn
  | succ n _ ih =>
    rw [turning_succ]
    exact ih.besides (.turn n)

/-- When the background settles, every fresh task has its turn, and has tried afterwards. -/
lemma settle (fresh : w.IsFresh id s k) (calm : w.IsCalm) : w.settle.HasTried id s k :=
  fresh.turned calm fresh.holds.inside

end IsFresh

/-! ## Launched servers -/

/-- A server was launched: its task has tried to bind its address, or is to try in its first
turn. -/
def Launched (id : Nat) (s : Server) (w : World κ υ) : Prop :=
  ∃ k, w.IsFresh id s k ∨ w.HasTried id s k

namespace Launched

/-- Whether a server was launched shows in itself and in the tasks so far. -/
lemma of_same (launched : w.Launched id s) (server : w'.servers[id]? = w.servers[id]?)
    (tasks : w.tasks <+: w'.tasks) : w'.Launched id s := by
  obtain ⟨rest, tasks⟩ := tasks
  have same {k : Nat} (holds : w.Holds id s k) : w'.tasks[k]? = w.tasks[k]? := by
    rw [← tasks, List.getElem?_append_left holds.inside]
  obtain ⟨k, fresh | tried⟩ := launched
  · exact ⟨k, .inl (fresh.of_same server (same fresh.holds))⟩
  · exact ⟨k, .inr (tried.of_same server (same tried.toHolds))⟩

/-- A server that was launched has tried to bind once the background has settled. -/
lemma settle (launched : w.Launched id s) (calm : w.IsCalm) : ∃ k, w.settle.HasTried id s k := by
  obtain ⟨k, fresh | tried⟩ := launched
  · exact ⟨k, fresh.settle calm⟩
  · exact ⟨k, tried.passes (.settle .refl)⟩

end Launched

/-- No time has passed, and nothing has come about. -/
structure SameMoment (w w' : World κ υ) : Prop where
  now : w'.now = w.now
  tokens : w'.tokens = w.tokens
  incidents : w'.incidents = w.incidents
  signals : w'.signals = w.signals

/-- A moment is the same as itself. -/
lemma SameMoment.refl : w.SameMoment w :=
  ⟨rfl, rfl, rfl, rfl⟩

/-- The same moment is the same through two steps. -/
lemma SameMoment.trans (first : w.SameMoment w') (rest : w'.SameMoment u) : w.SameMoment u :=
  ⟨rest.now.trans first.now, rest.tokens.trans first.tokens, rest.incidents.trans first.incidents,
    rest.signals.trans first.signals⟩

end World

namespace Server
open World

/-! ## Starts -/

/-- How the start of a server comes out. -/
inductive Starts (id : Nat) (s : Server) (w : World κ υ) : Outcome → World κ υ → Prop where
  | spawns :
    s.kind = .http →
    Starts id s w (.ok ()) (spawn id none w)
  | binds {a : SocketAddress} {host : Host} :
    s.kind = .grpc →
    bindAddress s.address w.host = .ok (a, host) →
    Starts id s w (.ok ()) (spawn id (some a) { w with host := host })
  | refused {e : ServerError} :
    s.kind = .grpc →
    bindAddress s.address w.host = .error e →
    Starts id s w (.error (.server (.single e))) w

/-- A server that holds no task starts at once, or fails to. -/
lemma start_atOnce {P : World κ υ → Prop} (here : w.servers[id]? = some s)
    (idle : s.serving = none) (calm : ∀ host, P { w with host := host }) :
    ∃ outcome v, (start id).AtOnce P w outcome v ∧ Starts id s w outcome v := by
  have free (host : Host) : isIdle id { w with host := host } = true := by
    simp [isIdle, here, idle]
  have starts {r : Except ServerError Unit} {v : World κ υ}
      (launches : (launchAs id (some s.kind)).AtOnce P w r v) :
      (start id).AtOnce P w (r.mapError fun e => .server (.single e)) v := by
    have launches : (launch id).AtOnce P w r v := by
      refine .act ?_
      show (launchAs id ((w.servers[id]?).map Server.kind)).AtOnce P w r v
      rwa [here]
    exact launches.bind .done
  cases kind : s.kind with
  | http =>
    rw [kind] at starts
    exact ⟨_, _, starts (.step (if_pos (free w.host))), .spawns kind⟩
  | grpc =>
    rw [kind] at starts
    have tries {bound : Except ServerError SocketAddress} {r : Except ServerError Unit}
        {v u : World κ υ} (binds : bindIdle id w = (bound, v))
        (goesOn : (launchBound id bound).AtOnce P v r u) :
        (launchAs id (some .grpc)).AtOnce P w r u :=
      .bind (.step binds) goesOn
    cases bound : bindAddress s.address w.host with
    | error e =>
      have fails : bindIdle id w = (.error e, w) := by simp [bindIdle, here, idle, bound]
      exact ⟨_, _, starts (tries fails .done), .refused kind bound⟩
    | ok bound' =>
      obtain ⟨a, host⟩ := bound'
      have binds : bindIdle id w = (.ok a, { w with host := host }) := by
        simp [bindIdle, here, idle, bound]
      have claims : (claim id a).AtOnce P { w with host := host } (.ok ())
          (spawn id (some a) { w with host := host }) := .step (if_pos (free host))
      exact ⟨_, _, starts (tries binds (.pass (calm host) rfl claims)), .binds kind bound⟩

namespace Starts

variable {outcome : Outcome} {v : World κ υ}

/-- The start of a server takes no time. -/
lemma sameMoment (starts : Starts id s w outcome v) : w.SameMoment v := by
  cases starts <;> exact ⟨rfl, rfl, rfl, rfl⟩

/-- Other servers, and the tasks that there are, stay as they are. -/
lemma others (starts : Starts id s w outcome v) (other : id ≠ id') :
    v.servers[id']? = w.servers[id']? ∧ w.tasks <+: v.tasks := by
  cases starts with
  | spawns => exact ⟨servers_changeServer_ne other, List.prefix_append ..⟩
  | binds => exact ⟨servers_changeServer_ne other, List.prefix_append ..⟩
  | refused => exact ⟨rfl, List.prefix_rfl⟩

/-- A server that has started was launched. -/
lemma launched (starts : Starts id s w (.ok ()) v) (here : w.servers[id]? = some s)
    (idle : s.serving = none) : v.Launched id s := by
  have free : w.held id = none := held_of_serving here idle
  have made {listening : Option SocketAddress} {v : World κ υ} (there : v.servers[id]? = some s) :
      (spawn id listening v).make id = some s.blank := by
    have after : (spawn id listening v).servers[id]? =
        some { s with serving := some v.tasks.length, localAddress := listening } := by
      show (World.changeServer id _ _).servers[id]? = _
      rw [servers_changeServer, there, Option.map_some]
    rw [World.make, after]
    rfl
  cases starts with
  | spawns kind =>
    have spawns := Server.spawns here free none
    exact ⟨_, .inl ⟨made here, spawns.held, kind, _, spawns.task, rfl, rfl, rfl, rfl⟩⟩
  | @binds a host _ _ =>
    let v : World κ υ := { w with host := host }
    have spawns := Server.spawns (w := v) here free (some a)
    have holds : (spawn id (some a) v).Holds id s v.tasks.length :=
      ⟨made here, spawns.held, _, spawns.task, rfl, fun _ => rfl⟩
    refine ⟨_, .inr ⟨holds, .inl ?_⟩⟩
    rw [spawns.address]
    exact Option.some_ne_none a

end Starts

end Server

/-! ## Startups -/

namespace Plan
open World

variable {b : Behaviour κ υ} {c : Call κ} {cs : List (Call κ)} {ctx : Token}
  {course : Course κ υ} {r : Option (Call κ × Cause)} {w₀ v : World κ υ}

/-- Noting an answer takes no time, and leaves servers and tasks alone. -/
lemma note_same (c : Call κ) (outcome : Outcome) (w : World κ υ) :
    w.SameMoment (c.note outcome w) ∧ (c.note outcome w).servers = w.servers ∧
      (c.note outcome w).tasks = w.tasks := by
  cases outcome <;> exact ⟨⟨rfl, rfl, rfl, rfl⟩, rfl, rfl⟩

/-- The calls start servers that hold no tasks, each one once. -/
structure AreStarts (cs : List (Call κ)) (w : World κ υ) : Prop where
  each : ∀ c ∈ cs, ∃ i name id s, c = .startRunner i (.server name id) ∧
    w.servers[id]? = some s ∧ s.serving = none
  distinct : (servers cs).Nodup

/-- What comes of such calls, up to the first one that fails. That one starts a gRPC server which
cannot bind its address. -/
structure Launches (cs : List (Call κ)) (w : World κ υ) (course : Course κ υ)
    (r : Option (Call κ × Cause)) (v : World κ υ) : Prop where
  same : w.SameMoment v
  calls : ∀ m ∈ course.made, m.call ∈ cs
  kept : ∀ id s, id ∉ servers cs → w.Launched id s → v.Launched id s
  launched : r = none → ∀ i name id s, .startRunner i (.server name id) ∈ cs →
    w.servers[id]? = some s → v.Launched id s
  failed : ∀ c cause, r = some (c, cause) → ∃ m ∈ course.made, m.call = c ∧
    ∃ i name id s e, c = .startRunner i (.server name id) ∧ w.servers[id]? = some s ∧
      s.kind = .grpc ∧ bindAddress s.address m.before.host = .error e ∧
      cause = .server (.single e)

/-- Without calls, nothing is launched. -/
lemma Launches.nil : Launches [] w [] none w where
  same := .refl
  calls := by
    intro m member
    cases member
  kept _ _ _ launched := launched
  launched := by
    intro _ i name id s member
    cases member
  failed := by
    intro c cause same
    cases same

section
variable {i : Nat} {name : String} (here : w.servers[id]? = some s)
include here

/-- A server does not start, and nothing more is called. -/
lemma Launches.stop {cause : Cause}
    (starts : Starts id s w (.error cause) v) :
    Launches (.startRunner i (.server name id) :: cs) w
      [.called ⟨.startRunner i (.server name id), ctx, w, some (.error cause), v⟩, .own v]
      (some (.startRunner i (.server name id), cause))
      ((Call.startRunner i (.server name id)).note (.error cause) v) := by
  have noted : v.SameMoment ((Call.startRunner i (.server name id)).note (.error cause) v) :=
    (note_same ..).1
  cases starts with
  | @refused e kind fails =>
    refine ⟨noted, ?_, fun id s _ launched => launched.of_same rfl List.prefix_rfl, ?_, ?_⟩
    · intro m member
      rw [Course.made_called, Course.made_own, Course.made_nil, List.mem_singleton] at member
      rw [member]
      exact List.mem_cons_self
    · intro same
      cases same
    · intro c cause same
      cases same
      exact ⟨_, List.mem_cons_self, rfl, i, name, id, s, e, rfl, here, kind, fails, rfl⟩

/-- A server starts, and so do others after it. -/
lemma Launches.next (idle : s.serving = none) (fresh : id ∉ servers cs)
    (starts : Starts id s w (.ok ()) v)
    (rest : Launches cs ((Call.startRunner i (.server name id)).note (.ok ()) v) course r u) :
    Launches (.startRunner i (.server name id) :: cs) w
      (.called ⟨.startRunner i (.server name id), ctx, w, some (.ok ()), v⟩ :: .own v :: course)
      r u := by
  have others {id' : Nat} (member : id' ∈ servers cs) : v.servers[id']? = w.servers[id']? :=
    (starts.others fun same => fresh (same ▸ member)).1
  have mem_servers {i : Nat} {name : String} {id : Nat}
      (member : .startRunner i (.server name id) ∈ cs) : id ∈ servers cs :=
    List.mem_filterMap.2 ⟨_, member, rfl⟩
  constructor
  · exact (starts.sameMoment.trans (note_same ..).1).trans rest.same
  · rw [Course.made_called, Course.made_own, List.forall_mem_cons]
    exact ⟨List.mem_cons_self, fun m member => List.mem_cons_of_mem _ (rest.calls m member)⟩
  · intro id' s' absent launched
    rw [servers_cons_some rfl, List.mem_cons, not_or] at absent
    have same := starts.others (Ne.symm absent.1)
    exact rest.kept id' s' absent.2 (launched.of_same same.1 same.2)
  · intro all i' name' id' s' member there
    rcases List.mem_cons.1 member with same | member
    · cases same
      cases here.symm.trans there
      exact rest.kept id s fresh ((starts.launched here idle).of_same rfl List.prefix_rfl)
    · exact rest.launched all i' name' id' s' member ((others (mem_servers member)).trans there)
  · intro c cause fails
    obtain ⟨m, member, call, i', name', id', s', e, rfl, there, fails⟩ := rest.failed c cause fails
    have inside := mem_servers (call ▸ rest.calls m member)
    exact ⟨m, List.mem_cons_of_mem _ member, call, i', name', id', s', e, rfl,
      (others inside).symm.trans there, fails⟩

end

/-- Servers start one after the other, at once, until one cannot. -/
theorem tryEach_launches (b : Behaviour κ υ) (ctx : Token) (same : w₀.SameMoment w)
    (starts : AreStarts cs w) :
    ∃ course r v, (tryEach ctx cs).Proceeds (Activity.AtOnce w₀.SameMoment) b w course r v ∧
      Launches cs w course r v := by
  induction cs generalizing w with
  | nil => exact ⟨[], none, w, .done, .nil⟩
  | cons c rest ih =>
    obtain ⟨each, distinct⟩ := starts
    obtain ⟨⟨i, name, id, s, rfl, here, idle⟩, later⟩ := List.forall_mem_cons.1 each
    rw [servers_cons_some rfl, List.nodup_cons] at distinct
    obtain ⟨outcome, v, atOnce, starts⟩ := start_atOnce (P := w₀.SameMoment) here idle
      fun host => same.trans ⟨rfl, rfl, rfl, rfl⟩
    cases outcome with
    | error cause => exact ⟨_, _, _, .tryEach_fails atOnce, .stop here starts⟩
    | ok =>
      let w' := (Call.startRunner i (.server name id) : Call κ).note (.ok ()) v
      have same : w₀.SameMoment w' := (same.trans starts.sameMoment).trans (note_same ..).1
      have starts' : AreStarts rest w' := by
        refine ⟨fun c member => ?_, distinct.2⟩
        obtain ⟨i', name', id', s', rfl, there, idle'⟩ := later c member
        have inside : id' ∈ servers rest := List.mem_filterMap.2 ⟨_, member, rfl⟩
        have other : id ≠ id' := fun same => distinct.1 (same ▸ inside)
        exact ⟨i', name', id', s', rfl, (starts.others other).1.trans there, idle'⟩
      obtain ⟨course, r, u, proceeds, launches⟩ := ih same starts'
      exact ⟨_, r, u, .tryEach_next atOnce proceeds, .next here idle distinct.1 starts launches⟩

/-- Calls that do nothing. -/
lemma tryEach_idle (w₀ : World κ υ) (idle : ∀ c ∈ cs, c.flow b ctx = .done (.ok ()))
    (w : World κ υ) :
    ∃ course v, (tryEach ctx cs).Proceeds (Activity.AtOnce w₀.SameMoment) b w course none v ∧
      w.SameMoment v ∧ v.servers = w.servers ∧ v.tasks = w.tasks ∧
      ∀ m ∈ course.made, m.call ∈ cs := by
  induction cs generalizing w with
  | nil =>
    refine ⟨[], w, .done, .refl, rfl, rfl, ?_⟩
    intro m member
    cases member
  | cons c rest ih =>
    rw [List.forall_mem_cons] at idle
    have atOnce : (c.flow b ctx).AtOnce w₀.SameMoment w (.ok ()) w := by
      rw [idle.1]
      exact .done
    obtain ⟨same, servers, tasks⟩ := note_same c (.ok ()) w
    obtain ⟨course, v, proceeds, same', servers', tasks', calls⟩ := ih idle.2 _
    refine ⟨_, v, .tryEach_next atOnce proceeds, same.trans same', servers'.trans servers,
      tasks'.trans tasks, ?_⟩
    rw [Course.made_called, Course.made_own, List.forall_mem_cons]
    exact ⟨List.mem_cons_self, fun m member => List.mem_cons_of_mem _ (calls m member)⟩

/-- Plans are put one after the other in any grouping. -/
lemma bind_assoc {β γ : Type} {p : Plan κ υ α} {f : α → Plan κ υ β} {g : β → Plan κ υ γ} :
    (p.bind f).bind g = p.bind fun a => (f a).bind g := by
  induction p with
  | done a => rfl
  | act change next ih => simp only [bind, ih]
  | wait trigger next ih => simp only [bind, ih]
  | call c ctx next ih => simp only [bind, ih]
  | callWithin ms c ctx next ih => simp only [bind, ih]

end Plan

namespace Lifecycle
open Plan World

variable {b : Behaviour κ υ} {ctx : Token} {parts : Orchestrator κ}

/-- What a run does before it waits. -/
def comeUp (ctx : Token) (parts : Orchestrator κ) : Plan κ υ RunOutcome := do
  .ofFlow (Flow.publish .starting)
  match ← startParts ctx parts with
  | .error es =>
    .ofFlow (Flow.publish .failed)
    return .error es
  | .ok () =>
    .ofFlow (Flow.count (.phaseDuration .startup))
    .ofFlow (Flow.publish .running)
    return .ok ()

/-- What a run does after that: it waits for its token and comes down, unless it did not come up. -/
def goOn (ctx : Token) (parts : Orchestrator κ) : RunOutcome → Plan κ υ RunOutcome
  | .error es => .done (.error es)
  | .ok () => do
    .ofFlow (Flow.cancelled ctx)
    comeDown parts

/-- A run comes up and then goes on. -/
lemma runParts_eq :
    (runParts ctx parts : Plan κ υ _) = (comeUp ctx parts).bind (goOn ctx parts) := by
  have goesOn (p : Plan κ υ RunOutcome) {f g : RunOutcome → Plan κ υ RunOutcome}
      (same : ∀ outcome, f outcome = (g outcome).bind (goOn ctx parts)) :
      Plan.bind p f = (Plan.bind p g).bind (goOn ctx parts) := by
    rw [Plan.bind_assoc]
    exact congrArg p.bind (funext same)
  refine congrArg (Plan.act _) (funext fun w => goesOn _ fun outcome => ?_)
  cases outcome <;> rfl

/-- How a run comes up: all servers are launched, or some gRPC server cannot bind its address. -/
inductive ComesUp (parts : Orchestrator κ) (w : World κ υ) (course : Course κ υ) :
    RunOutcome → World κ υ → Prop where
  | launched {v : World κ υ} :
    (∀ (i : Nat) (name : String) (id : Nat) (s : Server),
      parts.runners[i]? = some (.server name id) → w.servers[id]? = some s → v.Launched id s) →
    ComesUp parts w course (.ok ()) v
  | refused {m : Made κ υ} {i : Nat} {name : String} {id : Nat} {s : Server} {e : ServerError}
    {v : World κ υ} :
    m ∈ course.made →
    m.call = .startRunner i (.server name id) →
    w.servers[id]? = some s →
    s.kind = .grpc →
    bindAddress s.address m.before.host = .error e →
    ComesUp parts w course (.error (.single (.runnerStart name (.server (.single e))))) v

/-- A run whose components have nothing to do comes up at once, as far as it does. -/
theorem comeUp_proceeds (idle : ∀ c ∈ startCalls parts, c.flow b ctx = .done (.ok ()))
    (starts : AreStarts (runnerCalls parts) w) :
    ∃ course outcome v,
      (comeUp ctx parts).Proceeds (Activity.AtOnce w.SameMoment) b w course outcome v ∧
      w.SameMoment v ∧ (∀ m ∈ course.made, m.call ∈ startCalls parts ++ runnerCalls parts) ∧
      ComesUp parts w course outcome v := by
  let w₁ := w.changeOrchestrator fun o => o.publish .starting
  have same₁ : w.SameMoment w₁ := ⟨rfl, rfl, rfl, rfl⟩
  obtain ⟨course₁, w₂, idles, same₂, servers₂, -, calls₁⟩ := tryEach_idle w idle w₁
  let w₃ := w₂.count (.phaseDuration .lifecycleStart)
  have same₃ : w.SameMoment w₃ := (same₁.trans same₂).trans ⟨rfl, rfl, rfl, rfl⟩
  have servers₃ : w₃.servers = w.servers := servers₂
  have starts₃ : AreStarts (runnerCalls parts) w₃ := by
    refine ⟨fun c member => ?_, starts.distinct⟩
    rw [servers₃]
    exact starts.each c member
  have components : (startWithRollback ctx parts.starts parts.stops).Proceeds
      (Activity.AtOnce w.SameMoment) b w₁ (course₁ ++ [.own w₂]) (.ok ()) w₃ :=
    idles.bind (.act .done)
  obtain ⟨course₂, r, v, proceeds, launches⟩ := tryEach_launches b ctx same₃ starts₃
  -- both results of the runners come after the components
  have runners {outcome : RunOutcome} (ends : (startRunners ctx parts.runners).Proceeds
      (Activity.AtOnce w.SameMoment) b w₃ (course₂ ++ []) outcome v) :
      (startParts ctx parts).Proceeds (Activity.AtOnce w.SameMoment) b w₁
        (course₁ ++ [.own w₂] ++ course₂) outcome v := by
    rw [List.append_nil] at ends
    exact components.bind ends
  have calls (rest : Course κ υ) (none : rest.made = []) :
      ∀ m ∈ Course.made (.own w :: (course₁ ++ [.own w₂] ++ course₂ ++ rest)),
        m.call ∈ startCalls parts ++ runnerCalls parts := by
    intro m member
    rw [Course.made_own, Course.made_append, Course.made_append, Course.made_append, none,
      Course.made_own, Course.made_nil, List.append_nil, List.append_nil] at member
    rcases List.mem_append.1 member with member | member
    · exact List.mem_append_left _ (calls₁ m member)
    · exact List.mem_append_right _ (launches.calls m member)
  have same : w.SameMoment v := same₃.trans launches.same
  cases r with
  | none =>
    refine ⟨_, _, _, .act ((runners (proceeds.bind .done)).bind (.act (.act .done))),
      same.trans ⟨rfl, rfl, rfl, rfl⟩, calls _ rfl, .launched fun i name id s runner here => ?_⟩
    have launched : v.Launched id s := by
      refine launches.launched rfl i name id s (mem_runnerCalls.2 ⟨i, _, runner, rfl⟩) ?_
      rwa [servers₃]
    exact launched.of_same rfl List.prefix_rfl
  | some fails =>
    obtain ⟨c, cause⟩ := fails
    obtain ⟨m, member, call, i, name, id, s, e, rfl, here, kind, fails, rfl⟩ :=
      launches.failed c cause rfl
    refine ⟨_, _, _, .act ((runners (proceeds.bind .done)).bind (.act .done)),
      same.trans ⟨rfl, rfl, rfl, rfl⟩, calls _ rfl, .refused ?_ call (servers₃ ▸ here) kind fails⟩
    rw [Course.made_own, Course.made_append, Course.made_append]
    exact List.mem_append_left _ (List.mem_append_right _ member)

end Lifecycle

end Supervision
