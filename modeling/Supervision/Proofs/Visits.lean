import Supervision.Proofs.Surroundings

/-!
# Visits of servers

A call that launches a server or shuts it down is a visit. It goes on until it waits or has ended,
and nothing comes in between. `begins_launch` and `begins_shutdown` say all that a visit can do when
it begins, `claim_cases` and `stops` all that it can do after its wait.
-/

namespace Supervision
open Net Server

/-- Goes on until it has ended or waits. -/
def Activity.poll {σ α : Type} : Activity σ α → σ → Activity σ α × σ
  | .done a, s => (.done a, s)
  | .act change next, s => poll (next s) (change s)
  | .wait trigger next, s => (.wait trigger next, s)

/-- What is left to do after a poll is executed as the whole. -/
lemma Activity.Runs.poll {σ α : Type} {M : σ → σ → Prop} {p : Activity σ α} {s r u}
    (runs : p.Runs ⟨Eq, M⟩ s r u) : (p.poll s).1.Runs ⟨Eq, M⟩ (p.poll s).2 r u := by
  induction p generalizing s with
  | done a => exact runs
  | act change next ih =>
    cases runs with
    | act same runs =>
      cases same
      exact ih _ runs
  | wait trigger next ih => exact runs

variable {κ υ : Type}

namespace Server
open World

/-! ## Calls -/

/-- What a visitor asks for. -/
inductive Use where
  | launch
  | shutdown (ctx : Token)

inductive Answer where
  | launched (outcome : Except ServerError Unit)
  | shutDown (outcome : Except (Errors ServerError) Unit)

def Use.flow (id : Nat) : Use → Flow κ υ Answer
  | .launch => do return .launched (← Server.launch id)
  | .shutdown ctx => do return .shutDown (← Server.shutdown id ctx)

/-- A launch that has bound its address spawns the task, if no other one has come before it. -/
def claim (id : Nat) (a : SocketAddress) : Flow κ υ (Except ServerError Unit) :=
  Activity.step fun w =>
    if isIdle id w then (.ok (), spawn id (some a) w)
    else (.error .alreadyStarted, { w with host := w.host.release a })

/-- A launch that waits with its address. -/
def claiming (id : Nat) (a : SocketAddress) : Flow κ υ Answer :=
  .wait .always fun _ => (claim id a).bind fun outcome => .done (.launched outcome)

/-- A shutdown whose race is over. -/
def stopping (id : Nat) (s : Server) (k : Nat) (winner : Option RaceWinner) : Flow κ υ Answer :=
  ((finish k s.timeoutMs winner).bind (conclude id s)).bind fun result => .done (.shutDown result)

/-- A shutdown that waits for its race. -/
def racing (id : Nat) (s : Server) (k deadline : Nat) (ctx : Token) : Flow κ υ Answer :=
  .wait (raceTrigger k deadline ctx) fun w => stopping id s k (raceIn k deadline ctx w)

variable {id k : Nat} {s : Server} {a : SocketAddress} {ctx : Token} {w w' : World κ υ}

/-! ## Effects -/

/-- A task is spawned for a server that holds none. -/
structure Spawns (id k : Nat) (a : Option SocketAddress) (w w' : World κ υ) : Prop where
  idle : w.held id = none
  number : k = w.tasks.length
  tasks : w'.tasks = w.tasks ++ [{ server := id, progress := .spawned, listening := a }]
  held : w'.held id = some k
  kind : w'.kindOf id = w.kindOf id
  address : w'.addressOf id = a

/-- A server gives its task away, which is asked to shut down. -/
structure Takes (id k : Nat) (w w' : World κ υ) : Prop where
  tasks : w'.tasks = w.tasks.modify k request
  held : w'.held id = none
  kind : w'.kindOf id = w.kindOf id
  address : w'.addressOf id = w.addressOf id
  now : w'.now = w.now
  tokens : w'.tokens = w.tokens

/-- A task is stopped, its slot drained, and the address of the server taken away. -/
structure Concludes (id k : Nat) (w w' : World κ υ) : Prop where
  others : ∀ j, j ≠ k → w'.tasks[j]? = w.tasks[j]?
  task : ∃ t t', w.tasks[k]? = some t ∧ w'.tasks[k]? = some t' ∧ t.Goes t' ∧
    t'.listening = t.listening ∧ t'.slot = t.slot.drain.2
  length : w'.tasks.length = w.tasks.length
  ended : IsOver k w'
  held : w'.held id = w.held id
  kind : w'.kindOf id = w.kindOf id
  address : w'.addressOf id = none

/-- A shutdown comes to its end: its race is decided, and it reports what the race and the task
have to report. -/
structure Stops (id : Nat) (s : Server) (k deadline : Nat) (ctx : Token) (w : World κ υ)
    (result : Except (Errors ServerError) Unit) (w' : World κ υ) : Prop where
  result : ∃ winner, raceIn k deadline ctx w = some winner ∧
    result = Errors.outcome (raceFailure s.timeoutMs winner ++ (w.reported k).toList)
  concludes : Concludes id k w w'

/-- A spawn leaves the other tasks alone. -/
lemma Spawns.others {a : Option SocketAddress} {j : Nat} (spawns : Spawns id k a w w')
    (other : j ≠ k) : w'.tasks[j]? = w.tasks[j]? := by
  rw [spawns.number] at other
  rw [spawns.tasks, List.getElem?_append]
  split
  · rfl
  next outside =>
    rw [List.getElem?_eq_none (Nat.not_lt.1 outside)]
    exact List.getElem?_eq_none (by simp; omega)

/-- A spawned task is a new one of its server. -/
lemma Spawns.task {a : Option SocketAddress} (spawns : Spawns id k a w w') :
    w'.tasks[k]? = some { server := id, progress := .spawned, listening := a } := by
  rw [spawns.tasks, spawns.number, List.getElem?_concat_length]

/-- A spawn leaves a server its tasks. -/
lemma Spawns.owns {a : Option SocketAddress} {j : Nat} (spawns : Spawns id k a w w')
    (owns : w.Owns id j) : w'.Owns id j := by
  obtain ⟨t, here, own⟩ := owns
  by_cases same : j = k
  · subst same
    exact ⟨_, spawns.task, rfl⟩
  · exact ⟨t, (spawns.others same).trans here, own⟩

/-- The new task is the only one that may begin to listen. -/
lemma Spawns.listens {a : Option SocketAddress} {j : Nat} {b : SocketAddress}
    (spawns : Spawns id k a w w') (before : w.listening j = none)
    (after : w'.listening j = some b) :
    j = k ∧ a = some b := by
  by_cases same : j = k
  · subst same
    rw [World.listening, spawns.task] at after
    exact ⟨rfl, after⟩
  · rw [World.listening, spawns.others same] at after
    cases before.symm.trans after

/-- Taking a task leaves the other ones alone. -/
lemma Takes.others {j : Nat} (takes : Takes id k w w') (other : j ≠ k) :
    w'.tasks[j]? = w.tasks[j]? := by
  rw [takes.tasks, List.getElem?_modify_ne _ _ other.symm]

/-- A task that is taken is asked to shut down. -/
lemma Takes.task {t : ServeTask} (takes : Takes id k w w') (here : w.tasks[k]? = some t) :
    w'.tasks[k]? = some (request t) := by
  rw [takes.tasks, List.getElem?_modify_eq, here]
  rfl

/-- Whether a race is decided does not depend on the request. -/
lemma Takes.raceIn {deadline : Nat} (takes : Takes id k w w') :
    raceIn k deadline ctx w' = raceIn k deadline ctx w := by
  have stage : (w'.tasks[k]?).bind ServeTask.ended? = (w.tasks[k]?).bind ServeTask.ended? := by
    rw [takes.tasks, List.getElem?_modify_eq]
    cases w.tasks[k]? with
    | none => rfl
    | some t => rfl
  rw [Server.raceIn, Server.raceIn, stage, takes.now, World.isCancelled, World.isCancelled,
    takes.tokens]

/-- Taking a task changes no report. -/
lemma Takes.reported {j : Nat} (takes : Takes id k w w') : w'.reported j = w.reported j := by
  have changed : w'.reported j = (w.changeTask k request).reported j := by
    rw [World.reported, takes.tasks]
    rfl
  exact changed.trans (reported_changeTask fun _ => rfl)

/-- A spawn changes no report. -/
lemma Spawns.reported {a : Option SocketAddress} {j : Nat} (spawns : Spawns id k a w w') :
    w'.reported j = w.reported j := by
  by_cases same : j = k
  · subst same
    rw [World.reported, World.reported, spawns.task, spawns.number,
      List.getElem?_eq_none (Nat.le_refl _)]
    rfl
  · rw [World.reported, World.reported, spawns.others same]

/-- The conclusion of a stop changes no report of another task. -/
lemma Concludes.reported {j : Nat} (concludes : Concludes id k w w') (other : j ≠ k) :
    w'.reported j = w.reported j := by
  rw [World.reported, World.reported, concludes.others j other]

/-- The conclusion of a stop drains the report of its task. -/
lemma Concludes.drained (concludes : Concludes id k w w') : w'.reported k = none := by
  obtain ⟨t, t', -, here', -, -, drained⟩ := concludes.task
  rw [World.reported, here', Option.bind_some, drained]
  rfl

/-- Taking a task tends its server. -/
lemma Takes.tends {t : ServeTask} (takes : Takes id k w w') (here : w.tasks[k]? = some t) :
    Tends id w w' := by
  refine .of_task takes.kind (fun j => takes.others) here (takes.task here) ?_ fun sound => sound
  exact .of_eq rfl rfl rfl rfl rfl

/-- The conclusion of a stop tends its server. -/
lemma Concludes.tends (concludes : Concludes id k w w') : Tends id w w' := by
  obtain ⟨t, t', here, here', goes, -, drained⟩ := concludes.task
  refine .of_task concludes.kind concludes.others here here' goes fun _ => ?_
  rw [drained]
  exact fun _ => rfl

/-- The conclusion of a stop opens and closes no listener. -/
lemma Concludes.listening {j : Nat} (concludes : Concludes id k w w') :
    w'.listening j = w.listening j := by
  by_cases same : j = k
  · subst same
    obtain ⟨t, t', here, here', -, listens, -⟩ := concludes.task
    rw [World.listening, World.listening, here, here', Option.bind_some, Option.bind_some, listens]
  · rw [World.listening, World.listening, concludes.others j same]

/-- A server is idle if it holds no task. -/
lemma isIdle_iff (here : w.servers[id]? = some s) : isIdle id w = true ↔ w.held id = none := by
  rw [isIdle, World.held, here]
  exact Option.isNone_iff_eq_none

/-- To spawn a task for an idle server makes a new one that the server holds. -/
lemma spawns (here : w.servers[id]? = some s) (idle : w.held id = none) (a : Option SocketAddress) :
    Spawns id w.tasks.length a w (spawn id a w) := by
  have servers : (spawn id a w).servers[id]? =
      some { s with serving := some w.tasks.length, localAddress := a } := by
    show (World.changeServer id _ _).servers[id]? = _
    rw [servers_changeServer, here, Option.map_some]
  refine ⟨idle, rfl, rfl, ?_, ?_, ?_⟩
  · rw [World.held, servers]
    rfl
  · rw [World.kindOf, servers, World.kindOf, here]
    rfl
  · rw [World.addressOf, servers]
    rfl

/-- The world after a server has given its task away. -/
def handedOver (id k : Nat) (w : World κ υ) : World κ υ :=
  (w.changeServer id fun s => { s with serving := none }).changeTask k request

/-- A server that hands over its task holds it no longer. -/
lemma takes (here : w.servers[id]? = some s) : Takes id k w (handedOver id k w) := by
  have servers : (handedOver id k w).servers[id]? = some { s with serving := none } := by
    show (World.changeServer id _ _).servers[id]? = _
    rw [servers_changeServer, here, Option.map_some]
  refine ⟨rfl, ?_, ?_, ?_, rfl, rfl⟩
  · rw [World.held, servers]
    rfl
  · rw [World.kindOf, servers, World.kindOf, here]
    rfl
  · rw [World.addressOf, servers, World.addressOf, here]
    rfl

/-! ## Launches -/

/-- A launch of a server of a kind. -/
def launchAs (id : Nat) : Option Kind → Flow κ υ (Except ServerError Unit)
  | some .grpc => launchGrpc id
  | _ => launchHttp id

/-- A launch that has tried to bind its address. -/
def launchBound (id : Nat) :
    Except ServerError SocketAddress → Flow κ υ (Except ServerError Unit)
  | .error e => pure (.error e)
  | .ok a => Activity.checkpoint.bind fun _ => claim id a

/-- A launch goes on by the kind of its server. -/
lemma poll_launch :
    (Use.launch.flow id).poll w =
      ((launchAs id (w.kindOf id)).bind fun outcome => .done (.launched outcome)).poll w := by
  rfl

/-- An HTTP server is launched at once if it is idle, and is refused if not. -/
lemma poll_launch_http (here : w.servers[id]? = some s) (kind : s.kind = .http) :
    (Use.launch.flow id).poll w =
      if isIdle id w then (.done (.launched (.ok ())), spawn id none w)
      else (.done (.launched (.error .alreadyStarted)), w) := by
  have looks : w.kindOf id = some .http := by rw [World.kindOf, here, Option.map_some, kind]
  rw [poll_launch, looks]
  by_cases idle : isIdle id w = true
  · simp [launchAs, launchHttp, Activity.step, Activity.bind, Activity.poll, idle]
  · simp [launchAs, launchHttp, Activity.step, Activity.bind, Activity.poll, idle]

/-- A gRPC server is launched by what comes of the bind. -/
lemma poll_launch_grpc (here : w.servers[id]? = some s) (kind : s.kind = .grpc) :
    (Use.launch.flow id).poll w =
      ((launchBound id (bindIdle id w).1).bind fun outcome => .done (.launched outcome)).poll
        (bindIdle id w).2 := by
  have looks : w.kindOf id = some .grpc := by rw [World.kindOf, here, Option.map_some, kind]
  rw [poll_launch, looks]
  rfl

/-- A claim spawns its task if the server is still idle, and gives its address back if not. -/
lemma poll_claim :
    ((claim id a).bind fun outcome => Activity.done (Answer.launched outcome)).poll w =
      if isIdle id w then (.done (.launched (.ok ())), spawn id (some a) w)
      else (.done (.launched (.error .alreadyStarted)), { w with host := w.host.release a }) := by
  by_cases idle : isIdle id w = true
  · simp [claim, Activity.step, Activity.bind, Activity.poll, idle]
  · simp [claim, Activity.step, Activity.bind, Activity.poll, idle]

/-! ## Shutdowns -/

/-- A shutdown goes on by the task that it takes. -/
lemma poll_shutdown :
    ((Use.shutdown ctx).flow id).poll w =
      ((stopTaken id ctx (takeTask id w).1).bind fun outcome => .done (.shutDown outcome)).poll
        (takeTask id w).2 := by
  rfl

/-- There is no task to take of an idle server. -/
lemma takeTask_none (idle : w.held id = none) : takeTask id w = (none, w) := by
  rw [takeTask]
  cases here : w.servers[id]? with
  | none => rfl
  | some s =>
    rw [World.held, here, Option.bind_some] at idle
    simp only [idle]

/-- A server that holds a task gives it away. -/
lemma takeTask_some (here : w.servers[id]? = some s) (serving : s.serving = some k) :
    takeTask id w =
      (some (s, k), w.changeServer id fun s => { s with serving := none }) := by
  simp only [takeTask, here, serving]

/-- A shutdown without a task to stop ends at once. -/
lemma poll_shutdown_none (idle : w.held id = none) :
    ((Use.shutdown ctx).flow id).poll w = (.done (.shutDown (.ok ())), w) := by
  rw [poll_shutdown, takeTask_none idle]
  rfl

/-- A shutdown of a task waits for its race. -/
lemma poll_shutdown_some (here : w.servers[id]? = some s) (serving : s.serving = some k) :
    ((Use.shutdown ctx).flow id).poll w =
      let v := handedOver id k w
      let winner := raceIn k (w.now + s.timeoutMs) ctx v
      if winner.isSome then (stopping id s k winner).poll v
      else (racing id s k (w.now + s.timeoutMs) ctx, v) := by
  rw [poll_shutdown, takeTask_some here serving]
  show Activity.poll (((if (raceIn k (w.now + s.timeoutMs) ctx (handedOver id k w)).isSome then
      Activity.done (raceIn k (w.now + s.timeoutMs) ctx (handedOver id k w))
    else .wait (raceTrigger k (w.now + s.timeoutMs) ctx)
      fun w' => .done (raceIn k (w.now + s.timeoutMs) ctx w')).bind fun winner =>
        finish k s.timeoutMs winner).bind (conclude id s) |>.bind
      fun outcome => Activity.done (Answer.shutDown outcome)) (handedOver id k w) = _
  dsimp only
  split
  · rfl
  · rfl

/-- A task that has lost its race is forced down. -/
def dismissed (k : Nat) (winner : RaceWinner) (w : World κ υ) : World κ υ :=
  match winner with
  | .taskEnded _ => w
  | _ => w.changeTask k forceDown

/-- The world at the end of a shutdown. -/
def concluded (id : Nat) (s : Server) (result : Except (Errors ServerError) Unit)
    (w : World κ υ) : World κ υ :=
  let v := w.changeServer id fun s => { s with localAddress := none }
  if s.kind = .grpc && wasForced result then v.log (.serverForced s.name) else v

/-- A stop concludes at once. -/
lemma poll_conclude {result} :
    ((conclude id s result).bind fun result => Activity.done (Answer.shutDown result)).poll w =
      (.done (.shutDown result), concluded id s result w) := by
  unfold conclude concluded
  dsimp only
  split
  · rfl
  · rfl

/-- A shutdown whose race is over drains the slot of the task and concludes. -/
lemma poll_stopping (winner : RaceWinner) :
    (stopping id s k (some winner)).poll w =
      let reported := drainSlot k (dismissed k winner w)
      let result := Errors.outcome (raceFailure s.timeoutMs winner ++ reported.1.toList)
      (.done (.shutDown result), concluded id s result reported.2) := by
  have single : (some winner).toList.flatMap (raceFailure s.timeoutMs) =
      raceFailure s.timeoutMs winner := List.append_nil _
  have drains (v : World κ υ) :
      ((((Activity.step (drainSlot k)).bind fun reported => Activity.done (Errors.outcome
        ((some winner).toList.flatMap (raceFailure s.timeoutMs) ++ reported.toList))).bind
          (conclude id s)).bind fun result => Activity.done (Answer.shutDown result)).poll v =
        let reported := drainSlot k v
        let result := Errors.outcome (raceFailure s.timeoutMs winner ++ reported.1.toList)
        (.done (.shutDown result), concluded id s result reported.2) := by
    rw [single]
    exact poll_conclude
  cases winner with
  | taskEnded panicked => exact drains w
  | timeUp => exact drains (w.changeTask k forceDown)
  | cancelled => exact drains (w.changeTask k forceDown)

/-- To dismiss a task leaves the others alone. -/
lemma dismissed_tasks_ne {j : Nat} {winner : RaceWinner} (other : j ≠ k) :
    (dismissed k winner w).tasks[j]? = w.tasks[j]? := by
  cases winner with
  | taskEnded panicked => rfl
  | timeUp => exact tasks_changeTask_ne other.symm
  | cancelled => exact tasks_changeTask_ne other.symm

/-- A task whose race is decided has ended, or is forced down. -/
lemma dismissed_task {winner : RaceWinner} {deadline : Nat} {t : ServeTask}
    (decided : raceIn k deadline ctx w = some winner) (here : w.tasks[k]? = some t) :
    ∃ t', (dismissed k winner w).tasks[k]? = some t' ∧ t.Goes t' ∧
      t'.listening = t.listening ∧ t'.slot = t.slot ∧
      (t'.hasEnded = true ∨ t'.forced = true ∧ t'.aborted = true) := by
  have forces : t.Goes (forceDown t) :=
    ⟨rfl, fun h => h, fun h => h, fun _ => rfl, fun _ => rfl, fun _ h => h⟩
  have loses : (w.changeTask k forceDown).tasks[k]? = some (forceDown t) := by
    rw [tasks_changeTask, here, Option.map_some]
  cases winner with
  | taskEnded panicked =>
    obtain ⟨t', here', ended⟩ := raceIn_eq_taskEnded decided
    cases here.symm.trans here'
    exact ⟨t, here, .refl, rfl, rfl, .inl ended⟩
  | timeUp => exact ⟨forceDown t, loses, forces, rfl, rfl, .inr ⟨rfl, rfl⟩⟩
  | cancelled => exact ⟨forceDown t, loses, forces, rfl, rfl, .inr ⟨rfl, rfl⟩⟩

/-- To dismiss a task makes none. -/
lemma length_dismissed {winner : RaceWinner} :
    (dismissed k winner w).tasks.length = w.tasks.length := by
  cases winner with
  | taskEnded panicked => rfl
  | timeUp => exact List.length_modify ..
  | cancelled => exact List.length_modify ..

/-- To dismiss a task leaves the servers alone. -/
lemma servers_dismissed {winner : RaceWinner} : (dismissed k winner w).servers = w.servers := by
  cases winner <;> rfl

/-- The conclusion leaves the tasks alone. -/
lemma tasks_concluded {result} : (concluded id s result w).tasks = w.tasks := by
  unfold concluded
  dsimp only
  split <;> rfl

/-- The conclusion takes the address of the server away. -/
lemma servers_concluded {result} {s' : Server} (here : w.servers[id]? = some s') :
    (concluded id s result w).servers[id]? = some { s' with localAddress := none } := by
  have cleared : (w.changeServer id fun s => { s with localAddress := none }).servers[id]? =
      some { s' with localAddress := none } := by
    rw [servers_changeServer, here, Option.map_some]
  unfold concluded
  dsimp only
  split
  · exact cleared
  · exact cleared

/-- A shutdown whose race is decided comes to its end. -/
lemma stops {winner : RaceWinner} {deadline : Nat} {s' : Server} {t : ServeTask}
    (decided : raceIn k deadline ctx w = some winner) (here : w.servers[id]? = some s')
    (task : w.tasks[k]? = some t) :
    ∃ result v, (stopping id s k (some winner)).poll w = (.done (.shutDown result), v) ∧
      Stops id s k deadline ctx w result v := by
  obtain ⟨t', dismisses, goes, listens, slot, ended⟩ := dismissed_task decided task
  let drain (t : ServeTask) : ServeTask := { t with slot := t.slot.drain.2 }
  have drains : drainSlot k (dismissed k winner w) =
      (t.slot.content, (dismissed k winner w).changeTask k drain) := by
    rw [drainSlot, dismisses, ← slot]
    rfl
  have servers : ((dismissed k winner w).changeTask k drain).servers[id]? = some s' := by
    show (dismissed k winner w).servers[id]? = some s'
    rw [servers_dismissed, here]
  have drained : ((dismissed k winner w).changeTask k drain).tasks[k]? = some (drain t') := by
    rw [tasks_changeTask, dismisses, Option.map_some]
  refine ⟨_, _, poll_stopping winner, ⟨winner, decided, ?_⟩, ?_⟩
  · rw [drains, World.reported, task]
    rfl
  · rw [drains]
    have cleared {result} : (concluded id s result ((dismissed k winner w).changeTask k
        drain)).servers[id]? = some { s' with localAddress := none } := servers_concluded servers
    constructor
    · intro j other
      rw [tasks_concluded, tasks_changeTask_ne other.symm, dismissed_tasks_ne other]
    · refine ⟨t, drain t', task, ?_, goes.trans (.of_eq rfl rfl rfl rfl rfl), listens, ?_⟩
      · rw [tasks_concluded, drained]
      · rw [← slot]
    · rw [tasks_concluded, World.changeTask, List.length_modify, length_dismissed]
    · refine ⟨drain t', ?_, ended⟩
      rw [tasks_concluded, drained]
    · rw [World.held, cleared, World.held, here]
      rfl
    · rw [World.kindOf, cleared, World.kindOf, here]
      rfl
    · rw [World.addressOf, cleared]
      rfl

/-! ## Visits -/

/-- All that a visit can do when it begins. -/
inductive Begins (id : Nat) (w : World κ υ) : Use → Flow κ υ Answer → World κ υ → Prop where
  | refused {k : Nat} :
    w.held id = some k →
    Begins id w .launch (.done (.launched (.error .alreadyStarted))) w
  | spawned {k : Nat} {w' : World κ υ} :
    w.kindOf id = some .http →
    Spawns id k none w w' →
    Begins id w .launch (.done (.launched (.ok ()))) w'
  | failed {s : Server} {e : ServerError} :
    w.held id = none →
    w.servers[id]? = some s →
    s.kind = .grpc →
    bindAddress s.address w.host = .error e →
    Begins id w .launch (.done (.launched (.error e))) w
  | claims {a : SocketAddress} {host : Host} :
    w.held id = none →
    w.kindOf id = some .grpc →
    Begins id w .launch (claiming id a) { w with host := host }
  | nothing {ctx : Token} :
    w.held id = none →
    Begins id w (.shutdown ctx) (.done (.shutDown (.ok ()))) w
  | takes {ctx : Token} {s : Server} {k : Nat} {w' : World κ υ} :
    w.servers[id]? = some s →
    s.serving = some k →
    Takes id k w w' →
    Begins id w (.shutdown ctx) (racing id s k (w.now + s.timeoutMs) ctx) w'
  | stops {ctx : Token} {s : Server} {k : Nat} {v w' : World κ υ} {result} :
    w.servers[id]? = some s →
    s.serving = some k →
    Takes id k w v →
    Stops id s k (w.now + s.timeoutMs) ctx v result w' →
    Begins id w (.shutdown ctx) (.done (.shutDown result)) w'

/-- The held task of a server exists. -/
def HasTask (id : Nat) (w : World κ υ) : Prop :=
  ∀ k, w.held id = some k → ∃ t, w.tasks[k]? = some t

/-- A launch begins in one of the ways in which visits do. -/
theorem begins_launch (here : w.servers[id]? = some s) {rest w'}
    (polls : (Use.launch.flow id).poll w = (rest, w')) : Begins id w .launch rest w' := by
  have kinds : w.kindOf id = some s.kind := by rw [World.kindOf, here, Option.map_some]
  cases idle : w.held id with
  | some k =>
    have busy : ¬isIdle id w = true := by
      rw [isIdle_iff here, idle]
      intro h
      cases h
    cases kind : s.kind with
    | http =>
      rw [poll_launch_http here kind, if_neg busy] at polls
      cases polls
      exact .refused idle
    | grpc =>
      have refuses : bindIdle id w = (.error .alreadyStarted, w) := by
        rw [World.held, here, Option.bind_some] at idle
        simp [bindIdle, here, idle]
      rw [poll_launch_grpc here kind, refuses] at polls
      cases polls
      exact .refused idle
  | none =>
    cases kind : s.kind with
    | http =>
      rw [poll_launch_http here kind, if_pos ((isIdle_iff here).2 idle)] at polls
      cases polls
      exact .spawned (kinds.trans (congrArg some kind)) (spawns here idle none)
    | grpc =>
      rw [poll_launch_grpc here kind] at polls
      -- a gRPC server binds its address before it claims, and may wait with it
      have free : s.serving = none := by rwa [World.held, here, Option.bind_some] at idle
      cases bound : bindAddress s.address w.host with
      | error e =>
        have fails : bindIdle id w = (.error e, w) := by simp [bindIdle, here, free, bound]
        rw [fails] at polls
        cases polls
        exact .failed idle here kind bound
      | ok bound' =>
        have binds : bindIdle id w = (.ok bound'.1, { w with host := bound'.2 }) := by
          simp [bindIdle, here, free, bound]
        rw [binds] at polls
        cases polls
        exact .claims idle (kinds.trans (congrArg some kind))

/-- A shutdown begins in one of the ways in which visits do, if the task that the server holds
exists. -/
theorem begins_shutdown (here : w.servers[id]? = some s) (task : HasTask id w) {rest w'}
    (polls : ((Use.shutdown ctx).flow id).poll w = (rest, w')) :
    Begins id w (.shutdown ctx) rest w' := by
  cases held : w.held id with
  | none =>
    rw [poll_shutdown_none held] at polls
    cases polls
    exact .nothing held
  | some k =>
    have serving : s.serving = some k := by rwa [World.held, here, Option.bind_some] at held
    have taken : Takes id k w (handedOver id k w) := takes here
    rw [poll_shutdown_some here serving] at polls
    dsimp only at polls
    cases decided : raceIn k (w.now + s.timeoutMs) ctx (handedOver id k w) with
    | none =>
      rw [decided] at polls
      cases polls
      exact .takes here serving taken
    | some winner =>
      rw [decided] at polls
      obtain ⟨t, task⟩ := task k held
      have asked : (handedOver id k w).tasks[k]? = some (request t) := by
        show (World.changeTask k request _).tasks[k]? = _
        rw [tasks_changeTask]
        exact congrArg (Option.map request) task
      have there : (handedOver id k w).servers[id]? = some { s with serving := none } := by
        show (World.changeServer id _ _).servers[id]? = _
        rw [servers_changeServer, here, Option.map_some]
      obtain ⟨result, v, poll, stops⟩ := stops (s := s) decided there asked
      have polls := poll.symm.trans polls
      cases polls
      exact .stops here serving taken stops

/-- A launch that goes on with its address is refused, or spawns the task. -/
theorem claim_cases (here : w.servers[id]? = some s) {rest w'}
    (polls : ((claim id a).bind fun outcome => Activity.done (Answer.launched outcome)).poll w =
      (rest, w')) :
    (∃ k, w.held id = some k ∧ rest = .done (.launched (.error .alreadyStarted)) ∧
      w' = { w with host := w.host.release a }) ∨
    ∃ k, rest = .done (.launched (.ok ())) ∧ Spawns id k (some a) w w' := by
  rw [poll_claim] at polls
  cases idle : w.held id with
  | none =>
    rw [if_pos ((isIdle_iff here).2 idle)] at polls
    cases polls
    exact .inr ⟨w.tasks.length, rfl, spawns here idle (some a)⟩
  | some k =>
    have busy : ¬isIdle id w = true := by
      rw [isIdle_iff here, idle]
      exact fun h => nomatch h
    rw [if_neg busy] at polls
    cases polls
    exact .inl ⟨k, rfl, rfl, rfl⟩

end Server

end Supervision
