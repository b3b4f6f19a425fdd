import Supervision.Proofs.Binding

/-!
# Servers that stand

`World.Stands` is what is known of a server in the hands of a run, before its launch and after it:
what it is made of, which task it holds, and that the task of a refused HTTP server cannot bind.
Whatever happens elsewhere leaves a server as it stands. `Server.start_binds` says what a launch
comes to, and `Server.stop_reports` that the failure of a bind is in the slot of the task when the
stop of its server looks there, however early that is.
-/

namespace Supervision
open Activity Net Server

variable {κ υ α : Type} {refuses : Nat → Option String} {id id' k k' : Nat} {s s' : Server}
  {task? : Option Nat} {ctx : Token} {w w' u : World κ υ}

namespace World

/-! ## Standing -/

/-- The task was spawned for the server, and cannot bind if the server is a refused one. -/
structure Carries (refuses : Nat → Option String) (id : Nat) (s : Server) (k : Nat)
    (w : World κ υ) : Prop where
  owns : w.Owns id k
  fails : ∀ reason, s.kind = .http → refuses id = some reason →
    w.CannotBind id k (.bind s.address reason)

/-- A server stands, and holds the task. -/
structure Stands (refuses : Nat → Option String) (id : Nat) (s : Server) (task? : Option Nat)
    (w : World κ υ) : Prop where
  make : w.make id = some s.blank
  holds : w.held id = task?
  carries : ∀ k, task? = some k → w.Carries refuses id s k

/-- Whether a server has this task shows in the task. -/
lemma Carries.of_same (carries : w.Carries refuses id s k)
    (task : ∀ t, w.tasks[k]? = some t → w'.tasks[k]? = some t) : w'.Carries refuses id s k := by
  constructor
  · obtain ⟨t, here, own⟩ := carries.owns
    exact ⟨t, task t here, own⟩
  · intro reason kind refused
    obtain ⟨t, here, fails⟩ := carries.fails reason kind refused
    exact ⟨t, task t here, fails⟩

/-- As time passes, a server keeps the task that it holds, and all that are its own. -/
lemma keeps_passes (passes : World.clockwork.Passes w u) :
    u.held id = w.held id ∧ ∀ k, w.Owns id k → u.Owns id k := by
  have besides : Relation.ReflTransGen (Besides id) w u := besides_of_passes passes
  clear passes
  induction besides with
  | refl => exact ⟨rfl, fun _ owns => owns⟩
  | tail _ step ih =>
    obtain ⟨news, minds⟩ := step.minds
    exact ⟨minds.held.trans ih.1, fun k owns => minds.forth k (ih.2 k owns)⟩

/-- A server has its task as long as the background lives on. -/
lemma Carries.lives (carries : w.Carries refuses id s k) (make : w.make id = some s.blank)
    (lives : w.Lives refuses u) : u.Carries refuses id s k := by
  constructor
  · exact (keeps_passes lives.passes).2 k carries.owns
  · intro reason kind refused
    exact lives.cannotBind make kind refused (carries.fails reason kind refused)

namespace Stands

/-- The server and its task are all that counts. -/
lemma of_same (stands : w.Stands refuses id s task?)
    (server : w'.servers[id]? = w.servers[id]?)
    (task : ∀ k t, task? = some k → w.tasks[k]? = some t → w'.tasks[k]? = some t) :
    w'.Stands refuses id s task? := by
  constructor
  · rw [World.make, server]
    exact stands.make
  · rw [held, server]
    exact stands.holds
  · intro k holds
    exact (stands.carries k holds).of_same fun t => task k t holds

/-- How a server stands shows in the servers and tasks. -/
lemma of_eq (stands : w.Stands refuses id s task?) (servers : w'.servers = w.servers)
    (tasks : w'.tasks = w.tasks) : w'.Stands refuses id s task? := by
  apply stands.of_same
  · rw [servers]
  · intro k t _ here
    rw [tasks]
    exact here

/-- A server stands as before after something has happened elsewhere. -/
lemma elsewhere (stands : w.Stands refuses id s task?) (elsewhere : w.Elsewhere id w') :
    w'.Stands refuses id s task? := by
  apply stands.of_same elsewhere.server
  intro k t holds here
  obtain ⟨t', here', own⟩ := (stands.carries k holds).owns
  cases here.symm.trans here'
  exact (elsewhere.tasks k t own).2 here

/-- A server stands as before as long as the background lives on. -/
lemma lives (stands : w.Stands refuses id s task?) (lives : w.Lives refuses u) :
    u.Stands refuses id s task? := by
  constructor
  · exact (sameMakes_passes lives.passes id).trans stands.make
  · exact (keeps_passes lives.passes).1.trans stands.holds
  · intro k holds
    exact (stands.carries k holds).lives stands.make lives

/-- Two servers hold different tasks. -/
lemma ne (stands : w.Stands refuses id s (some k)) (stands' : w.Stands refuses id' s' (some k'))
    (other : id' ≠ id) : k ≠ k' := by
  rintro rfl
  obtain ⟨t, here, own⟩ := (stands.carries k rfl).owns
  obtain ⟨t', here', own'⟩ := (stands'.carries k rfl).owns
  cases here.symm.trans here'
  exact other (own'.symm.trans own)

/-! ## Other servers -/

/-- A server stands as before after something was done to another one. -/
lemma does (stands : w.Stands refuses id s task?) (does : Does id' k' w w') (other : id' ≠ id)
    (foreign : task? ≠ some k') : w'.Stands refuses id s task? := by
  cases does with
  | nothing => exact stands
  | binds => exact stands.of_eq rfl rfl
  | spawns =>
    apply stands.of_same
    · exact servers_changeServer_ne other
    · intro k t _ here
      exact List.getElem?_append_left (List.getElem?_eq_some_iff.1 here).1 ▸ here
  | remembers =>
    apply stands.of_same
    · exact servers_changeServer_ne other
    · exact fun _ _ _ here => here
  | tells =>
    refine stands.of_same ?_ ?_
    · rfl
    · intro k t holds here
      rw [tasks_changeTask_ne, here]
      rintro rfl
      exact foreign holds
  | logs => exact stands.of_eq rfl rfl

/-- A server stands through every activity whose steps leave it as it stands. -/
lemma runs {R : World κ υ → World κ υ → Prop} {p : Flow κ υ α} {r}
    (stands : w.Stands refuses id s task?) (respects : p.Respects R)
    (keeps : ∀ {v v'}, R v v' → v.Stands refuses id s task? → v'.Stands refuses id s task?)
    (run : p.Runs (binding refuses) w r u) : u.Stands refuses id s task? := by
  have keeps : p.Respects fun v v' =>
      v.Stands refuses id s task? → v'.Stands refuses id s task? := respects.mono keeps
  refine keeps.runs run (fun _ stands => stands) (fun first rest => rest ∘ first) ?_ ?_ stands
  · rintro v _ rfl
    exact fun stands => stands
  · intro v v' lives stands
    exact stands.lives lives

/-- A server stands as before after the start of another one. -/
lemma start_other (stands : w.Stands refuses id s task?) (other : id' ≠ id) {r}
    (run : (Server.start id').Runs (binding refuses) w r u) : u.Stands refuses id s task? := by
  -- a launch tells no task anything
  obtain ⟨k', foreign⟩ : ∃ k', task? ≠ some k' := by
    cases task? with
    | none => exact ⟨0, nofun⟩
    | some k => exact ⟨k + 1, by simp⟩
  have does : (Server.start id' : Flow κ υ _).Respects (Does id' k') := start_does
  exact stands.runs does (fun does stands => stands.does does other foreign) run

/-- What a stop does once it has taken the task of its server. -/
def stopResult (id : Nat) (ctx : Token) (taken : Option (Server × Nat)) : Flow κ υ Outcome :=
  (stopTaken id ctx taken).bind fun result => .done (result.mapError .server)

/-- A server stands as before after the stop of another one with a task of its own. -/
lemma stop_other (stands : w.Stands refuses id s task?) (other : id' ≠ id)
    (foreign : ∀ k', w.held id' = some k' → task? ≠ some k') {r}
    (run : (Server.stop id' ctx).Runs (binding refuses) w r u) :
    u.Stands refuses id s task? := by
  have run := runs_step (k := stopResult id' ctx) run
  cases held : w.held id' with
  | none =>
    rw [takeTask_none held] at run
    cases run
    exact stands
  | some k' =>
    obtain ⟨s', here, serving⟩ := Option.bind_eq_some_iff.1 held
    have foreign := foreign k' held
    rw [takeTask_some here serving] at run
    have taken : Does id' k' w (takeTask id' w).2 := takeTask_does
    rw [takeTask_some here serving] at taken
    have stands := stands.does taken other foreign
    have does : (stopResult id' ctx (some (s', k')) : Flow κ υ _).Respects (Does id' k') :=
      .bind stopTaken_does fun _ => .done
    exact stands.runs does (fun does stands => stands.does does other foreign) run

end Stands

end World

namespace Server
open World

/-! ## Launches -/

/-- What a launch comes to. -/
def launched (refuses : Nat → Option String) (id : Nat) (s : Server) : Outcome :=
  match s.kind, refuses id with
  | .grpc, some reason => .error (.server (.single (.bind s.address reason)))
  | _, _ => .ok ()

/-- A server that holds no task gets one, which has not had its first turn. -/
lemma stands_spawn (stands : w.Stands refuses id s none) (listening : Option SocketAddress) :
    (spawn id listening w).Stands refuses id s (some w.tasks.length) := by
  obtain ⟨s', here, -⟩ := server_of_make stands.make
  have spawns := spawns here stands.holds listening
  constructor
  · have makes : SameMakes w (spawn id listening w) := by
      refine SameMakes.trans (.of_eq ?_) (.changeServer fun _ => rfl)
      rfl
    exact (makes id).trans stands.make
  · exact spawns.held
  · rintro k ⟨⟩
    refine ⟨⟨_, spawns.task, rfl⟩, ?_⟩
    intro reason _ _
    exact ⟨_, spawns.task, rfl, .untried rfl rfl rfl⟩

/-- A launch of an HTTP server spawns its task, as does that of a gRPC server that can bind. Any
other is refused. -/
lemma launch_binds {r} (run : (launch id).Runs (binding refuses) w r u)
    (stands : w.Stands refuses id s none) (binds : s.kind = .grpc → w.BindsAs refuses id s) :
    (s.kind = .http ∨ refuses id = none) ∧ r = some (.ok ()) ∧
        (∃ k, u.Stands refuses id s (some k)) ∨
      ∃ reason, s.kind = .grpc ∧ refuses id = some reason ∧
        r = some (.error (.bind s.address reason)) := by
  obtain ⟨s', here, kind, address, -⟩ := server_of_make stands.make
  have run := runs_look run
  rw [here, Option.map_some, kind] at run
  cases kinds : s.kind with
  | http =>
    rw [kinds] at run
    have idle : isIdle id w = true := (isIdle_iff here).2 stands.holds
    have run := runs_step (k := Activity.done) run
    simp only [idle, if_true] at run
    cases run
    exact .inl ⟨.inl rfl, rfl, _, stands_spawn stands none⟩
  | grpc =>
    rw [kinds] at run
    have run := runs_step run
    have free : s'.serving = none := by
      have holds := stands.holds
      rwa [held, here, Option.bind_some] at holds
    have comesOut := binds kinds
    cases refused : refuses id with
    | some reason =>
      rw [BindsAs, refused, Option.map_some, bindFailure?_eq_some, ← address] at comesOut
      have fails : bindIdle id w = (.error (.bind s'.address reason), w) := by
        simp [bindIdle, here, free, comesOut]
      rw [fails] at run
      cases run
      exact .inr ⟨reason, rfl, rfl, by rw [address]⟩
    | none =>
      rw [BindsAs, refused, Option.map_none, bindFailure?_eq_none, ← address] at comesOut
      obtain ⟨⟨a, host⟩, bound⟩ := comesOut
      have binds : bindIdle id w = (.ok a, { w with host := host }) := by
        simp [bindIdle, here, free, bound]
      rw [binds] at run
      have stands : World.Stands refuses id s none { w with host := host } := stands.of_eq rfl rfl
      -- the server still holds no task after the wait
      cases run with
      | waiting _ waits => cases waits
      | resumed lives _ run =>
        have stands := stands.lives lives
        obtain ⟨s', here, -⟩ := server_of_make stands.make
        have idle : isIdle id _ = true := (isIdle_iff here).2 stands.holds
        have run := runs_step (k := Activity.done) run
        simp only [idle, if_true] at run
        cases run
        exact .inl ⟨.inr rfl, rfl, _, stands_spawn stands (some a)⟩

/-- A launch always returns. It fails if the server is a gRPC server that cannot bind its address,
and if not, the server holds a task then. -/
theorem start_binds {r} (run : (start id).Runs (binding refuses) w r u)
    (stands : w.Stands refuses id s none) (binds : s.kind = .grpc → w.BindsAs refuses id s) :
    r = some (launched refuses id s) ∧
      (launched refuses id s = .ok () → ∃ k, u.Stands refuses id s (some k)) := by
  obtain ⟨rfl, launches⟩ | ⟨result, v, launches, final⟩ := runs_bind_iff.1 run
  · obtain ⟨-, ⟨⟩, -⟩ | ⟨-, -, -, ⟨⟩⟩ := launch_binds launches stands binds
  · cases final
    obtain ⟨bound, result, stands⟩ | ⟨reason, kind, refused, result⟩ :=
      launch_binds launches stands binds
    · cases result
      have succeeds : launched refuses id s = .ok () := by
        obtain kind | bound := bound
        · rw [launched, kind]
        · rw [launched, bound]
          cases s.kind <;> rfl
      rw [succeeds]
      exact ⟨rfl, fun _ => stands⟩
    · cases result
      have fails : launched refuses id s = .error (.server (.single (.bind s.address reason))) := by
        rw [launched, kind, refused]
      rw [fails]
      exact ⟨rfl, nofun⟩

/-! ## Stops -/

/-- The stop of a task that cannot bind reports so once its race is decided, unless the time is up
or the context cancelled before the first turn of the task. -/
lemma Stops.reports_bind {deadline : Nat} {e : ServerError} {result}
    (stops : Stops id s' k deadline ctx w result w') (fails : w.CannotBind id k e)
    (tried : w.Settled id ∨ w.now < deadline ∧ w.isCancelled ctx = false) :
    result = .error (.single e) := by
  obtain ⟨t, here, own, fails⟩ := fails
  obtain ⟨winner, decided, rfl⟩ := stops.result
  cases fails with
  | untried spawned =>
    obtain settled | ⟨early, live⟩ := tried
    · exact absurd spawned (settled k t here own)
    · have undecided : Undecided k deadline ctx w := by
        refine ⟨fun t' here' => ?_, early, live⟩
        cases here.symm.trans here'
        rw [ServeTask.hasEnded, spawned]
      rw [raceIn_eq_none_iff.2 undecided] at decided
      cases decided
  | failed ended content =>
    have ends : raceIn k deadline ctx w = some (.taskEnded false) := by
      rw [raceIn, here, Option.bind_some, ServeTask.ended?, ended, raceWinner?]
    cases ends.symm.trans decided
    rw [World.reported, here, Option.bind_some, content]
    rfl

/-- To give a task away changes no make. -/
lemma make_handedOver : SameMakes w (handedOver id k w) := by
  have takes : SameMakes w (w.changeServer id fun s => { s with serving := none }) :=
    .changeServer fun _ => rfl
  refine takes.trans (.of_eq ?_)
  rfl

/-- To give a task away leaves it a task of its server. -/
lemma carries_handedOver (carries : w.Carries refuses id s k) :
    (handedOver id k w).Carries refuses id s k := by
  constructor
  · obtain ⟨t, here, own⟩ := carries.owns
    refine ⟨request t, ?_, own⟩
    rw [handedOver, tasks_changeTask]
    exact congrArg (Option.map request) here
  · intro reason kind refused
    have fails := carries.fails reason kind refused
    exact CannotBind.changeTask (fails.of_tasks rfl) fun _ => ⟨rfl, rfl, rfl, rfl⟩

/-- A shutdown whose race is decided returns. -/
lemma stopping_reports {deadline : Nat} {r : Option (Except (Errors ServerError) Unit)}
    (run : ((stopping id s' k (raceIn k deadline ctx w)).poll w).1.Runs (binding refuses)
      ((stopping id s' k (raceIn k deadline ctx w)).poll w).2 (r.map .shutDown) u)
    (decided : (raceIn k deadline ctx w).isSome = true) (make : w.make id = some s.blank)
    (carries : w.Carries refuses id s k)
    (tried : w.Settled id ∨ w.now < deadline ∧ w.isCancelled ctx = false) :
    ∃ result, r = some result ∧ ∀ reason, s.kind = .http → refuses id = some reason →
      result = .error (.single (.bind s.address reason)) := by
  obtain ⟨winner, decided⟩ := Option.isSome_iff_exists.1 decided
  obtain ⟨t, task, -⟩ := carries.owns
  obtain ⟨s'', here, -⟩ := server_of_make make
  obtain ⟨result, v, poll, stops⟩ := stops (s := s') decided here task
  rw [decided, poll] at run
  generalize returned : r.map Answer.shutDown = r' at run
  cases run
  obtain ⟨result, rfl, ⟨⟩⟩ := Option.map_eq_some_iff.1 returned
  refine ⟨result, rfl, fun reason kind refused => ?_⟩
  exact stops.reports_bind (carries.fails reason kind refused) tried

/-- A shutdown reports the failure of the bind, if there was one, unless it still has time. -/
lemma shutdown_reports {r} (run : (shutdown id ctx).Runs (binding refuses) w r u)
    (stands : w.Stands refuses id s (some k)) (time : 0 < s.timeoutMs)
    (live : w.isCancelled ctx = false) :
    r = none ∧ u.now < w.now + s.timeoutMs ∨
      ∃ result, r = some result ∧ ∀ reason, s.kind = .http → refuses id = some reason →
        result = .error (.single (.bind s.address reason)) := by
  obtain ⟨s', here, -, -, timeoutMs⟩ := server_of_make stands.make
  have serving : s'.serving = some k := by
    have holds := stands.holds
    rwa [held, here, Option.bind_some] at holds
  let v := handedOver id k w
  have make : v.make id = some s.blank := (make_handedOver id).trans stands.make
  have carries : v.Carries refuses id s k := carries_handedOver (stands.carries k rfl)
  have tried : v.now < w.now + s'.timeoutMs ∧ v.isCancelled ctx = false :=
    ⟨Nat.lt_add_of_pos_right (timeoutMs ▸ time), live⟩
  -- the shutdown as a visit, which asks the task to shut down first
  have visit : ((Use.shutdown ctx).flow id).Runs (binding refuses) w (r.map .shutDown) u := by
    cases r with
    | none => exact runs_bind_iff.2 (.inl ⟨rfl, run⟩)
    | some result => exact runs_bind_iff.2 (.inr ⟨result, u, run, .done⟩)
  have visit := Runs.poll visit
  rw [poll_shutdown_some here serving] at visit
  dsimp only at visit
  split at visit
  next decided => exact .inr (stopping_reports visit decided make carries (.inr tried))
  next =>
    generalize returned : r.map Answer.shutDown = r' at visit
    cases visit with
    | waiting lives waits =>
      left
      have undecided : Undecided k (w.now + s'.timeoutMs) ctx u := by
        apply raceTrigger_waits_iff.1
        exact (Bool.or_eq_false_iff.1 waits).1
      rw [← timeoutMs]
      exact ⟨Option.map_eq_none_iff.1 returned, undecided.early⟩
    | resumed lives ends stops =>
      right
      subst returned
      have decided := (Bool.or_false _).symm.trans ends
      refine stopping_reports stops.poll decided ((sameMakes_passes lives.passes id).trans make)
        (carries.lives make lives) ?_
      obtain rfl | settled := lives.settled make
      · exact .inr tried
      · exact .inl settled

/-- A stop returns in time. If its server is an HTTP server that could not bind its address, it
reports just that. -/
theorem stop_reports {r} (run : (stop id ctx).Runs (binding refuses) w r u)
    (stands : w.Stands refuses id s (some k)) (time : 0 < s.timeoutMs)
    (live : w.isCancelled ctx = false) :
    r = none ∧ u.now < w.now + s.timeoutMs ∨
      ∃ outcome, r = some outcome ∧ ∀ reason, s.kind = .http → refuses id = some reason →
        outcome = .error (.server (.single (.bind s.address reason))) := by
  obtain ⟨rfl, stops⟩ | ⟨result, v, stops, final⟩ := runs_bind_iff.1 run
  · obtain ⟨-, waits⟩ | ⟨-, ⟨⟩, -⟩ := shutdown_reports stops stands time live
    exact .inl ⟨rfl, waits⟩
  · cases final
    obtain ⟨⟨⟩, -⟩ | ⟨result, ⟨⟩, reports⟩ := shutdown_reports stops stands time live
    refine .inr ⟨_, rfl, fun reason kind refused => ?_⟩
    rw [reports reason kind refused]
    rfl

end Server

end Supervision
