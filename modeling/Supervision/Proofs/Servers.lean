import Supervision.Proofs.Execution
import Supervision.Server.Stop

/-!
# What servers do

To launch or to stop a server comes down to a few kinds of steps (`Server.Does`). None of them
changes a token or touches the orchestrator (`Server.start_respects`, `Server.stop_respects`).
-/

namespace Supervision

variable {κ υ : Type}

/-- The means by which a service is controlled are the same: its tokens, with those that are going
to be cancelled, and its orchestrator. -/
structure World.SameControl (w w' : World κ υ) : Prop where
  tokens : w'.tokens = w.tokens
  incidents : w'.incidents = w.incidents
  orchestrator : w'.orchestrator = w.orchestrator

/-- A service is controlled by the same means as long as nothing happens. -/
lemma World.SameControl.refl {w : World κ υ} : w.SameControl w :=
  ⟨rfl, rfl, rfl⟩

/-- Means of control that stay the same twice stay the same. -/
lemma World.SameControl.trans {w w' w'' : World κ υ} (first : w.SameControl w')
    (rest : w'.SameControl w'') : w.SameControl w'' :=
  ⟨rest.tokens.trans first.tokens, rest.incidents.trans first.incidents,
    rest.orchestrator.trans first.orchestrator⟩

namespace Server
open Activity World

variable {id task ms : Nat} {ctx : Token}

/-- The server as it was made: it holds no task, and has no address. -/
def blank (s : Server) : Server :=
  { s with localAddress := none, serving := none }

/-- A step of a server that is launched, or that stops a task. -/
inductive Does (id task : Nat) (w : World κ υ) : World κ υ → Prop where
  | nothing : Does id task w w
  | binds (host : Net.Host) : Does id task w { w with host := host }
  | spawns (listening : Option Net.SocketAddress) : Does id task w (spawn id listening w)
  | remembers {f : Server → Server} :
    (∀ s, (f s).blank = s.blank) →
    Does id task w (w.changeServer id f)
  | tells (f : ServeTask → ServeTask) : Does id task w (w.changeTask task f)
  | logs (name : String) : Does id task w (w.log (.serverForced name))

/-- What a server does leaves the control of the service alone. -/
lemma Does.sameControl {w w' : World κ υ} (does : Does id task w w') : w.SameControl w' := by
  cases does <;> exact ⟨rfl, rfl, rfl⟩

/-! ## Stops -/

/-- To take the report of a task is what a server may do. -/
lemma drainSlot_does {w : World κ υ} : Does id task w (drainSlot task w).2 := by
  unfold drainSlot
  split
  · exact .nothing
  · exact .tells _

/-- The stop of a task is made up of what a server may do. -/
lemma stopTask_does : (stopTask task ms ctx : Flow κ υ _).Respects (Does id task) := by
  apply Respects.bind (.change fun _ => .tells _)
  intro _
  apply Respects.bind (.look fun _ => .nothing)
  intro now
  apply Respects.bind (.awaitLook fun _ => .nothing)
  intro winner
  have drains : (do
      let reported ← Activity.step (drainSlot task)
      pure (Errors.outcome (winner.toList.flatMap (raceFailure ms) ++ reported.toList)) :
        Flow κ υ _).Respects (Does id task) :=
    .bind (.step fun _ => drainSlot_does) fun _ => .done
  split
  · exact drains
  · exact .bind (.change fun _ => .tells _) fun _ => drains

/-- A shutdown takes the address away after the stop of the task. -/
def conclude (id : Nat) (s : Server) (result : Except (Errors ServerError) Unit) :
    Flow κ υ (Except (Errors ServerError) Unit) := do
  Activity.change (World.changeServer id fun s => { s with localAddress := none })
  if s.kind = .grpc && wasForced result then Flow.log (.serverForced s.name)
  pure result

/-- A shutdown that has taken the task of its server. -/
def stopTaken (id : Nat) (ctx : Token) :
    Option (Server × Nat) → Flow κ υ (Except (Errors ServerError) Unit)
  | none => pure (.ok ())
  | some (s, k) => (stopTask k s.timeoutMs ctx).bind (conclude id s)

/-- So is a shutdown that has taken the task of its server. -/
lemma stopTaken_does {s : Server} :
    (stopTaken id ctx (some (s, task)) : Flow κ υ _).Respects (Does id task) := by
  apply Respects.bind stopTask_does
  intro result
  apply Respects.bind (.change fun _ => .remembers fun _ => rfl)
  intro _
  split
  · exact .bind (.change fun _ => .logs _) fun _ => .done
  · exact .done

/-- So is the step in which a shutdown takes the task. -/
lemma takeTask_does {w : World κ υ} : Does id task w (takeTask id w).2 := by
  unfold takeTask
  split
  · exact .nothing
  · split
    · exact .nothing
    · exact .remembers fun _ => rfl

/-- A stop is made up of what the server may do with the task that it has taken. -/
lemma stop_does : (stop id ctx : Flow κ υ _).Respects fun w w' => ∃ k, Does id k w w' := by
  have stops (taken : Option (Server × Nat)) :
      (stopTaken id ctx taken : Flow κ υ _).Respects fun w w' => ∃ k, Does id k w w' := by
    cases taken with
    | none => exact .done
    | some taken => exact stopTaken_does.mono fun does => ⟨_, does⟩
  have shuts : (shutdown id ctx : Flow κ υ _).Respects fun w w' => ∃ k, Does id k w w' :=
    .bind (.step fun _ => ⟨0, takeTask_does⟩) stops
  exact .bind shuts fun _ => .done

/-- A stop leaves the control of the service alone. -/
theorem stop_respects : (stop id ctx : Flow κ υ _).Respects SameControl :=
  stop_does.mono fun ⟨_, does⟩ => does.sameControl

/-! ## Starts -/

/-- To bind the address of an idle server is what it may do. -/
lemma bindIdle_does {w : World κ υ} : Does id task w (bindIdle id w).2 := by
  unfold bindIdle
  split
  · exact .nothing
  · split
    · exact .nothing
    · split
      · exact .nothing
      · exact .binds _

/-- The launch of an HTTP server is made up of what it may do. -/
lemma launchHttp_does : (launchHttp id : Flow κ υ _).Respects (Does id task) := by
  apply Respects.step
  intro w
  split
  · exact .spawns none
  · exact .nothing

/-- The launch of a gRPC server is made up of what it may do. -/
lemma launchGrpc_does : (launchGrpc id : Flow κ υ _).Respects (Does id task) := by
  apply Respects.bind (.step fun _ => bindIdle_does)
  intro bound
  split
  next => exact .done
  next address =>
    apply Respects.bind (.wait fun _ => .done)
    intro _
    apply Respects.step
    intro w
    split
    · exact .spawns (some address)
    · exact .binds _

/-- A start is made up of what the server may do. -/
lemma start_does : (start id : Flow κ υ _).Respects (Does id task) := by
  apply Respects.bind _ fun _ => .done
  apply Respects.bind (.look fun _ => .nothing)
  intro kind
  split
  · exact launchGrpc_does
  · exact launchHttp_does

/-- A start leaves the control of the service alone. -/
theorem start_respects : (start id : Flow κ υ _).Respects SameControl :=
  start_does.mono fun {_ _} (does : Does id 0 _ _) => does.sameControl

end Server

end Supervision
