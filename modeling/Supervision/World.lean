import Supervision.Journal
import Supervision.Orchestrator
import Supervision.Server.Task
import Supervision.Token

/-!
# Worlds

The state that all activities share: clock, tokens, signals, journal and metrics, an orchestrator,
the servers with their serve tasks, the machine they run on, and whatever the callbacks themselves
remember (`user`). Callbacks are known by handles `κ`.

What comes about by itself at an instant, without any activity, is an `Incident`.
-/

namespace Supervision
open Net Server

/-- A signal of the operating system. -/
inductive Signal where
  | interrupt
  | terminate
  | quit
  /-- The size of a terminal has changed. -/
  | windowChange
deriving DecidableEq, Repr, Inhabited

/-- The signal asks a service to end. -/
def Signal.isShutdown : Signal → Bool
  | .interrupt => true
  | .terminate => true
  | .quit => true
  | .windowChange => false

/-- What comes about by itself. Serve tasks are known by their numbers. -/
inductive Incident where
  /-- Somebody outside cancels a token. -/
  | cancellation (t : Token)
  | signal (s : Signal)
  /-- A client opens an exchange with a serve task. -/
  | exchange (task : Nat) (x : Exchange)
  /-- A serve task reports an error. -/
  | report (task : Nat) (e : ServerError)
  /-- A serve task ends without being asked to. -/
  | ending (task : Nat) (panicked : Bool)

/-- The shared state. -/
structure World (κ υ : Type) where
  now : Nat := 0
  tokens : Tokens := {}
  /-- The incidents to come, with their instants. -/
  incidents : List (Nat × Incident) := []
  /-- The signals so far. -/
  signals : List Signal := []
  /-- The number of parties that have ever watched for a signal. -/
  signalWatchers : Nat := 0
  /-- The warnings and errors so far. -/
  journal : List Record := []
  /-- The samples of metrics so far. -/
  samples : List Metric := []
  orchestrator : Orchestrator κ := {}
  servers : List Server := []
  tasks : List ServeTask := []
  host : Host
  user : υ

namespace World

variable {κ υ : Type}

/-- Adds a record to the journal. -/
def log (r : Record) (w : World κ υ) : World κ υ :=
  { w with journal := w.journal ++ [r] }

/-- Adds records to the journal. -/
def logAll (rs : List Record) (w : World κ υ) : World κ υ :=
  { w with journal := w.journal ++ rs }

/-- Adds a sample of a metric. -/
def count (m : Metric) (w : World κ υ) : World κ υ :=
  { w with samples := w.samples ++ [m] }

/-- Adds samples of metrics. -/
def countAll (ms : List Metric) (w : World κ υ) : World κ υ :=
  { w with samples := w.samples ++ ms }

/-- A token is cancelled. -/
def isCancelled (w : World κ υ) (t : Token) : Bool :=
  w.tokens.isCancelled t

/-- Cancels a token. -/
def cancel (t : Token) (w : World κ υ) : World κ υ :=
  { w with tokens := w.tokens.cancel t }

/-- A signal arrives. -/
def receive (s : Signal) (w : World κ υ) : World κ υ :=
  { w with signals := w.signals ++ [s] }

/-- An incident is to come about at an instant. -/
def schedule (instant : Nat) (incident : Incident) (w : World κ υ) : World κ υ :=
  { w with incidents := w.incidents ++ [(instant, incident)] }

/-- Hands out a token. -/
def freshToken (w : World κ υ) : Token × World κ υ :=
  let (t, tokens) := w.tokens.fresh
  (t, { w with tokens := tokens })

/-- Changes the orchestrator. -/
def changeOrchestrator (f : Orchestrator κ → Orchestrator κ) (w : World κ υ) : World κ υ :=
  { w with orchestrator := f w.orchestrator }

/-- Changes a server. -/
def changeServer (id : Nat) (f : Server → Server) (w : World κ υ) : World κ υ :=
  { w with servers := w.servers.modify id f }

/-- Adds a server, and returns its number. -/
def addServer (s : Server) (w : World κ υ) : Nat × World κ υ :=
  (w.servers.length, { w with servers := w.servers ++ [s] })

/-- Changes a serve task. -/
def changeTask (id : Nat) (f : ServeTask → ServeTask) (w : World κ υ) : World κ υ :=
  { w with tasks := w.tasks.modify id f }

/-- Changes what the callbacks remember. -/
def changeUser (f : υ → υ) (w : World κ υ) : World κ υ :=
  { w with user := f w.user }

end World

end Supervision
