import Supervision.Duration

/-!
# Failures

Why something went wrong: `Cause` is what a callback, a server or a whole run hands on,
`ServerError` what a server reports about itself, `LifecycleError` what a run reports about its
parts. A failing operation reports an `Errors` list, which has at least one member by its type; its
text is the members' texts, a line break between two.
-/

namespace Supervision

/-- One or more errors, in the order in which they arose. -/
structure Errors (ε : Type) where
  /-- The first error, usually the one that led to the others. -/
  first : ε
  others : List ε
deriving Repr

namespace Errors

variable {ε : Type}

/-- A single error. -/
def single (e : ε) : Errors ε :=
  ⟨e, []⟩

/-- A list of errors, or nothing where there is none. -/
def ofList? : List ε → Option (Errors ε)
  | [] => none
  | e :: es => some ⟨e, es⟩

/-- All errors in order. -/
def toList (es : Errors ε) : List ε :=
  es.first :: es.others

/-- The number of errors. -/
def size (es : Errors ε) : Nat :=
  es.toList.length

/-- A list of failures as an outcome: success if it is empty. -/
def outcome (failures : List ε) : Except (Errors ε) Unit :=
  match failures with
  | [] => .ok ()
  | e :: es => .error ⟨e, es⟩

end Errors

mutual

/-- The reason of a failure, as handed on by the part that failed. -/
inductive Cause where
  /-- A failure known by its message. -/
  | text (message : String)
  /-- What a server reported. -/
  | server (errors : Errors ServerError)
  /-- What another run reported. -/
  | lifecycle (errors : Errors LifecycleError)

/-- What a server reports about itself. -/
inductive ServerError where
  /-- The listener could not be bound to `address`. -/
  | bind (address reason : String)
  /-- The serve loop failed after the start had returned. -/
  | serve (cause : Cause)
  /-- The graceful shutdown took longer than `limit`; the server was forced down. -/
  | shutdownTimedOut (limit : Duration)
  /-- The stop was cancelled before the graceful shutdown was over. -/
  | shutdownCancelled
  /-- The server is running already. -/
  | alreadyStarted
  /-- The reflection service could not be built. -/
  | reflection (reason : String)

/-- What a run reports about one of its parts. Indices count from zero among parts of one kind. -/
inductive LifecycleError where
  /-- A component did not start; the run ends. -/
  | start (index : Nat) (cause : Cause)
  /-- A component could not be stopped again after a later one did not start. -/
  | rollback (index : Nat) (cause : Cause)
  /-- A runner did not start; the run ends. -/
  | runnerStart (runner : String) (cause : Cause)
  /-- A runner did not stop cleanly. -/
  | runnerStop (runner : String) (cause : Cause)
  /-- A component did not stop cleanly. -/
  | stop (index : Nat) (cause : Cause)
  /-- A shutdown hook failed. -/
  | shutdownHook (index : Nat) (cause : Cause)
  /-- An orchestrator runs once. -/
  | alreadyRun
  /-- An orchestrator has one HTTP server. -/
  | httpAlreadyConfigured
  /-- A health check has a name. -/
  | healthCheckNameRequired

end

instance : Inhabited Cause := ⟨.text ""⟩
instance : Inhabited ServerError := ⟨.alreadyStarted⟩
instance : Inhabited LifecycleError := ⟨.alreadyRun⟩

mutual

/-- The text of a cause. -/
def Cause.message : Cause → String
  | .text message => message
  | .server es => "\n".intercalate (serverTexts es)
  | .lifecycle es => "\n".intercalate (lifecycleTexts es)

/-- The texts of a server's errors. -/
def serverTexts : Errors ServerError → List String
  | ⟨e, es⟩ => e.message :: serverListTexts es

/-- The texts of a list of server errors. -/
def serverListTexts : List ServerError → List String
  | [] => []
  | e :: es => e.message :: serverListTexts es

/-- The texts of a run's errors. -/
def lifecycleTexts : Errors LifecycleError → List String
  | ⟨e, es⟩ => e.message :: lifecycleListTexts es

/-- The texts of a list of lifecycle errors. -/
def lifecycleListTexts : List LifecycleError → List String
  | [] => []
  | e :: es => e.message :: lifecycleListTexts es

/-- The text of a server's error. -/
def ServerError.message : ServerError → String
  | .bind address reason => "failed to listen on " ++ address ++ ": " ++ reason
  | .serve cause => "serve loop failed: " ++ cause.message
  | .shutdownTimedOut limit => "graceful shutdown did not finish within " ++ limit.text
  | .shutdownCancelled => "graceful shutdown interrupted by cancellation"
  | .alreadyStarted => "server already started"
  | .reflection reason => "grpc reflection: " ++ reason

/-- The text of a lifecycle error. -/
def LifecycleError.message : LifecycleError → String
  | .start index cause => "lifecycle start [" ++ toString index ++ "]: " ++ cause.message
  | .rollback index cause => "lifecycle rollback [" ++ toString index ++ "]: " ++ cause.message
  | .runnerStart runner cause => "runner start (" ++ runner ++ "): " ++ cause.message
  | .runnerStop runner cause => "runner stop (" ++ runner ++ "): " ++ cause.message
  | .stop index cause => "lifecycle stop [" ++ toString index ++ "]: " ++ cause.message
  | .shutdownHook index cause => "shutdown hook [" ++ toString index ++ "]: " ++ cause.message
  | .alreadyRun => "orchestrator has already been run"
  | .httpAlreadyConfigured => "http server already configured"
  | .healthCheckNameRequired => "health check name required"

end

/-- The text of several errors: one after the other, each on a line of its own. -/
def Errors.text {ε : Type} (message : ε → String) (es : Errors ε) : String :=
  "\n".intercalate (es.toList.map message)

namespace ServerError

/-- The text of what lies behind an error, where something does. -/
def source? : ServerError → Option String
  | .bind _ reason => some reason
  | .serve cause => some cause.message
  | .reflection reason => some reason
  | .shutdownTimedOut _ => none
  | .shutdownCancelled => none
  | .alreadyStarted => none

/-- The server was forced down instead of ending by itself. -/
def isForced : ServerError → Bool
  | .shutdownTimedOut _ => true
  | .shutdownCancelled => true
  | _ => false

end ServerError

namespace LifecycleError

/-- What lies behind an error, where something does. -/
def cause? : LifecycleError → Option Cause
  | .start _ cause => some cause
  | .rollback _ cause => some cause
  | .runnerStart _ cause => some cause
  | .runnerStop _ cause => some cause
  | .stop _ cause => some cause
  | .shutdownHook _ cause => some cause
  | .alreadyRun => none
  | .httpAlreadyConfigured => none
  | .healthCheckNameRequired => none

/-- The text of what lies behind an error, where something does. -/
def source? (e : LifecycleError) : Option String :=
  e.cause?.map Cause.message

/-- The error kept a run from starting. -/
def isFatalStartup : LifecycleError → Bool
  | .start _ _ => true
  | .runnerStart _ _ => true
  | _ => false

end LifecycleError

end Supervision
