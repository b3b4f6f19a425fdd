import Supervision.Journal
import Supervision.Phase
import Supervision.Text.Quoted

/-!
# Answers about health

The answer to a request about health, its status, and its body: an object of JSON with the status,
the phase where one is known, and the results where there are any.
-/

namespace Supervision

/-- The outcome of one check: healthy, or the text of its error. -/
structure CheckResult where
  name : String
  error : Option String
deriving DecidableEq, Repr

/-- How a service is. -/
inductive HealthStatus where
  | ok
  /-- A check failed. -/
  | degraded
  /-- The service does not run. -/
  | unavailable
deriving DecidableEq, Repr, Inhabited

/-- The name of a status. -/
def HealthStatus.name : HealthStatus → String
  | .ok => "ok"
  | .degraded => "degraded"
  | .unavailable => "unavailable"

/-- The answer to a request about health. -/
structure HealthResponse where
  status : HealthStatus
  phase : Option Phase
  results : List CheckResult
deriving DecidableEq, Repr

namespace HealthResponse

/-- Everything is as it should be. -/
def isHealthy (r : HealthResponse) : Bool :=
  r.status = .ok

/-- The answer that the results alone give. -/
def ofResults (results : List CheckResult) : HealthResponse :=
  { status := if results.any (·.error.isSome) then .degraded else .ok
    phase := none
    results := results }

/-- The answer of a service in a phase: one that does not run is unavailable. -/
def inPhase (phase? : Option Phase) (r : HealthResponse) : HealthResponse :=
  match phase? with
  | none => r
  | some phase =>
    { r with
      status := if phase = .running then r.status else .unavailable
      phase := some phase }

end HealthResponse

namespace Json

/-- One character inside a string. -/
def escapedChar (c : Char) : List Char :=
  if c = '"' then ['\\', '"']
  else if c = '\\' then ['\\', '\\']
  else if c = '\x08' then ['\\', 'b']
  else if c = '\x0c' then ['\\', 'f']
  else if c = '\n' then ['\\', 'n']
  else if c = '\r' then ['\\', 'r']
  else if c = '\t' then ['\\', 't']
  else if c.toNat < 0x20 then
    ['\\', 'u', '0', '0', Text.hexDigit (c.toNat / 16), Text.hexDigit (c.toNat % 16)]
  else [c]

/-- A string in quotes. -/
def string (s : String) : String :=
  String.ofList ('"' :: s.toList.flatMap escapedChar ++ ['"'])

/-- A member of an object. -/
def member (name value : String) : String :=
  string name ++ ":" ++ value

/-- An object of some members. -/
def object (members : List String) : String :=
  "\x7b" ++ ",".intercalate members ++ "\x7d"

/-- An array of some elements. -/
def array (elements : List String) : String :=
  "[" ++ ",".intercalate elements ++ "]"

end Json

/-- The object of one result. -/
def CheckResult.body (r : CheckResult) : String :=
  Json.object
    (Json.member "name" (Json.string r.name) ::
      (r.error.map fun e => Json.member "error" (Json.string e)).toList)

/-- The body of an answer. -/
def HealthResponse.body (r : HealthResponse) : String :=
  let phase := (r.phase.map fun p => Json.member "phase" (Json.string p.name)).toList
  let results :=
    if r.results.isEmpty then []
    else [Json.member "results" (Json.array (r.results.map CheckResult.body))]
  Json.object (Json.member "status" (Json.string r.status.name) :: phase ++ results)

end Supervision
