import Supervision.Config.Schema
import Supervision.Text.Blank
import Supervision.Text.Number

/-!
# Settings from the environment

Four variables of a common prefix replace settings of a configuration: `_HTTP_PORT`, `_GRPC_PORT`,
`_LOG_LEVEL` and `_SHUTDOWN_TIMEOUT_MS`. A variable whose bytes are no text counts as unset.
-/

namespace Supervision

/-- The variables of a process with their raw values. -/
abbrev Environment := List (String × ByteArray)

namespace Environment

/-- Sets a variable. A value that it had before is replaced. -/
def set (env : Environment) (name : String) (value : ByteArray) : Environment :=
  if env.any fun entry => entry.1 = name then
    env.map fun entry => if entry.1 = name then (name, value) else entry
  else env ++ [(name, value)]

/-- The environment after some variables were set in order. -/
def ofSettings (settings : List (String × ByteArray)) : Environment :=
  settings.foldl (fun env (name, value) => env.set name value) []

/-- The bytes of a name with the equals sign that ends it. -/
def keyBytes (name : String) : List UInt8 :=
  (name ++ "=").toUTF8.toList

/-- The value that an entry gives to a name. An entry is kept as one line, in which the name ends
with an equals sign: a name with one in it finds its value inside the value of the shorter name. -/
def entryValue? (name : String) (entry : String × ByteArray) : Option (List UInt8) :=
  let line := keyBytes entry.1 ++ entry.2.toList
  let key := keyBytes name
  if key.isPrefixOf line then some (line.drop key.length) else none

/-- The text of a variable, where it is set to one. -/
def text? (env : Environment) (name : String) : Option String :=
  (env.findSome? (entryValue? name)).bind fun value => String.fromUTF8? ⟨value.toArray⟩

end Environment

namespace Config

/-- The first number that a setting of 64 bits cannot hold. -/
def settingBound : Nat := Nat.pow 2 64

/-- A variable does not hold what its setting takes. -/
structure OverlayError where
  name : String
  value : String
deriving DecidableEq, Repr

/-- The name of a variable. -/
def variableName (stem suffix : String) : String :=
  stem ++ "_" ++ suffix

/-- The variables of a prefix. -/
def variableNames (stem : String) : List String :=
  ["HTTP_PORT", "GRPC_PORT", "LOG_LEVEL", "SHUTDOWN_TIMEOUT_MS"].map (variableName stem)

/-- The number of milliseconds that a variable holds, blanks around it aside. -/
def timeout? (value : String) : Option Nat :=
  Text.readDecimal? settingBound (Text.trimBlank value.toList)

/-- The configuration with the texts of the environment in place of its own. -/
def overlayTexts (text? : String → Option String) (stem : String) (c : Config) : Config :=
  let get (suffix : String) : Option String := text? (variableName stem suffix)
  { c with
    http.port := (get "HTTP_PORT").getD c.http.port
    grpc.port := (get "GRPC_PORT").getD c.grpc.port
    observability.logLevel := (get "LOG_LEVEL").getD c.observability.logLevel }

/-- The configuration under the environment, and the error that kept the timeout as it was. -/
def overlay (text? : String → Option String) (stem : String) (c : Config) :
    Config × Option OverlayError :=
  let c := overlayTexts text? stem c
  let name := variableName stem "SHUTDOWN_TIMEOUT_MS"
  match text? name with
  | none => (c, none)
  | some value =>
    match timeout? value with
    | some ms => ({ c with shutdown.timeoutMs := ms }, none)
    | none => (c, some ⟨name, value⟩)

end Config

end Supervision
