import Supervision.Command.Service

/-!
# The program

Reads the words of the command line, the configuration file and the environment, and ends as the
service does. The service runs on a machine of its own and is ended by a signal as soon as it
watches for one.
-/

namespace Supervision.Command

/-- What a path leads to. -/
def readPath (path : String) : IO Config.FileContent :=
  try
    return .bytes (← IO.FS.readBinFile path)
  catch
    | .noFileOrDirectory _ _ _ => return .missing
    | .inappropriateType _ _ _ => return .directory
    | .permissionDenied _ code _ => return .unreadable s!"Permission denied (os error {code})"
    | e => return .unreadable (toString e)

/-- The variables of a prefix that are set. -/
def readVariables (stem : String) : IO (List (String × String)) := do
  (Config.variableNames stem).filterMapM fun name => do
    return (← IO.getEnv name).map fun value => (name, value)

/-- The file and the variables that the words of a command line lead to. -/
def readInputs (words : List String) : IO (Config.FileContent × List (String × String)) :=
  match Arguments.parse words with
  | .error _ => return (.missing, [])
  | .ok arguments => do
    let content ← match arguments.config with
      | some path => readPath path
      | none => pure .missing
    return (content, ← readVariables arguments.envPrefix)

end Supervision.Command

open Supervision Command in
/-- The program. -/
def main (words : List String) : IO UInt32 := do
  let (content, found) ← readInputs words
  let readVariable (name : String) : Option String := found.lookup name
  let incidents := [(0, Incident.signal .terminate)]
  match exit? words (fun _ => content) readVariable Net.isolatedHost incidents with
  | none => return 0
  | some exit =>
    match exit.complaint, Arguments.parse words with
    | some line, _ => IO.eprintln line
    | none, .error .help => IO.println usage
    | none, .error .usage => IO.eprintln usage
    | none, .ok _ => pure ()
    return exit.status.toUInt32
