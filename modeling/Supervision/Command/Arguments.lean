/-!
# The command line

Two options with values, `--config` (`-c`) and `--env-prefix`, each at most once and before the
command; the commands `run`, which is the default, and `serve`; and help, as an option anywhere and
as a command. `Arguments.parse` reads the words from left to right, and stops at the first that asks
for help or cannot be.

The value of an option is put down when the next option comes, or at the end: a fault in it comes to
light only then, and not at all if a command asks for help first.
-/

namespace Supervision.Command

/-- What to do. -/
inductive Task where
  | run
  | serve
deriving DecidableEq, Repr

/-- Why there is nothing to do. -/
inductive Refusal where
  /-- Help was asked for. -/
  | help
  /-- The words make no sense. -/
  | usage
deriving DecidableEq, Repr

/-- An option with a value. -/
inductive Setting where
  | config
  | envPrefix
deriving DecidableEq, Repr

/-- The words read so far. -/
structure Draft where
  config : Option String := none
  envPrefix : Option String := none
  /-- The last option, with its value if it has come, not yet put down. -/
  pending : Option (Setting × Option String) := none
deriving DecidableEq, Repr

/-- What the words ask for. -/
structure Arguments where
  config : Option String
  envPrefix : String
  task : Task
deriving DecidableEq, Repr

namespace Draft

/-- Puts down the value of an option, which has none yet. A path is not empty. -/
def put (setting : Setting) (value : String) (d : Draft) : Except Refusal Draft :=
  match setting with
  | .config =>
    if d.config.isSome || value.isEmpty then .error .usage
    else .ok { d with config := some value }
  | .envPrefix =>
    if d.envPrefix.isSome then .error .usage else .ok { d with envPrefix := some value }

/-- Puts down the last option. -/
def settle (d : Draft) : Except Refusal Draft :=
  match d.pending with
  | none => .ok d
  | some (_, none) => .error .usage
  | some (setting, some value) => { d with pending := none }.put setting value

/-- An option with its value in the same word. -/
def attached (setting : Setting) (value : String) (d : Draft) : Except Refusal Draft := do
  (← d.settle).put setting value

/-- An option whose value is the next word. -/
def awaiting (setting : Setting) (d : Draft) : Except Refusal Draft := do
  return { ← d.settle with pending := some (setting, none) }

/-- Help, which is given if the last option makes sense. -/
def help (d : Draft) : Except Refusal Draft := do
  let _ ← d.settle
  throw .help

/-- The words as a whole. -/
def finish (task : Task) (d : Draft) : Except Refusal Arguments := do
  let d ← d.settle
  return ⟨d.config, d.envPrefix.getD "SERVICE", task⟩

end Draft

/-- A word that is an option: it starts with a dash and has more than that. -/
def isOption (word : String) : Bool :=
  match word.toList with
  | '-' :: _ :: _ => true
  | _ => false

/-- A long option, without its dashes: a name, and a value after an equals sign. -/
def longOption (d : Draft) (text : List Char) : Except Refusal Draft :=
  let name := String.ofList (text.takeWhile (· ≠ '='))
  let value? := match text.dropWhile (· ≠ '=') with
    | [] => none
    | _ :: value => some (String.ofList value)
  let withValue (setting : Setting) : Except Refusal Draft :=
    match value? with
    | some value => d.attached setting value
    | none => d.awaiting setting
  if name = "config" then withValue .config
  else if name = "env-prefix" then withValue .envPrefix
  else if name = "help" && value?.isNone then d.help
  else .error .usage

/-- A short option, without its dash. -/
def shortOption (d : Draft) : List Char → Except Refusal Draft
  | ['c'] => d.awaiting .config
  | 'c' :: '=' :: value => d.attached .config (String.ofList value)
  | 'c' :: value => d.attached .config (String.ofList value)
  | 'h' :: _ => d.help
  | _ => .error .usage

/-- An option. -/
def option (d : Draft) (word : String) : Except Refusal Draft :=
  match word.toList with
  | '-' :: '-' :: text => longOption d text
  | _ :: text => shortOption d text
  | [] => .error .usage

/-- The words after a command: nothing, help, or the mark that no options follow. -/
def afterCommand : List String → Except Refusal Unit
  | [] => .ok ()
  | word :: rest =>
    if word = "--help" || word.startsWith "-h" then .error .help
    else if word = "--" && rest.isEmpty then .ok ()
    else .error .usage

/-- The words after the command `help`: nothing, or a command. -/
def helpTopic : List String → Refusal
  | [] => .help
  | [topic] => if ["run", "serve", "help"].contains topic then .help else .usage
  | _ => .usage

/-- The words from one of them on. -/
def parseFrom (d : Draft) : List String → Except Refusal Arguments
  | [] => d.finish .run
  | word :: rest =>
    match d.pending with
    | some (setting, none) =>
      if isOption word then .error .usage
      else parseFrom { d with pending := some (setting, some word) } rest
    | _ =>
      if word = "run" then do
        afterCommand rest
        d.finish .run
      else if word = "serve" then do
        afterCommand rest
        d.finish .serve
      else if word = "help" then .error (helpTopic rest)
      else if word = "--" then
        if rest.isEmpty then d.finish .run else .error .usage
      else if isOption word then do parseFrom (← option d word) rest
      else .error .usage

/-- What the program says about its command line. -/
def usage : String :=
  "Usage: service-lifecycle [--config FILE] [--env-prefix PREFIX] [run | serve | help]"

/-- What a command line asks for. -/
def Arguments.parse (words : List String) : Except Refusal Arguments :=
  parseFrom {} words

end Supervision.Command
