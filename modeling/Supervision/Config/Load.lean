import Supervision.Config.Decode
import Supervision.Config.Overlay
import Supervision.Config.Validation
import Supervision.Failure
import Supervision.Toml.Document

/-!
# Loading a configuration

Loading goes through four stages: read the file, read its document, overlay the environment,
validate. The error of the first stage that fails is the error of the whole.
-/

namespace Supervision.Config

/-- What a path leads to. -/
inductive FileContent where
  | missing
  | directory
  | bytes (content : ByteArray)
  /-- Something that cannot be read, with the reason in the words of the system. -/
  | unreadable (reason : String)

/-- Why a file has no text. -/
inductive FileError where
  | notFound
  | isDirectory
  | notText
  /-- Any other reason, in the words of the system. -/
  | other (reason : String)
deriving DecidableEq, Repr

/-- The text of a file error. -/
def FileError.message : FileError → String
  | .notFound => "No such file or directory (os error 2)"
  | .isDirectory => "Is a directory (os error 21)"
  | .notText => "stream did not contain valid UTF-8"
  | .other reason => reason

/-- Why a document cannot be used. -/
inductive DocumentError where
  /-- It does not follow the grammar, or defines something twice. -/
  | syntaxFault
  | mismatch (reason : Mismatch)

/-- Why a configuration cannot be loaded. -/
inductive LoadError where
  | file (reason : FileError)
  | document (reason : DocumentError)
  | environment (reason : OverlayError)
  | invalid (faults : Errors Fault)

/-- The text of a load error. The words for a fault of grammar are not part of the contract. -/
def LoadError.message : LoadError → String
  | .file reason => "IO error: " ++ reason.message
  | .document .syntaxFault => "Parse error: TOML parse error"
  | .document (.mismatch reason) => "Parse error: " ++ reason.message
  | .environment reason => "invalid value " ++ Text.quoted reason.value ++ " for " ++ reason.name
  | .invalid faults => "Validation failed: " ++ ", ".intercalate (faults.toList.map Fault.text)

/-- The text of a file. -/
def readText : FileContent → Except FileError String
  | .missing => .error .notFound
  | .directory => .error .isDirectory
  | .unreadable reason => .error (.other reason)
  | .bytes content =>
    match String.fromUTF8? content with
    | some text => .ok text
    | none => .error .notText

/-- The configuration that a document writes. -/
def readDocument (text : String) : Except DocumentError Config :=
  match Toml.read? text with
  | none => .error .syntaxFault
  | some entries => (ofDocument entries).mapError .mismatch

/-- The configuration of a file. -/
def readFile (content : FileContent) : Except LoadError Config := do
  let text ← (readText content).mapError .file
  (readDocument text).mapError .document

/-- A configuration without broken rules. -/
def validated (c : Config) : Except LoadError Config :=
  match Errors.ofList? (faults c) with
  | none => .ok c
  | some faults => .error (.invalid faults)

/-- The configuration under the environment. -/
def overlaid (text? : String → Option String) (stem : String) (c : Config) :
    Except LoadError Config :=
  match overlay text? stem c with
  | (c, none) => .ok c
  | (_, some reason) => .error (.environment reason)

/-- Loads the configuration of a file. -/
def load (content : FileContent) : Except LoadError Config := do
  validated (← readFile content)

/-- Loads the configuration of a file, or the defaults where no file is given, under the
environment. -/
def loadWith (content? : Option FileContent) (text? : String → Option String) (stem : String) :
    Except LoadError Config := do
  let c ← match content? with
    | some content => readFile content
    | none => .ok {}
  validated (← overlaid text? stem c)

end Supervision.Config
