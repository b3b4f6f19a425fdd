import Supervision.Config.Load
import Supervision.Text.Reader

/-!
# Files of a rehearsal

The file system of a rehearsal holds one document, an empty file, and the directories that every
host has. A path is walked part by part, from the root or from the working directory. Each part but
the last has to lead to a directory.
-/

namespace Supervision.Rehearsal
open Config Text

/-- The names that lead from the root to a file or a directory. -/
abbrev Place := List String

/-- The place of the document. -/
def documentPlace : Place := ["tmp", "rehearsal", "document"]

/-- The path of the document. -/
def documentPath : String := "/" ++ "/".intercalate documentPlace

/-- The directory in which paths begin that do not begin at the root. -/
def workingPlace : Place := ["srv", "rehearsal"]

/-- The directories, but for the one that the document may be. -/
def directories : List Place :=
  [[], workingPlace, documentPlace.dropLast] ++
    ["bin", "dev", "etc", "home", "lib", "opt", "proc", "run", "sbin", "srv", "sys", "tmp", "usr",
      "var"].map ([·])

/-- The place of the empty file. -/
def emptyPlace : Place := ["dev", "null"]

/-- The content of a place. -/
def contentAt (document : FileContent) (place : Place) : FileContent :=
  if place = documentPlace then document
  else if place = emptyPlace then .bytes .empty
  else if directories.contains place then .directory
  else .missing

/-- The longest name, in bytes. -/
def maxNameBytes : Nat := 255

/-- The longest path, in bytes. -/
def maxPathBytes : Nat := 4095

/-- What a name or a path that is too long leads to. -/
def nameTooLong : FileContent := .unreadable "File name too long (os error 36)"

/-- What the parts of a path lead to from a place. -/
def contentFrom (document : FileContent) (place : Place) : List String → FileContent
  | [] => contentAt document place
  | part :: rest =>
    match contentAt document place with
    | .directory =>
      if part = "" || part = "." then contentFrom document place rest
      else if part = ".." then contentFrom document place.dropLast rest
      else if maxNameBytes < part.utf8ByteSize then nameTooLong
      else contentFrom document (place ++ [part]) rest
    | .bytes _ => .unreadable "Not a directory (os error 20)"
    | content => content

/-- What a path leads to, given the document. -/
def fileAt (document : FileContent) (path : String) : FileContent :=
  let parts := (splitAll '/' path.toList).map String.ofList
  if path.isEmpty then .missing
  else if maxPathBytes < path.utf8ByteSize then nameTooLong
  else contentFrom document (if path.startsWith "/" then [] else workingPlace) parts

end Supervision.Rehearsal
