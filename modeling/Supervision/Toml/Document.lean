import Supervision.Toml.Scalar
import Supervision.Toml.Table

/-!
# Documents

A document is a list of statements, one a line: headers, which open a table, and assignments.
`statements?` reads them, `read?` also puts them together. Values nest to a limited depth, and so
do keys.
-/

namespace Supervision.Toml
open Text

/-- The first depth of nesting that is refused. -/
def nestingBound : Nat := 80

/-- A comment, to the end of its line. -/
def comment : Reader Unit
  | '#' :: rest => some ((), rest.dropWhile isPlain)
  | _ => none

/-- Blanks, line breaks and comments between the elements of an array. -/
def skipLayout (text : List Char) : List Char :=
  (many (either (either space lineBreak) comment) text).2

/-! ## Keys -/

/-- A character of a key without quotes. -/
def isBareKeyChar (c : Char) : Bool :=
  ('a' ≤ c && c ≤ 'z') || ('A' ≤ c && c ≤ 'Z') || ('0' ≤ c && c ≤ '9') || c = '-' || c = '_'

/-- A single key, bare or in quotes. -/
def simpleKey : Reader String := fun text =>
  match text with
  | '"' :: _ => lineString '"' basicChar text
  | '\'' :: _ => lineString '\'' literalChar text
  | _ =>
    let key := text.takeWhile isBareKeyChar
    if key.isEmpty then none else some (String.ofList key, text.drop key.length)

/-- A single key with blanks around it. -/
def spacedKey : Reader String := fun text => do
  let (key, text) ← simpleKey (skipSpace text)
  return (key, skipSpace text)

/-- Keys with points between them, as the path to the last one and the last one itself. -/
def dottedKey : Reader (List String × String) := fun text => do
  let (first, text) ← spacedKey text
  let next : Reader String := fun text => do
    let (_, text) ← expect '.' text
    spacedKey text
  let (more, text) := many next text
  if nestingBound ≤ more.length + 1 then none
  else
    let keys := first :: more
    return ((keys.dropLast, keys.getLastD first), text)

/-! ## Values -/

/-- An assignment: a key, an equals sign and a value. -/
structure Assignment where
  path : List String
  key : String
  value : Value

/-- An assignment whose value is read by `value`. -/
def assignment (value : Reader Value) : Reader Assignment := fun text => do
  let ((path, key), text) ← dottedKey text
  let (_, text) ← expect '=' text
  let (v, text) ← value (skipSpace text)
  return (⟨path, key, v⟩, skipSpace text)

/-- What stands between commas, each read by `item`. -/
def commaSeparated {α : Type} (item : Reader α) (text : List Char) : List α × List Char :=
  let next : Reader α := fun text => do
    let (_, text) ← expect ',' text
    item text
  match item text with
  | none => ([], text)
  | some (first, text) =>
    let (more, text) := many next text
    (first :: more, text)

/-- An array of values read by `value`. Its last element may be followed by a comma. -/
def arrayOf (value : Reader Value) : Reader Value := fun text => do
  let (_, text) ← expect '[' text
  let element : Reader Value := fun text => do
    let (v, text) ← value (skipLayout text)
    return (v, skipLayout text)
  let (elements, text) := commaSeparated element text
  let text :=
    if elements.isEmpty then text else ((expect ',' text).map (·.2)).getD text
  let (_, text) ← expect ']' (skipLayout text)
  return (.array elements, text)

/-- A table on one line, whose values are read by `value`. -/
def inlineTable (value : Reader Value) : Reader Value := fun text => do
  let (_, text) ← expect '\x7b' text
  let (assignments, text) := commaSeparated (assignment value) text
  let (_, text) ← expect '\x7d' (skipSpace text)
  let entries ← assignments.foldlM (fun es a => Entries.assign a.path a.key a.value es) []
  return (.table (finishEntries entries), text)

/-- A value that holds others to the depth given. -/
def valueTo : (depth : Nat) → Reader Value
  | 0, text => scalar text
  | depth + 1, text =>
    match text with
    | '[' :: _ => arrayOf (valueTo depth) text
    | '\x7b' :: _ => inlineTable (valueTo depth) text
    | _ => scalar text

/-- A value of a document. -/
def value : Reader Value :=
  valueTo (nestingBound - 1)

/-! ## Statements -/

/-- A line that says something. -/
inductive Statement where
  | openTable (path : List String) (name : String)
  | openElement (path : List String) (name : String)
  | assign (assignment : Assignment)

/-- What may follow a statement on its line: a comment, and the end of the line or of the text. -/
def lineEnd : Reader Unit := fun text =>
  let text := skipSpace text
  let text := ((comment text).map (·.2)).getD text
  if text.isEmpty then some ((), []) else lineBreak text

/-- A header of an array of tables, after its brackets. -/
def elementHeader : Reader Statement := fun text => do
  let ((path, name), text) ← dottedKey text
  let (_, text) ← word [']', ']'] text
  return (.openElement path name, text)

/-- A header of a table, after its bracket. -/
def tableHeader : Reader Statement := fun text => do
  let ((path, name), text) ← dottedKey text
  let (_, text) ← expect ']' text
  return (.openTable path name, text)

/-- A statement without the end of its line. -/
def statement : Reader Statement := fun text =>
  match text with
  | '[' :: '[' :: rest => elementHeader rest
  | '[' :: rest => tableHeader rest
  | _ => (assignment value text).map fun (a, rest) => (.assign a, rest)

/-- A line: a statement, or nothing besides blanks and a comment. -/
def line : Reader (Option Statement) := fun text =>
  let text := skipSpace text
  match text with
  | [] => none
  | '#' :: _ => (lineEnd text).map fun (_, rest) => (none, rest)
  | '\n' :: _ => (lineEnd text).map fun (_, rest) => (none, rest)
  | '\r' :: _ => (lineEnd text).map fun (_, rest) => (none, rest)
  | _ => do
    let (s, text) ← statement text
    let (_, text) ← lineEnd text
    return (some s, text)

/-- The text without a byte order mark at its start. -/
def withoutMark : List Char → List Char
  | '\ufeff' :: rest => rest
  | text => text

/-- The statements of a document, if all of it follows the grammar. -/
def statements? (text : String) : Option (List Statement) :=
  let (lines, rest) := many line (withoutMark text.toList)
  if (skipSpace rest).isEmpty then some (lines.filterMap id) else none

/-- The entries built so far, and the path to the table that is open. -/
structure Draft where
  entries : Entries
  opened : List String

/-- The effect of one statement. -/
def Draft.add (draft : Draft) : Statement → Option Draft
  | .openTable path name => do
    return ⟨← draft.entries.openTable path name, path ++ [name]⟩
  | .openElement path name => do
    return ⟨← draft.entries.openElement path name, path ++ [name]⟩
  | .assign a => do
    return ⟨← draft.entries.assignIn draft.opened a.path a.key a.value, draft.opened⟩

/-- The keys and values of a document, in the order of their definition. -/
def read? (text : String) : Option (List (String × Value)) := do
  let statements ← statements? text
  let draft ← statements.foldlM Draft.add ⟨[], []⟩
  return finishEntries draft.entries

end Supervision.Toml
