import Supervision.Toml.Value

/-!
# Tables under construction

A document defines its tables piece by piece: by headers, by dotted keys, and by headers of tables
below them. `Node` keeps how a table came about, which decides what may still be added to it. A key
is defined once; a table is opened once; dotted keys and headers do not share a table.
-/

namespace Supervision.Toml

/-- How a table came about. -/
inductive Origin where
  /-- By its own header, or as a value. -/
  | defined
  /-- By the header of a table below it. -/
  | implied
  /-- By a dotted key. -/
  | dotted
deriving DecidableEq, Repr

/-- What a key stands for while a document is read. -/
inductive Node where
  | value (v : Value)
  | table (origin : Origin) (entries : List (String × Node))
  /-- An array of tables: the complete ones, and the one that is open. -/
  | tables (earlier : List Value) (last : List (String × Node))

/-- The entries of a table under construction. -/
abbrev Entries := List (String × Node)

mutual

/-- The finished value of a node. -/
def Node.finish : Node → Value
  | .value v => v
  | .table _ entries => .table (finishEntries entries)
  | .tables earlier last => .array (earlier ++ [.table (finishEntries last)])

/-- The finished entries of a table. -/
def finishEntries : List (String × Node) → List (String × Value)
  | [] => []
  | (key, node) :: rest => (key, node.finish) :: finishEntries rest

end

namespace Entries

/-- What a key stands for. -/
def get? (entries : Entries) (key : String) : Option Node :=
  (entries.find? fun e => e.1 = key).map (·.2)

/-- The entries with a new node for a key that is there. -/
def replace (entries : Entries) (key : String) (node : Node) : Entries :=
  entries.map fun e => if e.1 = key then (key, node) else e

/-- The entries without a key. -/
def erase (entries : Entries) (key : String) : Entries :=
  entries.filter fun e => e.1 ≠ key

/-- Changes the table that a path leads to. Tables that are not there yet come about on the way, by
a dotted key or by a header. A path leads through tables and through the open table of an array; a
dotted key does not enter a table that has a header. -/
def change (byKey : Bool) (edit : Origin → Entries → Option Entries) :
    List String → Origin → Entries → Option Entries
  | [], origin, entries => edit origin entries
  | key :: path, _, entries =>
    match entries.get? key with
    | none => do
      let origin := if byKey then Origin.dotted else Origin.implied
      let inner ← change byKey edit path origin []
      return entries ++ [(key, .table origin inner)]
    | some (.value _) => none
    | some (.tables earlier last) => do
      let last ← change byKey edit path .defined last
      return entries.replace key (.tables earlier last)
    | some (.table origin inner) =>
      if byKey && origin = .defined then none
      else do
        let inner ← change byKey edit path origin inner
        return entries.replace key (.table origin inner)

/-- Defines a key, which may be dotted: `path` leads to the table that holds it. -/
def assign (path : List String) (key : String) (value : Value) (entries : Entries) :
    Option Entries :=
  change true
    (fun origin entries =>
      if (origin = .dotted) = path.isEmpty then none
      else if (entries.get? key).isSome then none
      else some (entries ++ [(key, .value value)]))
    path .defined entries

/-- Opens the table of a header. It may have come about by the headers of tables below it, and then
counts as defined here. -/
def openTable (path : List String) (name : String) (entries : Entries) : Option Entries :=
  change false
    (fun _ entries =>
      match entries.get? name with
      | none => some (entries ++ [(name, .table .defined [])])
      | some (.table .implied inner) => some (entries.erase name ++ [(name, .table .defined inner)])
      | some _ => none)
    path .defined entries

/-- Opens the next table of an array of tables. -/
def openElement (path : List String) (name : String) (entries : Entries) : Option Entries :=
  change false
    (fun _ entries =>
      match entries.get? name with
      | none => some (entries ++ [(name, .tables [] [])])
      | some (.tables earlier last) =>
        some (entries.replace name (.tables (earlier ++ [.table (finishEntries last)]) []))
      | some _ => none)
    path .defined entries

/-- Defines a key in the table that a header has opened. -/
def assignIn (header path : List String) (key : String) (value : Value) (entries : Entries) :
    Option Entries :=
  change false (fun _ entries => assign path key value entries) header .defined entries

end Entries

end Supervision.Toml
