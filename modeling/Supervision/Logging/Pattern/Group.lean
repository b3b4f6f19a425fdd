import Supervision.Logging.Pattern.Spacing
import Supervision.Text.Alphanumeric
import Supervision.Text.Reader

/-!
# Groups in patterns

What may follow an opening parenthesis: a name, flags for the group, or flags for the rest of the
group around it. Neither a name nor flags may be spaced, but the parenthesis may stand apart.
-/

namespace Supervision.Logging.Pattern
open Text

/-- The flags, by the characters that write them, that a group turns on and off. -/
structure FlagChange where
  on : List Char := []
  off : List Char := []
deriving DecidableEq, Repr

/-- What an opening parenthesis begins. -/
inductive GroupMark where
  /-- Flags for the rest of the group around it. -/
  | flags (change : FlagChange)
  /-- A group, which may have a name and flags of its own. -/
  | opening (name : Option (List Char)) (change : FlagChange)
deriving DecidableEq, Repr

/-- The flags that there are. -/
def flags : List Char := ['i', 'm', 's', 'U', 'u', 'R', 'x']

/-- The change that a text of flags writes: each flag at most once, and some after the minus sign,
where there is one. -/
def flagChange? (text : List Char) : Option FlagChange :=
  let on := text.takeWhile (· ≠ '-')
  let off := (text.drop on.length).drop 1
  let written := on ++ off
  if written.all flags.contains && written.eraseDups.length = written.length &&
      (on.length = text.length || !off.isEmpty) then some ⟨on, off⟩
  else none

/-- A character may stand in the name of a group. -/
def inName (first : Bool) (c : Char) : Bool :=
  if first then c = '_' || isAlphabetic c
  else isAlphanumeric c || c = '_' || c = '.' || c = '[' || c = ']'

/-- The name of a group, and the angle bracket after it. -/
def groupName : Reader GroupMark := fun text => do
  let name := text.takeWhile (· ≠ '>')
  let (_, rest) ← expect '>' (text.drop name.length)
  match name with
  | [] => none
  | c :: cs =>
    if inName true c && cs.all (inName false) then some (.opening (some name) {}, rest) else none

/-- Flags, up to the mark that says whether they are for a group or for the rest of one. -/
def groupFlags : Reader GroupMark := fun text => do
  let written := text.takeWhile fun c => c ≠ ')' && c ≠ ':'
  let change ← flagChange? written
  match text.drop written.length with
  | ')' :: rest => if written.isEmpty then none else some (.flags change, rest)
  | ':' :: rest => some (.opening none change, rest)
  | _ => none

/-- What follows an opening parenthesis. -/
def groupMark (spaced : Bool) : Reader GroupMark := fun text =>
  match skip spaced text with
  | '?' :: 'P' :: '<' :: rest => groupName rest
  | '?' :: '<' :: rest => groupName rest
  | '?' :: rest => groupFlags rest
  | rest => some (.opening none {}, rest)

end Supervision.Logging.Pattern
