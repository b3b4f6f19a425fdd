import Supervision.Logging.Pattern.CharacterSet
import Supervision.Logging.Pattern.Group

/-!
# Patterns of values

Regular expressions, as far as a filter needs them: `isPattern` says which texts are one. A text is
read piece by piece, each in the mode that the flags before it have set: its groups have to be
balanced, its repetitions need something to repeat, and its height has a limit. Characters are known
by their code points alone: letter case, classes such as `\d` and boundaries of words are known for
ASCII only, that is where the flag `u` is off. There, nothing may be written that matches a part of
a character.
-/

namespace Supervision.Logging.Pattern
open Text

/-! ## Pieces -/

/-- What a part of a pattern matches, as far as it matters where the part may stand. -/
inductive Atom where
  /-- A single character. -/
  | literal
  /-- A single character beyond ASCII that is written as a byte. -/
  | byte
  /-- Any character, but no line feed. -/
  | any
  /-- The beginning or the end of a line or of the text. -/
  | edge
  /-- The beginning or the end of a word. -/
  | wordEdge
  /-- Digits, blanks or word characters, or all but these. -/
  | classOf (negated : Bool)
  /-- One of several characters. -/
  | oneOf (s : CharacterSet)
deriving DecidableEq, Repr

/-- A piece of a pattern. -/
inductive Piece where
  | atom (atom : Atom)
  /-- Any number of what is before, or at most one. -/
  | repetition
  | alternative
  | group (mark : GroupMark)
  | closing
deriving DecidableEq, Repr

/-- The atom of an escape. -/
def Escape.atom : Escape → Atom
  | .character _ => .literal
  | .byte _ => .byte
  | .edge => .edge
  | .wordEdge => .wordEdge
  | .classOf negated => .classOf negated

/-- An operator of repetition may be followed at once by a mark that makes it take as little as it
can. -/
def repetitionEnd (rest : List Char) : List Char :=
  match rest with
  | '?' :: rest => rest
  | rest => rest

/-- The first piece of a text. Counted repetitions are not known. -/
def piece (spaced : Bool) : Reader Piece
  | [] => none
  | c :: rest =>
    match c with
    | '(' => do
      let (mark, rest) ← groupMark spaced rest
      return (.group mark, rest)
    | ')' => some (.closing, rest)
    | '|' => some (.alternative, rest)
    | '*' | '+' | '?' => some (.repetition, repetitionEnd rest)
    | '\x7b' => none
    | '[' => do
      let (s, rest) ← characterSet spaced rest
      return (.atom (.oneOf s), rest)
    | '\\' => do
      let (e, rest) ← escape spaced rest
      return (.atom e.atom, rest)
    | '.' => some (.atom .any, rest)
    | '^' | '$' => some (.atom .edge, rest)
    | _ => some (.atom .literal, rest)

/-! ## Modes -/

/-- How a part of a pattern is read. -/
structure Mode where
  /-- Letter case does not count. -/
  caseless : Bool := false
  /-- Characters are taken whole, not byte by byte. -/
  characters : Bool := true
  /-- Blanks and comments do not count. -/
  spaced : Bool := false
deriving DecidableEq, Repr

/-- A flag under a change: on, off or as it was. -/
def FlagChange.apply (change : FlagChange) (flag : Char) (before : Bool) : Bool :=
  (before || change.on.contains flag) && !change.off.contains flag

/-- The mode under a change of flags. -/
def Mode.under (m : Mode) (change : FlagChange) : Mode :=
  { caseless := change.apply 'i' m.caseless
    characters := change.apply 'u' m.characters
    spaced := change.apply 'x' m.spaced }

/-- An atom is known in a mode. -/
def Atom.known (m : Mode) : Atom → Bool
  | .literal => !(m.caseless && m.characters)
  | .byte => m.characters && !m.caseless
  | .any => m.characters
  | .edge => true
  | .wordEdge => !m.characters
  | .classOf negated => !m.characters && !negated
  | .oneOf s => if m.characters then !s.usesClass && !(m.caseless && s.listsAny) else !s.wide

/-- The height of an atom. -/
def Atom.height : Atom → Nat
  | .oneOf s => s.height
  | _ => 0

/-! ## The whole -/

/-- A part of a pattern. -/
structure Part where
  height : Nat
  /-- It can be repeated. -/
  repeatable : Bool := true
deriving DecidableEq, Repr

/-- An open group, or the pattern itself, up to a place in it. -/
structure Level where
  mode : Mode := {}
  /-- The parts of the latest alternative, the last one first. -/
  parts : List Part := []
  /-- The heights of the alternatives before it. -/
  alternatives : List Nat := []
deriving DecidableEq, Repr

namespace Level

/-- The height of the latest alternative. -/
def latest (l : Level) : Nat :=
  heightOf (l.parts.map (·.height))

/-- The height of what stands on a level. -/
def height (l : Level) : Nat :=
  heightOf (l.latest :: l.alternatives)

/-- With a part. -/
def withPart (l : Level) (p : Part) : Level :=
  { l with parts := p :: l.parts }

/-- With its last part repeated. -/
def withRepetition (l : Level) : Option Level :=
  match l.parts with
  | ⟨height, true⟩ :: parts => some { l with parts := ⟨height + 1, true⟩ :: parts }
  | _ => none

/-- With an alternative begun. -/
def withAlternative (l : Level) : Level :=
  { l with parts := [], alternatives := l.latest :: l.alternatives }

/-- With flags changed. -/
def withFlags (l : Level) (change : FlagChange) : Level :=
  { l.withPart ⟨0, false⟩ with mode := l.mode.under change }

end Level

/-- What is known of a pattern up to a place in it. -/
structure State where
  level : Level := {}
  /-- The levels around it, the innermost first. -/
  outer : List Level := []
  /-- The names of the groups so far. -/
  names : List (List Char) := []
deriving DecidableEq, Repr

namespace State

/-- With a group begun. -/
def enter (s : State) (name : Option (List Char)) (change : FlagChange) : Option State :=
  let inner := { s with
    level := { mode := s.level.mode.under change }, outer := s.level :: s.outer }
  match name with
  | none => some inner
  | some name =>
    if s.names.contains name then none else some { inner with names := name :: s.names }

/-- With the innermost group ended. -/
def leave (s : State) : Option State :=
  match s.outer with
  | [] => none
  | parent :: outer =>
    some { s with level := parent.withPart { height := s.level.height + 1 }, outer := outer }

/-- The state after a piece, if the piece may stand there. -/
def after (s : State) : Piece → Option State
  | .atom a =>
    if a.known s.level.mode then
      some { s with level := s.level.withPart { height := a.height } }
    else none
  | .repetition => s.level.withRepetition.map fun level => { s with level := level }
  | .alternative => some { s with level := s.level.withAlternative }
  | .group (.flags change) => some { s with level := s.level.withFlags change }
  | .group (.opening name change) => s.enter name change
  | .closing => s.leave

/-- The state after a text; `room` bounds the number of its pieces. -/
def read : (room : Nat) → State → List Char → Option State
  | 0, _, _ => none
  | room + 1, s, text =>
    match skip s.level.mode.spaced text with
    | [] => some s
    | text => do
      let (p, rest) ← piece s.level.mode.spaced text
      read room (← s.after p) rest

/-- There may be an end. -/
def isComplete (s : State) : Bool :=
  s.outer.isEmpty && s.level.height ≤ maxHeight

end State

end Pattern

/-- A text is a regular expression. -/
def isPattern (text : List Char) : Bool :=
  match Pattern.State.read (text.length + 1) {} text with
  | some s => s.isComplete
  | none => false

end Supervision.Logging
