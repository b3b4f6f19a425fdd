import Supervision.Logging.Pattern.Escape
import Supervision.Logging.Pattern.Nesting

/-!
# Sets of characters in patterns

A set in square brackets lists characters, ranges, classes and further sets. Two ampersands, two
hyphens and two tildes are operators between sets. `characterSet` reads a set, and tells what
matters for where it may stand.
-/

namespace Supervision.Logging.Pattern
open Text

/-- What was seen of a set of characters. -/
structure CharacterSet where
  /-- It may match a character beyond ASCII. -/
  wide : Bool := false
  /-- It uses a class that is only known for ASCII. -/
  usesClass : Bool := false
  /-- It lists a character, a range or a class. -/
  listsAny : Bool := false
  height : Nat := 0
deriving DecidableEq, Repr

namespace CharacterSet

/-- With a character. -/
def withCharacter (s : CharacterSet) (c : Char) : CharacterSet :=
  { s with wide := s.wide || 0x80 ≤ c.toNat, listsAny := true }

/-- With the complement of some characters, or not. -/
def withNegation (s : CharacterSet) (negated : Bool) : CharacterSet :=
  { s with wide := s.wide || negated }

/-- With a class that is known only for ASCII, or its complement. -/
def withClass (s : CharacterSet) (negated : Bool) : CharacterSet :=
  { s.withNegation negated with usesClass := true, listsAny := true }

/-- With a named class of ASCII, or its complement. -/
def withAsciiClass (s : CharacterSet) (negated : Bool) : CharacterSet :=
  { s.withNegation negated with listsAny := true }

end CharacterSet

/-! ## Members -/

/-- A member of a set, which is a character or a class. -/
def member (spaced : Bool) : Reader Escape
  | [] => none
  | '\\' :: rest => escape spaced rest
  | c :: rest => some (.character c, rest)

/-- The character after a hyphen that tells whether the hyphen makes a range. Where the set is
spaced it is looked for beyond blanks and one number sign, even if that begins a comment. -/
def afterHyphen (spaced : Bool) (text : List Char) : Option Char :=
  if spaced then
    match text.dropWhile isBlank with
    | '#' :: rest => (rest.dropWhile isBlank).head?
    | rest => rest.head?
  else text.head?

/-- The text after a hyphen that makes a range. -/
def afterRangeHyphen? (spaced : Bool) (text : List Char) : Option (List Char) :=
  match skip spaced text with
  | '-' :: rest =>
    match afterHyphen spaced rest with
    | some ']' => none
    | some '-' => none
    | _ => some (skip spaced rest)
  | _ => none

/-- One member, or all characters from one to another. -/
def memberOrRange (spaced : Bool) (s : CharacterSet) : Reader CharacterSet := fun text => do
  let (first, rest) ← member spaced text
  match afterRangeHyphen? spaced rest with
  | some rest =>
    let (last, rest) ← member spaced rest
    let lo ← first.character?
    let hi ← last.character?
    if lo.toNat ≤ hi.toNat then some ((s.withCharacter lo).withCharacter hi, rest) else none
  | none =>
    match first with
    | .classOf negated => some (s.withClass negated, rest)
    | first => first.character?.map fun c => (s.withCharacter c, rest)

/-- The names of the classes of ASCII. -/
def asciiClasses : List String :=
  ["alnum", "alpha", "ascii", "blank", "cntrl", "digit", "graph", "lower", "print", "punct",
    "space", "upper", "word", "xdigit"]

/-- A named class of ASCII after its opening bracket, and whether it is negated. -/
def asciiClass : Reader Bool := fun text => do
  let (_, text) ← expect ':' text
  let (negated, text) ← optional (expect '^') text
  let name := text.takeWhile (· ≠ ':')
  let (_, rest) ← word [':', ']'] (text.drop name.length)
  if asciiClasses.contains (String.ofList name) then some (negated.isSome, rest) else none

/-! ## Sets in sets -/

/-- What an open set lists so far. -/
structure Listing where
  /-- The height of what stands before the last operator, where there is one. -/
  before : Option Nat := none
  /-- The heights of the members since then. -/
  members : List Nat := []
deriving DecidableEq, Repr

namespace Listing

/-- The height of all that is listed. -/
def height (l : Listing) : Nat :=
  match l.before with
  | none => heightOf l.members
  | some before => max before (heightOf l.members) + 1

/-- With a member. -/
def withMember (l : Listing) (height : Nat) : Listing :=
  { l with members := height :: l.members }

/-- With an operator after all that is listed. -/
def withOperator (l : Listing) : Listing :=
  { before := some l.height }

end Listing

/-- A hyphen, and what does not count after it. -/
def hyphen (spaced : Bool) : Reader Char := fun text => do
  let (_, rest) ← expect '-' text
  return ('-', skip spaced rest)

/-- The beginning of a set after its opening bracket: a mark of negation, and the members that can
only stand there, which are hyphens or a closing bracket. -/
def setBeginning (spaced : Bool) (text : List Char) : Bool × List Char × List Char :=
  let (negated, text) := match skip spaced text with
    | '^' :: rest => (true, skip spaced rest)
    | rest => (false, rest)
  match many (hyphen spaced) text with
  | ([], ']' :: rest) => (negated, [']'], rest)
  | (hyphens, rest) => (negated, hyphens, rest)

/-- The rest of a set that lists `l` so far, inside of further ones, the innermost first; `room`
bounds the number of its parts. -/
def setRest (spaced : Bool) : (room : Nat) → Listing → List Listing → CharacterSet →
    Reader CharacterSet
  | 0, _, _, _, _ => none
  | room + 1, l, outer, s, text =>
    match skip spaced text with
    | ']' :: rest =>
      match outer with
      | [] => some ({ s with height := l.height + 1 }, rest)
      | parent :: outer => setRest spaced room (parent.withMember (l.height + 1)) outer s rest
    | '[' :: rest =>
      match asciiClass rest with
      | some (negated, rest) =>
        setRest spaced room (l.withMember 0) outer (s.withAsciiClass negated) rest
      | none =>
        let (negated, members, rest) := setBeginning spaced rest
        setRest spaced room { members := members.map fun _ => 0 } (l :: outer)
          (members.foldl .withCharacter (s.withNegation negated)) rest
    | '&' :: '&' :: rest => setRest spaced room l.withOperator outer s rest
    | '-' :: '-' :: rest => setRest spaced room l.withOperator outer s rest
    | '~' :: '~' :: rest => setRest spaced room l.withOperator outer s rest
    | text => do
      let (s, rest) ← memberOrRange spaced s text
      setRest spaced room (l.withMember 0) outer s rest

/-- A set of characters after its opening bracket. -/
def characterSet (spaced : Bool) : Reader CharacterSet := fun text =>
  let (negated, members, rest) := setBeginning spaced text
  setRest spaced (text.length + 1) { members := members.map fun _ => 0 } []
    (members.foldl .withCharacter (({} : CharacterSet).withNegation negated)) rest

end Supervision.Logging.Pattern
