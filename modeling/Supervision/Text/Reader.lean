import Supervision.Text.Number

/-!
# Readers

A reader takes a beginning of a text and returns its value with the rest, or refuses and takes
nothing.
-/

namespace Supervision.Text

/-- A reader of a value at the beginning of a text. -/
abbrev Reader (α : Type) := List Char → Option (α × List Char)

/-- Takes one given character. -/
def expect (c : Char) : Reader Unit
  | [] => none
  | d :: rest => if d = c then some ((), rest) else none

/-- The digits at the beginning of a text, and the rest. -/
def takeDigits (radix : Nat) : List Char → List Nat × List Char
  | [] => ([], [])
  | c :: rest =>
    match digitValue? radix c with
    | none => ([], c :: rest)
    | some d =>
      let (digits, after) := takeDigits radix rest
      (d :: digits, after)

/-- How a number is written: its radix, the most digits it may have, whether it may start with a
zero that is not its only digit, and the first number that is too large. -/
structure NumberForm where
  radix : Nat
  maxDigits : Option Nat
  zeroPrefix : Bool
  bound : Nat

/-- Takes all digits that follow and returns their number if they are of the given form. -/
def number (form : NumberForm) : Reader Nat := fun text =>
  let (digits, rest) := takeDigits form.radix text
  let value := ofDigits form.radix digits
  let tooLong := match form.maxDigits with
    | none => false
    | some limit => limit < digits.length
  let padded := digits.head? = some 0 && 1 < digits.length
  if digits.isEmpty || tooLong || (padded && !form.zeroPrefix) || form.bound ≤ value then none
  else some (value, rest)

/-- The first of two readers that takes something. -/
def either {α : Type} (first second : Reader α) : Reader α := fun text =>
  (first text).or (second text)

/-- A reader that may refuse. -/
def optional {α : Type} (read : Reader α) : Reader (Option α) := fun text =>
  match read text with
  | some (value, rest) => some (some value, rest)
  | none => some (none, text)

/-- Takes one character of a class. -/
def oneOf (allowed : Char → Bool) : Reader Char
  | [] => none
  | c :: rest => if allowed c then some (c, rest) else none

/-- Takes a given word. -/
def word : List Char → Reader Unit
  | [], text => some ((), text)
  | c :: cs, text => do
    let (_, text) ← expect c text
    word cs text

/-- Takes as many values as follow, at most `limit`. -/
def atMost {α : Type} (limit : Nat) (read : Reader α) (text : List Char) : List α × List Char :=
  match limit with
  | 0 => ([], text)
  | limit + 1 =>
    match read text with
    | none => ([], text)
    | some (value, rest) =>
      let (values, rest) := atMost limit read rest
      (value :: values, rest)

/-- Takes as many values as follow, each of which takes at least a character. -/
def many {α : Type} (read : Reader α) (text : List Char) : List α × List Char :=
  atMost text.length read text

/-- A reader that must take the whole text. -/
def whole {α : Type} (read : Reader α) (text : List Char) : Option α :=
  match read text with
  | some (value, []) => some value
  | _ => none

/-- The text before and after its last `sep`, where it has one. -/
def splitLast? (sep : Char) : List Char → Option (List Char × List Char)
  | [] => none
  | c :: rest =>
    match splitLast? sep rest with
    | some (before, after) => some (c :: before, after)
    | none => if c = sep then some ([], rest) else none

/-- The parts of a text between separators: one more than there are separators. -/
def splitAll (sep : Char) : List Char → List (List Char)
  | [] => [[]]
  | c :: rest =>
    if c = sep then [] :: splitAll sep rest
    else
      match splitAll sep rest with
      | [] => [[c]]
      | part :: parts => (c :: part) :: parts

end Supervision.Text
