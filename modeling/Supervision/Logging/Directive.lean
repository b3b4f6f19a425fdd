import Supervision.Logging.Level
import Supervision.Logging.Pattern
import Supervision.Text.Blank
import Supervision.Text.Offset

/-!
# Directives

A directive is a level for everything, or a target, a span in square brackets with a field in
braces, or both, and a level of their own after an equals sign. Where none is written, everything is
let through.

Blanks around a directive do not hide its marks, but nothing else is read without them: each part is
cut out of the directive as it stands, at the byte offsets of the marks in the directive without
blanks. So a level with a blank beside it is no level, and blanks before a directive push its parts
out of place.
-/

namespace Supervision.Logging
open Text

/-- What a directive says. -/
structure Directive where
  /-- The most verbose level of its own. -/
  level : Level
  /-- It depends on the value of a field. -/
  comparesValue : Bool := false
deriving DecidableEq, Repr

/-- The most verbose level that a directive may let through. A value is not known before a span
begins, so that nothing can be held back for its sake. -/
def Directive.reach (d : Directive) : Level :=
  if d.comparesValue then .trace else d.level

/-- The level that a word stands for: a name in any letter case or a number from zero to five. -/
def levelOfWord? (word : List Char) : Option Level :=
  match readDecimal? Level.all.length word with
  | some n => Level.all[n]?
  | none => Level.ofName? word

/-- The level that is written after an equals sign; everything where nothing is written. -/
def ownLevel? (word : List Char) : Option Level :=
  if word.isEmpty then some .trace else levelOfWord? word

/-- A character that may begin a target. -/
def beginsTarget (c : Char) : Bool :=
  isAlphanumeric c || c = '-' || c = ':' || c = '_'

/-! ## Values -/

/-- At least one digit. -/
def areDigits (text : List Char) : Bool :=
  !text.isEmpty && text.all Char.isDigit

/-- The exponent of a number, or nothing. -/
def isExponent : List Char → Bool
  | [] => true
  | e :: '+' :: digits => e.toLower = 'e' && areDigits digits
  | e :: '-' :: digits => e.toLower = 'e' && areDigits digits
  | e :: digits => e.toLower = 'e' && areDigits digits

/-- A number without a sign, in digits or by the name of what is no finite number. -/
def isMagnitude (text : List Char) : Bool :=
  let whole := text.takeWhile Char.isDigit
  let named := ["inf", "infinity", "nan"].any fun name => name.toList = text.map Char.toLower
  let written := match text.drop whole.length with
    | '.' :: rest =>
      let places := rest.takeWhile Char.isDigit
      !(whole.isEmpty && places.isEmpty) && isExponent (rest.drop places.length)
    | rest => !whole.isEmpty && isExponent rest
  named || written

/-- A value to compare with: a number with a plus sign, or a pattern, as are truth values and all
other numbers. -/
def isComparable (text : List Char) : Bool :=
  match text with
  | '+' :: rest => isMagnitude rest
  | text => isPattern text

/-- The value in a field, after the first equals sign and up to the next one. -/
def valueOf? (field : List Char) : Option (List Char) :=
  match field.dropWhile (· ≠ '=') with
  | [] => none
  | _ :: rest => some (rest.takeWhile (· ≠ '='))

/-- A field is compared with a value, if it can be read. -/
def comparesValue? (field : List Char) : Option Bool :=
  if field.isEmpty then none
  else
    match valueOf? field with
    | none => some false
    | some value => if isComparable value then some true else none

/-! ## The whole -/

/-- A directive as it stands, and what is left to read of it without its blanks. -/
structure Remainder where
  /-- The directive as it stands. -/
  full : List Char
  /-- The bytes before the rest. -/
  offset : Nat
  rest : List Char
deriving DecidableEq, Repr

namespace Remainder

/-- A directive of which nothing is read yet. -/
def ofText (text : List Char) : Remainder :=
  ⟨text, 0, trimBlank text⟩

/-- What is left after some characters. -/
def advance (r : Remainder) (count : Nat) : Remainder :=
  ⟨r.full, r.offset + byteLength (r.rest.take count), r.rest.drop count⟩

/-- The end of the directive as it stands, from the offset on. -/
def tail? (r : Remainder) : Option (List Char) :=
  fromByte? r.offset r.full

/-- So many characters of the directive as it stands, by their bytes, from the offset on. -/
def part? (r : Remainder) (count : Nat) : Option (List Char) :=
  bytesAt? r.offset (byteLength (r.rest.take count)) r.full

/-- The level after an equals sign. -/
def level? (r : Remainder) : Option Level :=
  r.tail?.bind ownLevel?

/-- The level after a span. -/
def levelAfterSpan? (r : Remainder) : Option Level :=
  match r.rest with
  | [] => some .trace
  | '=' :: _ => (r.advance 1).level?
  | _ => none

/-- The directive from the field of its span on. -/
def fieldDirective? (r : Remainder) : Option Directive := do
  let count := (r.rest.takeWhile (· ≠ '\x7d')).length
  let comparesValue ← (r.part? count).bind comparesValue?
  match r.rest.drop count with
  | '\x7d' :: ']' :: _ => return ⟨← (r.advance (count + 2)).levelAfterSpan?, comparesValue⟩
  | _ => none

/-- The directive from its span on, after the opening bracket. -/
def spanDirective? (r : Remainder) : Option Directive :=
  let count := (r.rest.takeWhile fun c => c ≠ ']' && c ≠ '\x7b').length
  let next := r.advance (count + 1)
  match r.rest.drop count with
  | ']' :: _ => next.levelAfterSpan?.map fun level => ⟨level, false⟩
  | '\x7b' :: _ => next.fieldDirective?
  | _ => none

/-- The directive from its target on. -/
def targetDirective? (r : Remainder) : Option Directive :=
  let count := (r.rest.takeWhile fun c => c ≠ '=' && c ≠ '[').length
  let next := r.advance (count + 1)
  match r.rest.drop count with
  | [] => some ⟨(levelOfWord? r.full).getD .trace, false⟩
  | '=' :: _ => next.level?.map fun level => ⟨level, false⟩
  | _ => next.spanDirective?

end Remainder

/-- The directive that a text writes. -/
def Directive.ofText? (text : List Char) : Option Directive :=
  let r := Remainder.ofText text
  match r.rest with
  | [] => none
  | '[' :: _ => (r.advance 1).spanDirective?
  | c :: _ => if beginsTarget c then r.targetDirective? else none

end Supervision.Logging
