import Supervision.Text.Reader
import Supervision.Toml.Value

/-!
# Scalars of a document

Readers of strings, numbers, truth values, dates and times. A reader that refuses has met a fault
of syntax: no other reading of the same text is possible, except where `scalar` tries a moment
before a number and a fraction before an integer.
-/

namespace Supervision.Toml
open Text

/-- A space or a tab. -/
def isSpace (c : Char) : Bool :=
  c = ' ' || c = '\t'

/-- Takes a space or a tab. -/
def space : Reader Unit := fun text =>
  (oneOf isSpace text).map fun (_, rest) => ((), rest)

/-- The rest of a text after its leading spaces and tabs. -/
def skipSpace (text : List Char) : List Char :=
  text.dropWhile isSpace

/-- A character that may stand for itself: a tab, or no control character of ASCII. -/
def isPlain (c : Char) : Bool :=
  c = '\t' || (0x20 ≤ c.toNat && c.toNat ≠ 0x7f)

/-- The end of a line. -/
def lineBreak : Reader Unit
  | '\n' :: rest => some ((), rest)
  | '\r' :: '\n' :: rest => some ((), rest)
  | _ => none

/-! ## Strings -/

/-- Hexadecimal digits, exactly `count` of them. -/
def hexNumber (count : Nat) : Reader Nat := fun text =>
  let digits := text.take count
  if digits.length < count then none
  else (digits.mapM (digitValue? 16)).map fun ds => (ofDigits 16 ds, text.drop count)

/-- The character of a code point, which is no surrogate. -/
def charOfCode? (code : Nat) : Option Char :=
  if code.isValidChar then some (Char.ofNat code) else none

/-- The character that an escape stands for, after its backslash. -/
def escaped : Reader Char
  | 'b' :: rest => some ('\x08', rest)
  | 't' :: rest => some ('\t', rest)
  | 'n' :: rest => some ('\n', rest)
  | 'f' :: rest => some ('\x0c', rest)
  | 'r' :: rest => some ('\r', rest)
  | '"' :: rest => some ('"', rest)
  | '\\' :: rest => some ('\\', rest)
  | 'u' :: rest => do
    let (code, rest) ← hexNumber 4 rest
    return (← charOfCode? code, rest)
  | 'U' :: rest => do
    let (code, rest) ← hexNumber 8 rest
    return (← charOfCode? code, rest)
  | _ => none

/-- One character of a string in double quotes. -/
def basicChar : Reader Char
  | '\\' :: rest => escaped rest
  | c :: rest => if c ≠ '"' && isPlain c then some (c, rest) else none
  | [] => none

/-- One character of a string in single quotes. -/
def literalChar : Reader Char :=
  oneOf fun c => c ≠ '\'' && isPlain c

/-- A string on one line, between two quotes of a kind. -/
def lineString (quote : Char) (char : Reader Char) : Reader String := fun text => do
  let (_, text) ← expect quote text
  let (chars, text) := many char text
  let (_, text) ← expect quote text
  return (String.ofList chars, text)

/-- A backslash that ends a line stands, with all blanks and line breaks after it, for nothing. -/
def lineContinuation : Reader Unit
  | '\\' :: rest => do
    let (_, rest) ← lineBreak (skipSpace rest)
    let (_, rest) := many (either lineBreak space) rest
    return ((), rest)
  | _ => none

/-- Quotes inside a string of several lines: one or two, which do not end it. -/
def innerQuotes (quote : Char) : Reader (List Char) := fun text =>
  let run := (text.takeWhile (· = quote)).length
  if run = 1 || run = 2 then some (List.replicate run quote, text.drop run) else none

/-- What a string of several lines holds at a place: a character, a line break, inner quotes, or a
line continuation where it has escapes. -/
def linesPart (quote : Char) (char : Reader Char) (escapes : Bool) : Reader (List Char) :=
  fun text =>
    let continuation := if escapes then lineContinuation text else none
    match continuation, lineBreak text with
    | some (_, rest), _ => some ([], rest)
    | none, some (_, rest) => some (['\n'], rest)
    | none, none =>
      match char text with
      | some (c, rest) => some ([c], rest)
      | none => innerQuotes quote text

/-- A string of several lines, between two runs of three quotes. A line break at its start is left
out, and up to two further quotes may precede the closing run. -/
def linesString (quote : Char) (char : Reader Char) (escapes : Bool) : Reader String :=
  fun text => do
    let (_, text) ← word [quote, quote, quote] text
    let text := ((lineBreak text).map (·.2)).getD text
    let (parts, text) := many (linesPart quote char escapes) text
    let run := (text.takeWhile (· = quote)).length
    if run < 3 || 5 < run then none
    else
      let inner := List.replicate (run - 3) quote
      return (String.ofList (parts.flatten ++ inner), text.drop run)

/-- A string of one of the four kinds. -/
def string : Reader String := fun text =>
  match text with
  | '"' :: '"' :: '"' :: _ => linesString '"' basicChar true text
  | '\'' :: '\'' :: '\'' :: _ => linesString '\'' literalChar false text
  | '"' :: _ => lineString '"' basicChar text
  | _ => lineString '\'' literalChar text

/-! ## Numbers -/

/-- Digits of a radix, where an underscore may stand between two. -/
def digitRun (radix : Nat) : Reader (List Nat) := fun text => do
  let digit : Reader Nat
    | [] => none
    | c :: rest => (digitValue? radix c).map (·, rest)
  let next : Reader Nat
    | '_' :: rest => digit rest
    | rest => digit rest
  let (first, text) ← digit text
  let (more, text) := many next text
  return (first :: more, text)

/-- An optional sign; true for minus. -/
def sign : List Char → Bool × List Char
  | '+' :: rest => (false, rest)
  | '-' :: rest => (true, rest)
  | rest => (false, rest)

/-- Digits without a leading zero, unless there is a single one. -/
def wholeDigits : Reader (List Nat)
  | '0' :: rest => some ([0], rest)
  | text => digitRun 10 text

/-- A whole number in 64 bits with a sign. -/
def inRange? (n : Int) : Option Int :=
  if -9223372036854775808 ≤ n && n ≤ 9223372036854775807 then some n else none

/-- A whole number, in decimal with an optional sign or with one of the marks `0x`, `0o`, `0b`. -/
def integer : Reader Int := fun text =>
  let radixed (radix : Nat) (rest : List Char) : Option (Int × List Char) := do
    let (digits, rest) ← digitRun radix rest
    return (← inRange? (ofDigits radix digits), rest)
  match text with
  | '0' :: 'x' :: rest => radixed 16 rest
  | '0' :: 'o' :: rest => radixed 8 rest
  | '0' :: 'b' :: rest => radixed 2 rest
  | _ => do
    let (negative, text) := sign text
    let (digits, text) ← wholeDigits text
    let magnitude : Int := ofDigits 10 digits
    return (← inRange? (if negative then -magnitude else magnitude), text)

/-- An exponent with its mark. -/
def exponent : Reader Int := fun text => do
  let (_, text) ← oneOf (fun c => c = 'e' || c = 'E') text
  let (negative, text) := sign text
  let (digits, text) ← digitRun 10 text
  let magnitude : Int := ofDigits 10 digits
  return (if negative then -magnitude else magnitude, text)

/-- The digits after a decimal point. -/
def fractionDigits : Reader (List Nat) := fun text => do
  let (_, text) ← expect '.' text
  digitRun 10 text

/-- A number with a fraction, an exponent or both, or one of `inf` and `nan`. A positive number too
large for double precision is refused. -/
def float : Reader FloatText := fun text => do
  let (negative, text) := sign text
  match text with
  | 'i' :: 'n' :: 'f' :: rest => return (.infinity negative, rest)
  | 'n' :: 'a' :: 'n' :: rest => return (.nan, rest)
  | _ =>
    let (digits, text) ← wholeDigits text
    let (fraction, text) ← optional fractionDigits text
    let (power, text) ← optional exponent text
    if fraction.isNone && power.isNone then none
    else
      let fraction := fraction.getD []
      let value : FloatText :=
        .decimal negative (ofDigits 10 (digits ++ fraction)) (power.getD 0 - fraction.length)
      if !negative && value.magnitude? = some .infinite then none else return (value, text)

/-! ## Dates and times -/

/-- A number of exactly `count` digits between two bounds. -/
def fixedNumber (count low high : Nat) : Reader Nat := fun text => do
  let digits := text.take count
  if digits.length < count then none
  else
    let value := ofDigits 10 (← digits.mapM (digitValue? 10))
    if low ≤ value && value ≤ high then return (value, text.drop count) else none

/-- The number of days of a month. -/
def daysOfMonth (year month : Nat) : Nat :=
  if month = 2 then
    if year % 4 = 0 && (year % 100 ≠ 0 || year % 400 = 0) then 29 else 28
  else if month = 4 || month = 6 || month = 9 || month = 11 then 30
  else 31

/-- A date of the calendar. -/
def date : Reader Unit := fun text => do
  let (year, text) ← fixedNumber 4 0 9999 text
  let (_, text) ← expect '-' text
  let (month, text) ← fixedNumber 2 1 12 text
  let (_, text) ← expect '-' text
  let (_, text) ← fixedNumber 2 1 (daysOfMonth year month) text
  return ((), text)

/-- A time of day with seconds and an optional fraction of a second. -/
def timeOfDay : Reader Unit := fun text => do
  let (_, text) ← fixedNumber 2 0 23 text
  let (_, text) ← expect ':' text
  let (_, text) ← fixedNumber 2 0 59 text
  let (_, text) ← expect ':' text
  let (_, text) ← fixedNumber 2 0 60 text
  match text with
  | '.' :: rest =>
    let digits := rest.takeWhile (fun c => (digitValue? 10 c).isSome)
    if digits.isEmpty then none else return ((), rest.drop digits.length)
  | _ => return ((), text)

/-- The distance from universal time. -/
def timeOffset : Reader Unit := fun text => do
  let (c, text) ← oneOf (fun c => c = 'Z' || c = 'z' || c = '+' || c = '-') text
  if c = 'Z' || c = 'z' then return ((), text)
  else
    let (_, text) ← fixedNumber 2 0 23 text
    let (_, text) ← expect ':' text
    let (_, text) ← fixedNumber 2 0 59 text
    return ((), text)

/-- The time after a date, with an optional offset. -/
def timeAfterDate : Reader Unit := fun text => do
  let (_, text) ← oneOf (fun c => c = 'T' || c = 't' || c = ' ') text
  let (_, text) ← timeOfDay text
  let (_, text) ← optional timeOffset text
  return ((), text)

/-- A date, a date with a time, or a time. -/
def moment : Reader Unit := fun text =>
  match date text with
  | some (_, text) => (optional timeAfterDate text).map fun (_, rest) => ((), rest)
  | none => timeOfDay text

/-! ## Scalars -/

/-- A value that holds no other value. -/
def scalar : Reader Value := fun text =>
  match text with
  | '"' :: _ => (string text).map fun (s, rest) => (.string s, rest)
  | '\'' :: _ => (string text).map fun (s, rest) => (.string s, rest)
  | 't' :: _ => (word "true".toList text).map fun (_, rest) => (.boolean true, rest)
  | 'f' :: _ => (word "false".toList text).map fun (_, rest) => (.boolean false, rest)
  | _ =>
    match moment text with
    | some (_, rest) => some (.moment, rest)
    | none =>
      match float text with
      | some (f, rest) => some (.float f, rest)
      | none => (integer text).map fun (n, rest) => (.integer n, rest)

end Supervision.Toml
