import Supervision.Logging.Pattern.Spacing
import Supervision.Text.Reader

/-!
# Escapes in patterns

A backslash begins an escape: a character, a class of characters or a place in the text. The digits
of a character may be spaced.
-/

namespace Supervision.Logging.Pattern
open Text

/-- What an escape stands for. -/
inductive Escape where
  | character (c : Char)
  /-- A character beyond ASCII, by the two digits that also write a byte. -/
  | byte (c : Char)
  | edge
  | wordEdge
  | classOf (negated : Bool)
deriving DecidableEq, Repr

/-- The character that an escape stands for, if it stands for one. -/
def Escape.character? : Escape → Option Char
  | .character c => some c
  | .byte c => some c
  | _ => none

/-- Exactly so many hexadecimal digits. -/
def hexDigits (spaced : Bool) : Nat → Reader (List Nat)
  | 0, text => some ([], text)
  | count + 1, text =>
    match skip spaced text with
    | [] => none
    | c :: rest => do
      let value ← digitValue? 16 c
      let (values, rest) ← hexDigits spaced count rest
      return (value :: values, rest)

/-- A character by its code point in exactly `count` hexadecimal digits. -/
def hexCharacter (spaced : Bool) (count : Nat) : Reader Char := fun text => do
  let (values, rest) ← hexDigits spaced count text
  let code := ofDigits 16 values
  if code.isValidChar then some (Char.ofNat code, rest) else none

/-- A character by two hexadecimal digits. -/
def hexByte (spaced : Bool) : Reader Escape := fun text => do
  let (c, rest) ← hexCharacter spaced 2 text
  return (if c.toNat < 0x80 then .character c else .byte c, rest)

/-- A character by more than two hexadecimal digits. -/
def hexLong (spaced : Bool) (count : Nat) : Reader Escape := fun text => do
  let (c, rest) ← hexCharacter spaced count text
  return (.character c, rest)

/-- The end of an escape, after its backslash. -/
def escape (spaced : Bool) : Reader Escape
  | [] => none
  | c :: rest =>
    match c with
    | 'x' => hexByte spaced rest
    | 'u' => hexLong spaced 4 rest
    | 'U' => hexLong spaced 8 rest
    | 'd' | 's' | 'w' => some (.classOf false, rest)
    | 'D' | 'S' | 'W' => some (.classOf true, rest)
    | 'A' | 'z' => some (.edge, rest)
    | 'b' | 'B' | '<' | '>' => some (.wordEdge, rest)
    | 'a' => some (.character '\x07', rest)
    | 'f' => some (.character '\x0c', rest)
    | 'n' => some (.character '\n', rest)
    | 'r' => some (.character '\r', rest)
    | 't' => some (.character '\t', rest)
    | 'v' => some (.character '\x0b', rest)
    | _ => if c.toNat < 0x80 && !c.isAlphanum then some (.character c, rest) else none

end Supervision.Logging.Pattern
