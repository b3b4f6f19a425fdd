import Supervision.Text.Blank

/-!
# Blanks and comments in patterns

A part of a pattern may be spaced. There, blanks do not count, nor do comments, each of which goes
from a number sign to the end of its line.
-/

namespace Supervision.Logging.Pattern
open Text

/-- A text from its first character that counts, where it is spaced; at first `inComment` or not. -/
def dropSpacing (inComment : Bool) : List Char → List Char
  | [] => []
  | c :: rest =>
    if inComment then dropSpacing (c ≠ '\n') rest
    else if c = '#' then dropSpacing true rest
    else if isBlank c then dropSpacing false rest
    else c :: rest

/-- A text from its first character that counts. -/
def skip (spaced : Bool) (text : List Char) : List Char :=
  if spaced then dropSpacing false text else text

end Supervision.Logging.Pattern
