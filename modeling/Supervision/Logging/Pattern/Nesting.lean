/-!
# The height of patterns

A pattern is a tree: a group, a repetition and a set stand one above what they hold, and so does a
list of several parts, members or alternatives. There is a limit to its height.
-/

namespace Supervision.Logging.Pattern

/-- The greatest height of a pattern. -/
def maxHeight : Nat := 250

/-- The height of a list, given the heights of what it lists. -/
def heightOf : List Nat → Nat
  | [] => 0
  | [h] => h
  | heights => heights.foldl max 0 + 1

end Supervision.Logging.Pattern
