/-!
# Sets of code points

A set of code points is an ascending list of closed ranges.
-/

namespace Supervision.Text

/-- A code point lies in one of the closed ranges. -/
def inRanges (ranges : List (Nat × Nat)) (code : Nat) : Bool :=
  ranges.any fun (lo, hi) => lo ≤ code && code ≤ hi

end Supervision.Text
