/-!
# Durations

A length of time in whole nanoseconds, and its exact text in the largest fitting unit.
-/

namespace Supervision

/-- A length of time in nanoseconds. -/
structure Duration where
  nanos : Nat
deriving DecidableEq, Repr, Inhabited

namespace Duration

/-- So many milliseconds. -/
def ofMillis (ms : Nat) : Duration :=
  ⟨ms * 1000000⟩

/-- So many seconds and nanoseconds. -/
def ofSeconds (secs nanos : Nat) : Duration :=
  ⟨secs * 1000000000 + nanos⟩

/-- A number in decimal with at least `width` digits. -/
def padded (width n : Nat) : String :=
  let digits := (toString n).toList
  String.ofList (List.replicate (width - digits.length) '0' ++ digits)

/-- `part` of `10 ^ width` as a decimal fraction: a point and the digits up to the last non-zero
one, or nothing for zero. -/
def fraction (width part : Nat) : String :=
  let digits := ((padded width part).toList.reverse.dropWhile (· = '0')).reverse
  if digits.isEmpty then "" else "." ++ String.ofList digits

/-- `n` as a decimal multiple of `10 ^ width`. -/
def inUnit (n width : Nat) (unit : String) : String :=
  toString (n / Nat.pow 10 width) ++ fraction width (n % Nat.pow 10 width) ++ unit

/-- The exact text: seconds from one second on, else milliseconds, else microseconds, else
nanoseconds. -/
def text (d : Duration) : String :=
  if 1000000000 ≤ d.nanos then inUnit d.nanos 9 "s"
  else if 1000000 ≤ d.nanos then inUnit d.nanos 6 "ms"
  else if 1000 ≤ d.nanos then inUnit d.nanos 3 "µs"
  else inUnit d.nanos 0 "ns"

end Duration

end Supervision
