/-!
# Double precision

Finite numbers of the 64-bit binary format as a mantissa and an exponent, the number nearest to a
decimal fraction, and the decimal digits that stand for a number: `shortest` gives the fewest digits
that read back, and of those the nearest, in the middle the greater. All of it is exact arithmetic
on natural numbers.
-/

namespace Supervision.Decimal

/-- A magnitude of the binary format: infinity, or `mantissa * 2 ^ (exponent - 1074)`. A mantissa
has at most 53 bits, and exactly 53 unless the exponent is zero. -/
inductive Magnitude where
  | infinite
  | finite (mantissa exponent : Nat)
deriving DecidableEq, Repr, Inhabited

/-- The quotient rounded to the nearest natural number, a half to the even neighbour. -/
def roundQuotient (num den : Nat) : Nat :=
  let q := num / den
  let twice := 2 * (num % den)
  if twice < den then q
  else if den < twice then q + 1
  else if q % 2 = 0 then q else q + 1

/-- The number of bits of a natural number. -/
def bitLength (n : Nat) : Nat :=
  if n = 0 then 0 else Nat.log2 n + 1

/-- The exponent of the format at which `num / den`, in units of `2 ^ (-1074)`, has 53 bits before
the point, or zero for smaller numbers. -/
def exponentOf (num den : Nat) : Nat :=
  let bits := bitLength (num / den)
  bits - 53

/-- The magnitude nearest to `num / den` in units of `2 ^ (-1074)`. -/
def nearestUnits (num den : Nat) : Magnitude :=
  let exponent := exponentOf num den
  let mantissa := roundQuotient num (den * Nat.pow 2 exponent)
  let (mantissa, exponent) :=
    if mantissa = Nat.pow 2 53 then (Nat.pow 2 52, exponent + 1) else (mantissa, exponent)
  if 2045 < exponent then .infinite else .finite mantissa exponent

/-- The number of units `2 ^ (-1074)` in one. -/
def unitsInOne : Nat := Nat.pow 2 1074

/-- The magnitude nearest to `digits * 10 ^ power`. Powers far beyond the format are cut off before
anything is computed. -/
def nearest (digits : Nat) (power : Int) : Magnitude :=
  let size := ((toString digits).length : Int) + power
  if digits = 0 then .finite 0 0
  else if 400 < size then .infinite
  else if size < -400 then .finite 0 0
  else if 0 ≤ power then nearestUnits (digits * Nat.pow 10 power.toNat * unitsInOne) 1
  else nearestUnits (digits * unitsInOne) (Nat.pow 10 (-power).toNat)

/-- The number of decimal digits of a natural number. -/
def decimalLength (n : Nat) : Nat :=
  (Nat.toDigits 10 n).length

/-- The least power of ten above `units / 2 ^ 1074`, for `units` that are not zero. -/
def powerAbove (units : Nat) : Int :=
  (decimalLength (units * Nat.pow 10 400 / unitsInOne) : Int) - 400

/-- The neighbours of `units / 2 ^ 1074` among the multiples of `10 ^ power`: the factor below, the
factor above, and whether the one below is the nearer; in the middle it is not. -/
def neighbours (units : Nat) (power : Int) : Nat × Nat × Bool :=
  let num := if 0 ≤ power then units else units * Nat.pow 10 (-power).toNat
  let den := if 0 ≤ power then unitsInOne * Nat.pow 10 power.toNat else unitsInOne
  let low := num / den
  (low, low + 1, 2 * (num % den) < den)

/-- The same number without zeros at the end of its digits. -/
def withoutZeros (digits : Nat) (power : Int) : Nat × Int :=
  if digits ≠ 0 ∧ digits % 10 = 0 then withoutZeros (digits / 10) (power + 1) else (digits, power)
termination_by digits

/-- Digits and power of ten that stand for a finite magnitude: the fewest digits that read back as
it, from one to seventeen, and of two such numbers the nearer, in the middle the greater. -/
def shortest (mantissa exponent : Nat) : Nat × Int :=
  let units := mantissa * Nat.pow 2 exponent
  let reads (digits : Nat) (power : Int) : Bool :=
    nearest digits power = .finite mantissa exponent
  let candidate (count : Nat) : Option (Nat × Int) :=
    let power := powerAbove units - (count + 1)
    let (low, high, lowNearer) := neighbours units power
    match reads low power, reads high power with
    | true, true => some (withoutZeros (if lowNearer then low else high) power)
    | true, false => some (withoutZeros low power)
    | false, true => some (withoutZeros high power)
    | false, false => none
  if mantissa = 0 then (0, 0) else ((List.range 17).findSome? candidate).getD (0, 0)

/-- Digits times a power of ten in positional notation, always with a decimal point. -/
def positional (digits : Nat) (power : Int) : String :=
  let text := Nat.toDigits 10 digits
  if 0 ≤ power then String.ofList (text ++ List.replicate power.toNat '0') ++ ".0"
  else
    let places := (-power).toNat
    let padded := List.replicate (places + 1 - text.length) '0' ++ text
    let whole := padded.length - places
    String.ofList (padded.take whole) ++ "." ++ String.ofList (padded.drop whole)

end Supervision.Decimal
