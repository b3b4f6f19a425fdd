/-!
# Numbers in text

Reading whole numbers below a bound. `readDecimal?` is the reader of ports and of environment
values: ASCII digits, at least one, with an optional plus sign.
-/

namespace Supervision.Text

/-- The value of a digit in a radix up to 36, in either letter case. -/
def digitValue? (radix : Nat) (c : Char) : Option Nat :=
  let value? :=
    if '0' ≤ c && c ≤ '9' then some (c.toNat - '0'.toNat)
    else if 'a' ≤ c && c ≤ 'z' then some (c.toNat - 'a'.toNat + 10)
    else if 'A' ≤ c && c ≤ 'Z' then some (c.toNat - 'A'.toNat + 10)
    else none
  value?.filter (· < radix)

/-- The number written by digits, the most significant first. -/
def ofDigits (radix : Nat) (digits : List Nat) : Nat :=
  digits.foldl (fun n d => n * radix + d) 0

/-- The decimal number below `bound` that a list of digits writes. -/
def readDigits? (bound : Nat) (s : List Char) : Option Nat :=
  if s.isEmpty then none
  else ((s.mapM (digitValue? 10)).map (ofDigits 10)).filter (· < bound)

/-- The decimal number below `bound` that a text writes, with an optional plus sign. -/
def readDecimal? (bound : Nat) (s : List Char) : Option Nat :=
  match s with
  | '+' :: digits => readDigits? bound digits
  | digits => readDigits? bound digits

end Supervision.Text
