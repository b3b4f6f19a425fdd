import Supervision.Decimal.Binary

/-!
# Values of a configuration document

What a document holds once it is read: scalars, arrays and tables. A table keeps its keys in the
order in which they were first defined.
-/

namespace Supervision.Toml

/-- A number with a fraction or an exponent, as it is written. -/
inductive FloatText where
  /-- `digits * 10 ^ power`, negated or not. -/
  | decimal (negative : Bool) (digits : Nat) (power : Int)
  | infinity (negative : Bool)
  | nan
deriving DecidableEq, Repr, Inhabited

/-- The magnitude nearest to a number, where it is one. -/
def FloatText.magnitude? : FloatText → Option Decimal.Magnitude
  | .decimal _ digits power => some (Decimal.nearest digits power)
  | .infinity _ => some .infinite
  | .nan => none

/-- The shortest text of the nearest number of double precision, with a decimal point. -/
def FloatText.text (f : FloatText) : String :=
  let signed (negative : Bool) (text : String) : String := if negative then "-" ++ text else text
  match f with
  | .nan => "NaN"
  | .infinity negative => signed negative "inf"
  | .decimal negative digits power =>
    match Decimal.nearest digits power with
    | .infinite => signed negative "inf"
    | .finite mantissa exponent =>
      let (digits, power) := Decimal.shortest mantissa exponent
      signed negative (Decimal.positional digits power)

/-- A value of a document. -/
inductive Value where
  | string (text : String)
  | integer (value : Int)
  | float (value : FloatText)
  | boolean (value : Bool)
  /-- A date, a time or both. -/
  | moment
  | array (elements : List Value)
  | table (entries : List (String × Value))
deriving Repr, Inhabited

end Supervision.Toml
