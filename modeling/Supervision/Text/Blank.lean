/-!
# Blank characters

The characters with the Unicode property `White_Space`, and trimming by it.
-/

namespace Supervision.Text

/-- A character with the property `White_Space`. -/
def isBlank (c : Char) : Bool :=
  (9 ≤ c.toNat && c.toNat ≤ 13) || c.toNat = 0x20 || c.toNat = 0x85 || c.toNat = 0xa0 ||
  c.toNat = 0x1680 || (0x2000 ≤ c.toNat && c.toNat ≤ 0x200a) || c.toNat = 0x2028 ||
  c.toNat = 0x2029 || c.toNat = 0x202f || c.toNat = 0x205f || c.toNat = 0x3000

/-- A list without the elements at its end that satisfy `p`. -/
def dropEndWhile {α : Type} (p : α → Bool) (l : List α) : List α :=
  (l.reverse.dropWhile p).reverse

/-- A text without the blanks at its two ends. -/
def trimBlank (s : List Char) : List Char :=
  dropEndWhile isBlank (s.dropWhile isBlank)

end Supervision.Text
