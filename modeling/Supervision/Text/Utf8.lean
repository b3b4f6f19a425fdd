/-!
# Text from bytes

Decoding UTF-8 where the bytes may end or break inside a character: each longest beginning of a
character that is not one itself stands for the replacement character.
-/

namespace Supervision.Text

/-- The character that stands for bytes that are no text. -/
def replacement : Char := '\ufffd'

/-- How a character goes on after its first byte: the number of further bytes, and the bounds of the
first of them. -/
structure LeadByte where
  further : Nat
  low : Nat
  high : Nat
deriving DecidableEq, Repr

/-- How a character of several bytes goes on, by its first byte. -/
def leadByte? (b : Nat) : Option LeadByte :=
  if 0xc2 ≤ b && b ≤ 0xdf then some ⟨1, 0x80, 0xbf⟩
  else if b = 0xe0 then some ⟨2, 0xa0, 0xbf⟩
  else if b = 0xed then some ⟨2, 0x80, 0x9f⟩
  else if 0xe1 ≤ b && b ≤ 0xef then some ⟨2, 0x80, 0xbf⟩
  else if b = 0xf0 then some ⟨3, 0x90, 0xbf⟩
  else if 0xf1 ≤ b && b ≤ 0xf3 then some ⟨3, 0x80, 0xbf⟩
  else if b = 0xf4 then some ⟨3, 0x80, 0x8f⟩
  else none

/-- The further bytes of a character whose first bits are `bits`, and the bytes after them. -/
def takeFurther : (further low high bits : Nat) → List UInt8 → Char × List UInt8
  | 0, _, _, bits, rest => (Char.ofNat bits, rest)
  | _ + 1, _, _, _, [] => (replacement, [])
  | further + 1, low, high, bits, b :: rest =>
    if low ≤ b.toNat && b.toNat ≤ high then
      takeFurther further 0x80 0xbf (bits * 64 + b.toNat % 64) rest
    else (replacement, b :: rest)

/-- The bits of a character in its first byte. -/
def leadBits (further b : Nat) : Nat :=
  b % Nat.pow 2 (6 - further)

/-- The character at the beginning of some bytes, the first of which is `b`, and the bytes after
it. -/
def takeChar (b : UInt8) (rest : List UInt8) : Char × List UInt8 :=
  if b.toNat < 0x80 then (Char.ofNat b.toNat, rest)
  else
    match leadByte? b.toNat with
    | none => (replacement, rest)
    | some lead => takeFurther lead.further lead.low lead.high (leadBits lead.further b.toNat) rest

/-- At most `limit` characters of some bytes. -/
def takeChars : (limit : Nat) → List UInt8 → List Char
  | 0, _ => []
  | _ + 1, [] => []
  | limit + 1, b :: rest =>
    let (c, rest) := takeChar b rest
    c :: takeChars limit rest

/-- The text of some bytes. -/
def decodeUtf8 (bytes : List UInt8) : String :=
  String.ofList (takeChars bytes.length bytes)

end Supervision.Text
