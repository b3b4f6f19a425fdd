/-!
# Byte offsets

Cutting a text at offsets that count the bytes of its characters in UTF-8. An offset inside a
character cuts nothing.
-/

namespace Supervision.Text

/-- The number of bytes of some characters. -/
def byteLength : List Char → Nat
  | [] => 0
  | c :: rest => c.utf8Size + byteLength rest

/-- The text before and from an offset on. -/
def splitAtByte? : (offset : Nat) → List Char → Option (List Char × List Char)
  | 0, text => some ([], text)
  | _ + 1, [] => none
  | offset + 1, c :: rest =>
    if offset + 1 < c.utf8Size then none
    else (splitAtByte? (offset + 1 - c.utf8Size) rest).map fun (before, after) =>
      (c :: before, after)

/-- The text from an offset on. -/
def fromByte? (start : Nat) (text : List Char) : Option (List Char) :=
  (splitAtByte? start text).map (·.2)

/-- So many bytes of a text from an offset on. -/
def bytesAt? (start length : Nat) (text : List Char) : Option (List Char) := do
  let rest ← fromByte? start text
  let (piece, _) ← splitAtByte? length rest
  return piece

end Supervision.Text
