import Supervision.Text.Reader
import Supervision.Text.Quoted

/-!
# IP addresses

Version 4 and version 6 addresses, their strict text form, and the canonical text of version 6:
lower case, no padding, and the first longest run of two or more zero groups shortened.
-/

namespace Supervision.Net
open Text

/-- A version 4 address, by its four octets. -/
structure Ipv4 where
  octets : List Nat
deriving DecidableEq, Repr, Inhabited

/-- A version 6 address, by its eight groups of 16 bits. -/
structure Ipv6 where
  groups : List Nat
deriving DecidableEq, Repr, Inhabited

namespace Ipv4

/-- The address of every interface. -/
def unspecified : Ipv4 := ⟨[0, 0, 0, 0]⟩

/-- One octet: one to three digits, not padded. -/
def octet : Reader Nat :=
  number ⟨10, some 3, false, 256⟩

/-- Four octets with points between them. -/
def read : Reader Ipv4 := fun text => do
  let (a, text) ← octet text
  let (_, text) ← expect '.' text
  let (b, text) ← octet text
  let (_, text) ← expect '.' text
  let (c, text) ← octet text
  let (_, text) ← expect '.' text
  let (d, text) ← octet text
  return (⟨[a, b, c, d]⟩, text)

/-- The address in decimal. -/
def text (ip : Ipv4) : String :=
  ".".intercalate (ip.octets.map toString)

/-- The address as two groups of 16 bits. -/
def groups (ip : Ipv4) : List Nat :=
  match ip.octets with
  | [a, b, c, d] => [a * 256 + b, c * 256 + d]
  | _ => []

end Ipv4

namespace Ipv6

/-- The unspecified address. -/
def unspecified : Ipv6 := ⟨List.replicate 8 0⟩

/-- One group: one to four hexadecimal digits. -/
def group : Reader Nat :=
  number ⟨16, some 4, true, 65536⟩

/-- A reader preceded by a colon, unless it stands first. -/
def separated {α : Type} (first : Bool) (read : Reader α) : Reader α := fun text =>
  if first then read text else do
    let (_, text) ← expect ':' text
    read text

/-- Up to `room` groups with colons between them, and whether the last two were written as a
version 4 address, which needs room for both. -/
def readGroups : (room : Nat) → (first : Bool) → List Char → (List Nat × Bool) × List Char
  | 0, _, text => (([], false), text)
  | room + 1, first, text =>
    let embedded := if room = 0 then none else separated first Ipv4.read text
    match embedded with
    | some (ip, rest) => ((ip.groups, true), rest)
    | none =>
      match separated first group text with
      | none => (([], false), text)
      | some (g, rest) =>
        let ((gs, mixed), rest) := readGroups room false rest
        ((g :: gs, mixed), rest)

/-- Eight groups, or fewer with `::` standing for at least one zero group. An embedded version 4
address ends the text. -/
def read : Reader Ipv6 := fun text =>
  let ((front, mixed), rest) := readGroups 8 true text
  if front.length = 8 then some (⟨front⟩, rest)
  else if mixed then none
  else do
    let (_, rest) ← expect ':' rest
    let (_, rest) ← expect ':' rest
    let ((back, _), rest) := readGroups (7 - front.length) true rest
    return (⟨front ++ List.replicate (8 - front.length - back.length) 0 ++ back⟩, rest)

/-- The number of zero groups at the beginning. -/
def zerosAtFront (groups : List Nat) : Nat :=
  (groups.takeWhile (· = 0)).length

/-- Start and length of the first longest run of zero groups. -/
def longestZeroRun (groups : List Nat) : Nat × Nat :=
  (List.range groups.length).foldl
    (fun best start =>
      let len := zerosAtFront (groups.drop start)
      if best.2 < len then (start, len) else best)
    (0, 0)

/-- Groups in hexadecimal with colons between them. -/
def groupsText (groups : List Nat) : String :=
  ":".intercalate (groups.map fun g => String.ofList (hexDigits g))

/-- The address of version 4 that an address stands for, if it stands for one. -/
def mapped? (ip : Ipv6) : Option Ipv4 :=
  match ip.groups with
  | [0, 0, 0, 0, 0, 65535, high, low] =>
    some ⟨[high / 256, high % 256, low / 256, low % 256]⟩
  | _ => none

/-- The text of some groups: the first longest run of two or more zero groups is shortened. -/
def shortText (groups : List Nat) : String :=
  let (start, len) := longestZeroRun groups
  if 1 < len then groupsText (groups.take start) ++ "::" ++ groupsText (groups.drop (start + len))
  else groupsText groups

/-- The canonical text. An address that stands for one of version 4 shows it. -/
def text (ip : Ipv6) : String :=
  match ip.mapped? with
  | some v4 => "::ffff:" ++ v4.text
  | none => shortText ip.groups

end Ipv6

end Supervision.Net
