import Supervision.Text.Number

/-!
# Request targets

What a request asks for: a path, an address with a scheme and an authority in front of the path, an
authority alone, or an asterisk. A query and a fragment may follow a path and are no part of it.
-/

namespace Supervision.Http

/-- The path at the beginning of some characters, up to a query or a fragment. -/
def pathBefore (text : List Char) : List Char :=
  text.takeWhile fun c => c ≠ '?' && c ≠ '#'

/-- What follows the scheme and its mark, where there is one. -/
def afterScheme? : List Char → Option (List Char)
  | ':' :: '/' :: '/' :: rest => some rest
  | '/' :: _ => none
  | _ :: rest => afterScheme? rest
  | [] => none

/-- The path after an authority; the root where none is written. -/
def pathAfterAuthority (text : List Char) : List Char :=
  match pathBefore (text.dropWhile fun c => c ≠ '/' && c ≠ '?' && c ≠ '#') with
  | [] => ['/']
  | path => path

/-- The path of a request target. An authority alone has none. -/
def pathOf (target : String) : String :=
  match target.toList with
  | '/' :: _ => String.ofList (pathBefore target.toList)
  | ['*'] => "*"
  | text => String.ofList ((afterScheme? text).elim [] pathAfterAuthority)

/-- The bytes that a part of a path stands for: a percent sign and two hexadecimal digits are one
byte. -/
def unescapedBytes : List Char → List UInt8
  | '%' :: a :: b :: rest =>
    match Text.digitValue? 16 a, Text.digitValue? 16 b with
    | some hi, some lo => (hi * 16 + lo).toUInt8 :: unescapedBytes rest
    | _, _ => '%'.toUInt8 :: unescapedBytes (a :: b :: rest)
  | c :: rest => (String.singleton c).toUTF8.toList ++ unescapedBytes rest
  | [] => []

/-- The text that a part of a path stands for, if it is one. -/
def unescaped? (part : List Char) : Option String :=
  String.fromUTF8? ⟨(unescapedBytes part).toArray⟩

end Supervision.Http
