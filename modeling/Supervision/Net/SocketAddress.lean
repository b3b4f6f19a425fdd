import Supervision.Net.Ip

/-!
# Socket addresses

An IP address with a port; one of version 6 also carries a scope.
-/

namespace Supervision.Net
open Text

/-- The first number that is no port. -/
def portBound : Nat := 65536

/-- Where a socket can be bound. -/
inductive SocketAddress where
  | v4 (ip : Ipv4) (port : Nat)
  | v6 (ip : Ipv6) (port : Nat) (scope : Nat)
deriving DecidableEq, Repr, Inhabited

namespace SocketAddress

/-- The port. -/
def port : SocketAddress → Nat
  | .v4 _ port => port
  | .v6 _ port _ => port

/-- The address is of version 6. -/
def isV6 : SocketAddress → Bool
  | .v4 _ _ => false
  | .v6 _ _ _ => true

/-- The same address with another port. -/
def withPort (port : Nat) : SocketAddress → SocketAddress
  | .v4 ip _ => .v4 ip port
  | .v6 ip _ scope => .v6 ip port scope

/-- A colon and a port in digits. -/
def readPort : Reader Nat := fun text => do
  let (_, text) ← expect ':' text
  number ⟨10, none, true, portBound⟩ text

/-- A percent sign and a scope; zero where there is none. -/
def readScope (text : List Char) : Nat × List Char :=
  let read? : Option (Nat × List Char) := do
    let (_, text) ← expect '%' text
    number ⟨10, none, true, Nat.pow 2 32⟩ text
  read?.getD (0, text)

/-- A version 4 address and a port. -/
def readV4 : Reader SocketAddress := fun text => do
  let (ip, text) ← Ipv4.read text
  let (port, text) ← readPort text
  return (.v4 ip port, text)

/-- A version 6 address in brackets, with an optional scope, and a port. -/
def readV6 : Reader SocketAddress := fun text => do
  let (_, text) ← expect '[' text
  let (ip, text) ← Ipv6.read text
  let (scope, text) := readScope text
  let (_, text) ← expect ']' text
  let (port, text) ← readPort text
  return (.v6 ip port scope, text)

/-- The address that a whole text writes in strict form. -/
def ofChars? (text : List Char) : Option SocketAddress :=
  (whole readV4 text).or (whole readV6 text)

/-- The address that a whole text writes in strict form. -/
def ofString? (text : String) : Option SocketAddress :=
  ofChars? text.toList

/-- The strict text form; a zero scope is not shown. -/
def text : SocketAddress → String
  | .v4 ip port => ip.text ++ ":" ++ toString port
  | .v6 ip port scope =>
    let scopeText := if scope = 0 then "" else "%" ++ toString scope
    "[" ++ ip.text ++ scopeText ++ "]:" ++ toString port

end SocketAddress

end Supervision.Net
