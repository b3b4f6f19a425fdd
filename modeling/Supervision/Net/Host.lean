import Supervision.Net.Resolve

/-!
# Hosts

What a machine lets a service do: which addresses can be bound, which hosts have addresses, and
whether its own servers can be reached. `Host.bind` occupies an address until it is released.
-/

namespace Supervision.Net
open Text

/-- An error of the operating system. -/
inductive OsError where
  | permissionDenied
  | networkUnreachable
  | addressInUse
  | addressNotAvailable
deriving DecidableEq, Repr, Inhabited

namespace OsError

/-- The number of an error. -/
def code : OsError → Nat
  | permissionDenied => 13
  | addressInUse => 98
  | addressNotAvailable => 99
  | networkUnreachable => 101

/-- The words of the system. -/
def words : OsError → String
  | permissionDenied => "Permission denied"
  | addressInUse => "Address already in use"
  | addressNotAvailable => "Cannot assign requested address"
  | networkUnreachable => "Network is unreachable"

/-- The text of an error. -/
def message (e : OsError) : String :=
  e.words ++ " (os error " ++ toString e.code ++ ")"

end OsError

/-- A machine, and the addresses that are bound on it. -/
structure Host where
  /-- Why an address cannot be bound, whether or not it is free. -/
  refusal : SocketAddress → Option OsError
  lookup : Lookup
  /-- Servers of the machine can be reached from it. -/
  reachable : Bool
  bound : List SocketAddress := []
  /-- The port that is given out next where none is asked for. -/
  nextPort : Nat := 32768

namespace Host

/-- Two addresses cannot be bound at a time: they have one port, and one of them stands for every
interface or both are the same. -/
def conflicts (a b : SocketAddress) : Bool :=
  let isWild (x : SocketAddress) : Bool :=
    match x with
    | .v4 ip _ => ip = .unspecified
    | .v6 ip _ _ => ip = .unspecified
  a.port = b.port && (a = b || isWild a || isWild b)

/-- Binds an address. Where no port is asked for, a free one is given out. -/
def bind (host : Host) (address : SocketAddress) : Except OsError (SocketAddress × Host) :=
  match host.refusal address with
  | some e => .error e
  | none =>
    if address.port = 0 then
      let given := address.withPort host.nextPort
      .ok (given, { host with bound := given :: host.bound, nextPort := host.nextPort + 1 })
    else if host.bound.any (conflicts address) then .error .addressInUse
    else .ok (address, { host with bound := address :: host.bound })

/-- Releases an address. -/
def release (host : Host) (address : SocketAddress) : Host :=
  { host with bound := host.bound.erase address }

end Host

/-! ## A machine of its own -/

/-- A number in decimal, in octal after a zero, or in hexadecimal after `0x`. -/
def looseNumber? (text : List Char) : Option Nat :=
  let digitsOf (radix : Nat) (digits : List Char) : Option Nat :=
    (digits.mapM (digitValue? radix)).map (ofDigits radix)
  match text with
  | [] => none
  | '0' :: 'x' :: rest => if rest.isEmpty then none else digitsOf 16 rest
  | '0' :: 'X' :: rest => if rest.isEmpty then none else digitsOf 16 rest
  | '0' :: rest => digitsOf 8 rest
  | digits => digitsOf 10 digits

/-- A version 4 address of one to four numbers, of which the last one fills what is left. -/
def looseIpv4? (text : String) : Option Ipv4 := do
  let numbers ← (splitAll '.' text.toList).mapM looseNumber?
  let last ← numbers.getLast?
  let front := numbers.dropLast
  let room := 4 - front.length
  if 3 < front.length || front.any (255 < ·) || Nat.pow 256 room ≤ last then none
  else
    let rest := (List.range room).map fun i => last / Nat.pow 256 (room - 1 - i) % 256
    return ⟨front ++ rest⟩

/-- A version 6 address with an optional scope. -/
def scopedIpv6? (text : String) : Option (Ipv6 × Nat) := do
  let (ip, rest) ← Ipv6.read text.toList
  match SocketAddress.readScope rest with
  | (scope, []) => return (ip, scope)
  | _ => none

/-- Looks up hosts that are written as addresses, and no others. -/
def numericLookup : Lookup := fun host port =>
  match looseIpv4? host with
  | some ip => .ok [.v4 ip port]
  | none =>
    match scopedIpv6? host with
    | some (ip, scope) => .ok [.v6 ip port scope]
    | none => .error "failed to lookup address information: Temporary failure in name resolution"

/-- The first port that needs no privilege. -/
def firstOpenPort : Nat := 1024

/-- A machine without any network and without privileges: every address of version 4 can be bound,
of version 6 only the one of every interface and those that stand for one of version 4, privileged
ports never, and nothing can be reached. -/
def isolatedHost : Host where
  refusal address :=
    if address.port ≠ 0 && address.port < firstOpenPort then some .permissionDenied
    else match address with
      | .v4 _ _ => none
      | .v6 ip _ _ =>
        if ip = .unspecified || ip.mapped?.isSome then none else some .addressNotAvailable
  lookup := numericLookup
  reachable := false

end Supervision.Net
