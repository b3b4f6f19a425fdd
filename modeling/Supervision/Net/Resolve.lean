import Supervision.Net.SocketAddress

/-!
# From a port spec to a bind address

A port spec is a port (`8080`), a port with a colon (`:8080`) or a host with a port
(`host:8080`). `normalizePort` gives it a colon, `specPort?` reads its port, and
`resolveBindAddress` turns a normalised spec into a socket address. A spec without a host stands
for every interface.
-/

namespace Supervision.Net
open Text

/-- The port spec where none is configured. -/
def defaultPort : String := ":8080"

/-- The port spec of a gRPC server where none is configured. -/
def defaultGrpcPort : String := ":50051"

/-- The spec, or `fallback` where it is empty, with a colon. -/
def normalizePort (spec fallback : String) : String :=
  let chosen := if spec.isEmpty then fallback else spec
  if chosen.isEmpty then defaultPort
  else if chosen.toList.contains ':' then chosen
  else ":" ++ chosen

/-- The port of a normalised spec: the number after the last colon. -/
def specPort? (normalized : String) : Option Nat :=
  let digits := match splitLast? ':' normalized.toList with
    | some (_, after) => after
    | none => normalized.toList
  readDecimal? portBound digits

/-- Why an address cannot be resolved. -/
inductive ResolveError where
  /-- The text has no colon. -/
  | invalidSocketAddress
  /-- What follows the last colon is no port. -/
  | invalidPort
  /-- The host has no address. -/
  | lookup (reason : String)
deriving DecidableEq, Repr

/-- The text of a resolve error. -/
def ResolveError.message : ResolveError → String
  | .invalidSocketAddress => "invalid socket address"
  | .invalidPort => "invalid port value"
  | .lookup reason => reason

/-- Looks up the addresses of a host, each with the port asked for. -/
abbrev Lookup := (host : String) → (port : Nat) → Except String (List SocketAddress)

/-- The socket address of a normalised spec. A strict socket address stands for itself; otherwise
the host before the last colon is looked up, and the first address taken. -/
def resolveBindAddress (lookup : Lookup) (address : String) :
    Except ResolveError SocketAddress :=
  let full :=
    if address.toList.head? = some ':' then "0.0.0.0".toList ++ address.toList
    else address.toList
  match SocketAddress.ofChars? full with
  | some found => .ok found
  | none =>
    match splitLast? ':' full with
    | none => .error .invalidSocketAddress
    | some (host, port) =>
      match readDecimal? portBound port with
      | none => .error .invalidPort
      | some port =>
        match lookup (String.ofList host) port with
        | .error reason => .error (.lookup reason)
        | .ok [] => .error (.lookup ("address " ++ address ++ " did not resolve"))
        | .ok (found :: _) => .ok found

end Supervision.Net
