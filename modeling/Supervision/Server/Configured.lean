import Supervision.Config.Schema
import Supervision.Net.Resolve
import Supervision.Server.Task

/-!
# Servers from a configuration

A server of either kind on a port spec, and the server that a configuration describes: its port spec
is normalised with the fallback of its kind.
-/

namespace Supervision

namespace Server

/-- The name of a server that was given none. -/
def Kind.defaultName : Kind → String
  | .http => "http"
  | .grpc => "grpc"

/-- The port spec of a server whose configuration leaves it empty. -/
def Kind.fallbackPort : Kind → String
  | .http => Net.defaultPort
  | .grpc => Net.defaultGrpcPort

/-- A server on a normalised address. -/
def on (kind : Kind) (address : String) : Server :=
  { kind := kind, name := kind.defaultName, address := address }

/-- A server under another name. -/
def withName (name : String) (s : Server) : Server :=
  { s with name := name }

/-- A server with another longest time for a graceful stop. -/
def withTimeout (ms : Nat) (s : Server) : Server :=
  { s with timeoutMs := ms }

/-- A server on the port spec of a configuration. -/
def onPort (kind : Kind) (spec : String) : Server :=
  on kind (Net.normalizePort spec kind.fallbackPort)

end Server

/-- The HTTP server of a configuration. -/
def HttpConfig.server (c : HttpConfig) : Server :=
  { Server.onPort .http c.port with requestTimeoutMs := some (c.requestTimeoutSecs * 1000) }

/-- The gRPC server of a configuration. -/
def GrpcConfig.server (c : GrpcConfig) : Server :=
  Server.onPort .grpc c.port

end Supervision
