import Supervision.Duration

/-!
# The configuration of a service

Every setting has a default, so that an empty document is a complete configuration.
-/

namespace Supervision

/-- Settings of the HTTP server. -/
structure HttpConfig where
  /-- The server is part of the service. -/
  enabled : Bool := true
  /-- A port spec. -/
  port : String := ":8080"
  /-- The longest time for one request, in seconds. -/
  requestTimeoutSecs : Nat := 30
deriving DecidableEq, Repr, Inhabited

/-- Settings of the gRPC server. -/
structure GrpcConfig where
  /-- The server is part of the service. -/
  enabled : Bool := false
  /-- A port spec. -/
  port : String := ":50051"
  /-- The server describes itself to its clients. -/
  reflection : Bool := true
deriving DecidableEq, Repr, Inhabited

/-- Settings of the teardown. -/
structure ShutdownConfig where
  /-- The longest time for a graceful stop of one server, in milliseconds. -/
  timeoutMs : Nat := 5000
deriving DecidableEq, Repr, Inhabited

/-- The longest time for a graceful stop of one server. -/
def ShutdownConfig.timeout (c : ShutdownConfig) : Duration :=
  .ofMillis c.timeoutMs

/-- Settings of logs and metrics. -/
structure ObservabilityConfig where
  logLevel : String := "info"
  /-- The form of log lines: `pretty` or `json`. -/
  logFormat : String := "pretty"
  metricsEnabled : Bool := false
  metricsAddress : String := "127.0.0.1:9090"
deriving DecidableEq, Repr, Inhabited

/-- The configuration of a service. -/
structure Config where
  http : HttpConfig := {}
  grpc : GrpcConfig := {}
  shutdown : ShutdownConfig := {}
  observability : ObservabilityConfig := {}
deriving DecidableEq, Repr, Inhabited

end Supervision
