import Supervision.Config.Schema
import Supervision.Net.Resolve
import Supervision.Text.Quoted

/-!
# Validation

The rules that a configuration keeps besides the types of its settings. `faults` lists every rule
that is broken, in the order of `Rule`; the text of a fault quotes what it is about.
-/

namespace Supervision.Config
open Net

/-- A broken rule of a configuration. -/
inductive Fault where
  /-- The port of the HTTP server is no port spec. -/
  | httpPort (spec : String)
  /-- The port of the gRPC server is no port spec. -/
  | grpcPort (spec : String)
  /-- Both servers ask for one port. -/
  | sharedPort (port : Nat)
  /-- A request has no time. -/
  | noRequestTime
  /-- A stop has no time. -/
  | noStopTime
  /-- The level is none of the five. -/
  | logLevel (level : String)
  /-- The form of log lines is none of the two. -/
  | logFormat (form : String)
  /-- The address of the metrics is no socket address. -/
  | metricsAddress (address : String)
deriving DecidableEq, Repr

namespace Fault

/-- The setting that a fault is about. -/
def field : Fault → String
  | .httpPort _ => "http.port"
  | .grpcPort _ => "grpc.port"
  | .sharedPort _ => "grpc.port"
  | .noRequestTime => "http.request_timeout_secs"
  | .noStopTime => "shutdown.timeout_ms"
  | .logLevel _ => "observability.log_level"
  | .logFormat _ => "observability.log_format"
  | .metricsAddress _ => "observability.metrics_address"

/-- What is wrong with the setting. -/
def message : Fault → String
  | .httpPort spec => "invalid port " ++ Text.quoted spec
  | .grpcPort spec => "invalid port " ++ Text.quoted spec
  | .sharedPort port => "port " ++ toString port ++ " is already used by http"
  | .noRequestTime => "must be greater than 0"
  | .noStopTime => "must be greater than 0"
  | .logLevel level => "unknown level " ++ Text.quoted level
  | .logFormat form => "expected \"pretty\" or \"json\", got " ++ Text.quoted form
  | .metricsAddress address => "not a socket address: " ++ Text.quoted address

/-- The setting and what is wrong with it. -/
def text (fault : Fault) : String :=
  fault.field ++ ": " ++ fault.message

end Fault

/-- The names of the log levels, from the most to the least verbose. -/
def levelNames : List String := ["trace", "debug", "info", "warn", "error"]

/-- The forms of log lines. -/
def formatNames : List String := ["pretty", "json"]

/-- The port that the HTTP server asks for. -/
def httpPort? (c : Config) : Option Nat :=
  specPort? (normalizePort c.http.port defaultPort)

/-- The port that the gRPC server asks for. -/
def grpcPort? (c : Config) : Option Nat :=
  specPort? (normalizePort c.grpc.port defaultGrpcPort)

/-- The port that both servers ask for, where they do. Zero is no particular port. -/
def sharedPort? (c : Config) : Option Nat :=
  if c.http.enabled && c.grpc.enabled then
    match httpPort? c, grpcPort? c with
    | some http, some grpc => if http = grpc && http ≠ 0 then some grpc else none
    | _, _ => none
  else none

/-- A fault, if its rule is broken. -/
def faultIf (broken : Bool) (fault : Fault) : List Fault :=
  if broken then [fault] else []

/-- Every broken rule. -/
def faults (c : Config) : List Fault :=
  faultIf (httpPort? c).isNone (.httpPort c.http.port) ++
  faultIf (grpcPort? c).isNone (.grpcPort c.grpc.port) ++
  ((sharedPort? c).map Fault.sharedPort).toList ++
  faultIf (c.http.requestTimeoutSecs = 0) .noRequestTime ++
  faultIf (c.shutdown.timeoutMs = 0) .noStopTime ++
  faultIf (!levelNames.contains c.observability.logLevel.toLower)
    (.logLevel c.observability.logLevel) ++
  faultIf (!formatNames.contains c.observability.logFormat)
    (.logFormat c.observability.logFormat) ++
  faultIf
    (c.observability.metricsEnabled &&
      (SocketAddress.ofString? c.observability.metricsAddress).isNone)
    (.metricsAddress c.observability.metricsAddress)

end Supervision.Config
