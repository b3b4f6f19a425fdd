import Supervision.Config.Schema
import Supervision.Text.Quoted
import Supervision.Toml.Value

/-!
# From a document to a configuration

A `Shape` lists the fields of a section in order. `Shape.decode` reads a section from a table, field
by field in the order of the document, or from an array, field by field in the order of the shape.
Keys that are not known are passed over; the first value of a wrong type ends the reading.
-/

namespace Supervision.Config
open Toml

/-- What a place of the configuration takes. -/
inductive Wanted where
  | string
  | boolean
  /-- A whole number that is not negative. -/
  | unsigned
  /-- A section, by the name of its shape. -/
  | part (name : String)
deriving DecidableEq, Repr

/-- The wording of what was wanted. -/
def Wanted.text : Wanted → String
  | .string => "a string"
  | .boolean => "a boolean"
  | .unsigned => "u64"
  | .part name => "struct " ++ name

/-- The wording of what was found: the value of a scalar, the kind of anything else. -/
def foundText : Value → String
  | .string s => "string " ++ Text.quoted s
  | .integer n => "integer `" ++ toString n ++ "`"
  | .float f => "floating point `" ++ f.text ++ "`"
  | .boolean b => "boolean `" ++ toString b ++ "`"
  | .moment => "map"
  | .array _ => "sequence"
  | .table _ => "map"

/-- Why a document does not fit the configuration. -/
inductive Mismatch where
  /-- A value of another type. -/
  | wrongType (found : Value) (wanted : Wanted)
  /-- A negative number where none can be. -/
  | negative (n : Int)

/-- The text of a mismatch. -/
def Mismatch.message : Mismatch → String
  | .wrongType found wanted =>
    "invalid type: " ++ foundText found ++ ", expected " ++ wanted.text
  | .negative n =>
    "invalid value: " ++ foundText (.integer n) ++ ", expected " ++ Wanted.unsigned.text

/-- A text. -/
def asString : Value → Except Mismatch String
  | .string s => .ok s
  | v => .error (.wrongType v .string)

/-- A truth value. -/
def asBoolean : Value → Except Mismatch Bool
  | .boolean b => .ok b
  | v => .error (.wrongType v .boolean)

/-- A whole number that is not negative. -/
def asUnsigned : Value → Except Mismatch Nat
  | .integer n => if n < 0 then .error (.negative n) else .ok n.toNat
  | v => .error (.wrongType v .unsigned)

/-- A field of a section: its key, and how a value sets it. -/
structure Field (σ : Type) where
  key : String
  set : Value → σ → Except Mismatch σ

/-- A field that holds what `read` makes of a value. -/
def Field.of {σ α : Type} (key : String) (read : Value → Except Mismatch α) (put : α → σ → σ) :
    Field σ :=
  ⟨key, fun v s => (read v).map fun a => put a s⟩

/-- The fields of a section in order. -/
structure Shape (σ : Type) where
  name : String
  fields : List (Field σ)
  initial : σ

namespace Shape

variable {σ : Type}

/-- The effect of one entry of a table. -/
def entry (shape : Shape σ) (s : σ) (key : String) (v : Value) : Except Mismatch σ :=
  match shape.fields.find? (fun f => f.key = key) with
  | some field => field.set v s
  | none => .ok s

/-- A section from the entries of a table. -/
def ofEntries (shape : Shape σ) (entries : List (String × Value)) : Except Mismatch σ :=
  entries.foldlM (fun s e => shape.entry s e.1 e.2) shape.initial

/-- A section from the elements of an array. -/
def ofElements (shape : Shape σ) (elements : List Value) : Except Mismatch σ :=
  (shape.fields.zip elements).foldlM (fun s e => e.1.set e.2 s) shape.initial

/-- A section from a value. A date or a time counts as a table without known keys. -/
def decode (shape : Shape σ) : Value → Except Mismatch σ
  | .table entries => shape.ofEntries entries
  | .array elements => shape.ofElements elements
  | .moment => .ok shape.initial
  | v => .error (.wrongType v (.part shape.name))

end Shape

/-- The section of the HTTP server. -/
def httpShape : Shape HttpConfig where
  name := "HttpConfig"
  fields := [
    .of "enabled" asBoolean fun b c => { c with enabled := b },
    .of "port" asString fun s c => { c with port := s },
    .of "request_timeout_secs" asUnsigned fun n c => { c with requestTimeoutSecs := n }]
  initial := {}

/-- The section of the gRPC server. -/
def grpcShape : Shape GrpcConfig where
  name := "GrpcConfig"
  fields := [
    .of "enabled" asBoolean fun b c => { c with enabled := b },
    .of "port" asString fun s c => { c with port := s },
    .of "reflection" asBoolean fun b c => { c with reflection := b }]
  initial := {}

/-- The section of the teardown. -/
def shutdownShape : Shape ShutdownConfig where
  name := "ShutdownConfig"
  fields := [.of "timeout_ms" asUnsigned fun n c => { c with timeoutMs := n }]
  initial := {}

/-- The section of logs and metrics. -/
def observabilityShape : Shape ObservabilityConfig where
  name := "ObservabilityConfig"
  fields := [
    .of "log_level" asString fun s c => { c with logLevel := s },
    .of "log_format" asString fun s c => { c with logFormat := s },
    .of "metrics_enabled" asBoolean fun b c => { c with metricsEnabled := b },
    .of "metrics_address" asString fun s c => { c with metricsAddress := s }]
  initial := {}

/-- The sections of a configuration. -/
def shape : Shape Config where
  name := "ServiceConfig"
  fields := [
    .of "http" httpShape.decode fun s c => { c with http := s },
    .of "grpc" grpcShape.decode fun s c => { c with grpc := s },
    .of "shutdown" shutdownShape.decode fun s c => { c with shutdown := s },
    .of "observability" observabilityShape.decode fun s c => { c with observability := s }]
  initial := {}

/-- The configuration of a document. -/
def ofDocument (entries : List (String × Value)) : Except Mismatch Config :=
  shape.ofEntries entries

end Supervision.Config
