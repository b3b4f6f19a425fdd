import Supervision.Command.Service
import Supervision.Logging.Filter
import Supervision.Proofs.Loading
import Supervision.Proofs.Ports

/-!
# Loaded configurations are usable

Validation reads a setting in one way and its user reads it in another: the port of a server is
read from its spec and again when its address is resolved, and a level is one of five names and
later a filter. `usable_of_loaded` says that what was loaded serves all of its users. The rules that
hold of it come from `faults_eq_nil_iff`; that both readings of a port agree is `port_of_resolve`.
-/

namespace Supervision

namespace Net

/-- An address resolves to the port of its spec. -/
lemma port_of_resolve {lookup : Lookup} {spec fallback : String} {found : SocketAddress}
    (keeps : lookup.KeepsPort)
    (resolves : resolveBindAddress lookup (normalizePort spec fallback) = .ok found) :
    specPort? (normalizePort spec fallback) = some found.port := by
  have colon : ':' ∈ (normalizePort spec fallback).toList := colon_mem_normalizePort spec fallback
  generalize normalizePort spec fallback = address at colon resolves ⊢
  cases split : Text.splitLast? ':' address.toList with
  | none => exact absurd colon (Text.not_mem_of_splitLast? split)
  | some parts =>
    obtain ⟨before, digits⟩ := parts
    rw [specPort?_eq split]
    cases read : Text.readDecimal? portBound digits with
    | none => cases (resolveBindAddress_of_none split read).symm.trans resolves
    | some port =>
      rcases resolveBindAddress_of_some keeps split read with
        ⟨found', same, port_eq⟩ | ⟨host, reason, failed, -⟩
      · cases same.symm.trans resolves
        rw [port_eq]
      · cases failed.symm.trans resolves

end Net

namespace Config
open Net Logging

variable {c : Config}

/-- No rule is broken if and only if every rule is kept. -/
lemma faults_eq_nil_iff :
    faults c = [] ↔
      (httpPort? c).isSome ∧ (grpcPort? c).isSome ∧ sharedPort? c = none ∧
        c.http.requestTimeoutSecs ≠ 0 ∧ c.shutdown.timeoutMs ≠ 0 ∧
        c.observability.logLevel.toLower ∈ levelNames ∧
        c.observability.logFormat ∈ formatNames ∧
        (c.observability.metricsEnabled →
          (SocketAddress.ofString? c.observability.metricsAddress).isSome) := by
  simp [faults, faultIf, Option.isSome_iff_ne_none]

/-- Both servers, where both are enabled, ask for two ports, or one of them for none in
particular. -/
lemma ports_of_sharedPort? {http grpc : Nat} (shares : sharedPort? c = none)
    (httpEnabled : c.http.enabled) (grpcEnabled : c.grpc.enabled) (asks : httpPort? c = some http)
    (asks' : grpcPort? c = some grpc) : http ≠ grpc ∨ http = 0 ∧ grpc = 0 := by
  simp only [sharedPort?, httpEnabled, grpcEnabled, Bool.and_true, if_true, asks, asks'] at shares
  split at shares
  next => cases shares
  next differ =>
    simp only [ne_eq, Bool.and_eq_true, decide_eq_true_eq, not_and, not_not] at differ
    by_cases same : http = grpc
    · have zero : http = 0 := differ same
      exact .inr ⟨zero, same ▸ zero⟩
    · exact .inl same

/-- The filter of each level lets through as much as the level. -/
lemma verbosity_levelNames :
    ∀ name ∈ levelNames,
      (verbosity ("service_lifecycle=" ++ name ++ ",tower_http=" ++ name ++ "," ++ name)).name =
        name := by
  decide +kernel

/-- Where there is an address for the metrics, there is nothing to put on record. -/
lemma journal_metricsBound {w : World Empty Unit}
    (metrics : c.observability.metricsEnabled →
      (SocketAddress.ofString? c.observability.metricsAddress).isSome) :
    (Command.metricsBound c w).journal = w.journal := by
  rw [Command.metricsBound]
  split
  next enabled =>
    obtain ⟨address, read⟩ := Option.isSome_iff_exists.1 (metrics enabled)
    rw [read]
    dsimp only
    split
    · rfl
    · rfl
  next => rfl

/-- What the users of a configuration expect of it. -/
structure Usable (c : Config) : Prop where
  /-- The servers do not meet on a port: where both addresses resolve, it is to two ports, or each
  to none in particular. -/
  ports {lookup : Lookup} {http grpc : SocketAddress} :
    lookup.KeepsPort →
    c.http.enabled →
    c.grpc.enabled →
    resolveBindAddress lookup c.http.server.address = .ok http →
    resolveBindAddress lookup c.grpc.server.address = .ok grpc →
    http.port ≠ grpc.port ∨ http.port = 0 ∧ grpc.port = 0
  /-- There is an address for the metrics. -/
  metrics :
    c.observability.metricsEnabled →
    ∃ address, SocketAddress.ofString? c.observability.metricsAddress = some address
  /-- The program finds nothing wrong with that address. -/
  noComplaint (w : World Empty Unit) : (Command.metricsBound c w).journal = w.journal
  /-- A request has time. -/
  requestTime : ∃ ms, c.http.server.requestTimeoutMs = some ms ∧ ms ≠ 0
  /-- A stop has time. -/
  stopTime : c.shutdown.timeout ≠ ⟨0⟩
  /-- Without a filter in the environment, the log is as verbose as the level that is named, in any
  letter case. -/
  level : (effectiveLevel none c.observability).name = c.observability.logLevel.toLower

/-- A configuration without faults is usable. -/
lemma usable_of_faultless (none : faults c = []) : Usable c := by
  obtain ⟨-, -, shares, time, stopTime, level, -, metrics⟩ := faults_eq_nil_iff.1 none
  constructor
  case ports =>
    intro lookup http grpc keeps httpEnabled grpcEnabled resolves resolves'
    have asks : httpPort? c = some http.port := port_of_resolve keeps resolves
    have asks' : grpcPort? c = some grpc.port := port_of_resolve keeps resolves'
    exact ports_of_sharedPort? shares httpEnabled grpcEnabled asks asks'
  case metrics => exact fun enabled => Option.isSome_iff_exists.1 (metrics enabled)
  case noComplaint => exact fun w => journal_metricsBound metrics
  case requestTime => exact ⟨c.http.requestTimeoutSecs * 1000, rfl, by omega⟩
  case stopTime =>
    intro zero
    have nanos : c.shutdown.timeoutMs * 1000000 = 0 := congrArg Duration.nanos zero
    omega
  case level => exact verbosity_levelNames _ level

/-- What is loaded, from a file or under an environment, is usable. -/
theorem usable_of_loaded
    (loaded : (∃ content, load content = .ok c) ∨
      ∃ content? text? stem, loadWith content? text? stem = .ok c) :
    Usable c := by
  rcases loaded with ⟨content, loaded⟩ | ⟨content?, text?, stem, loaded⟩
  · exact usable_of_faultless (faults_of_load loaded)
  · exact usable_of_faultless (faults_of_loadWith loaded)

/-- Both servers, one on a host that is looked up, the metrics, and a level in mixed case that the
environment sets. -/
theorem usable_of_loaded_everything :
    let content : FileContent := .bytes ("http.port = \"127.1:8081\"\ngrpc.enabled = true\n" ++
      "observability.metrics_enabled = true").toUTF8
    let env : Environment :=
      [("SVC_LOG_LEVEL", "DeBug".toUTF8), ("SVC_GRPC_PORT", "9000".toUTF8)]
    ∃ c http grpc, loadWith (some content) env.text? "SVC" = .ok c ∧ Usable c ∧
      resolveBindAddress numericLookup c.http.server.address = .ok http ∧
      resolveBindAddress numericLookup c.grpc.server.address = .ok grpc ∧
      (http.port ≠ grpc.port ∨ http.port = 0 ∧ grpc.port = 0) := by
  intro content env
  let c : Config :=
    { http := { port := "127.1:8081" }
      grpc := { enabled := true, port := "9000" }
      observability := { logLevel := "DeBug", metricsEnabled := true } }
  have loaded : loadWith (some content) env.text? "SVC" = .ok c :=
    eq_ok_of_toOption (by decide +kernel)
  have usable : Usable c := usable_of_loaded (.inr ⟨_, _, _, loaded⟩)
  have http : resolveBindAddress numericLookup c.http.server.address =
      .ok (.v4 ⟨[127, 0, 0, 1]⟩ 8081) := eq_ok_of_toOption (by decide +kernel)
  have grpc : resolveBindAddress numericLookup c.grpc.server.address =
      .ok (.v4 ⟨[0, 0, 0, 0]⟩ 9000) := eq_ok_of_toOption (by decide +kernel)
  exact ⟨c, _, _, loaded, usable, http, grpc,
    usable.ports keepsPort_numericLookup rfl rfl http grpc⟩

end Config

end Supervision
