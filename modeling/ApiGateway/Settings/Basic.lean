import ApiGateway.Record.Fields
import ApiGateway.Retry
/-!
# Settings — the configuration of a gateway

Settings come in seven sections. Every section and every field of one
has a default, so settings may name only what differs from it. A section
is a record like any other; where `surplus` is allowed, a section given
by position may have more elements than fields.
-/

namespace ApiGateway

/-- The listener for calls. -/
structure ListenerSettings where
  bindAddress : String
  deriving DecidableEq, Repr

/-- The listener for snapshots, and the directory with one
subdirectory for each of them. -/
structure StoreSettings where
  bindAddress : String
  configRoot : String
  /-- Whether subdirectories are loaded as they appear. -/
  watch : Bool
  deriving DecidableEq, Repr

/-- How calls are handled. -/
structure HandlingSettings where
  /-- What policies are told under `test-app-enabled`. -/
  testAppEnabled : Bool
  /-- The most bytes that a body may have. -/
  maxBodySize : Nat
  /-- The scheme of the endpoint's address. -/
  scheme : String
  deriving DecidableEq, Repr

/-- Whether the limits of plans are enforced. -/
structure RateLimitSettings where
  enabled : Bool
  deriving DecidableEq, Repr

/-- How long a call may take. -/
structure TimeoutSettings where
  requestSeconds : Nat
  deriving DecidableEq, Repr

/-- Logs and metrics. -/
structure ObservabilitySettings where
  /-- A level, or a whole filter directive. -/
  logLevel : String
  metricsEnabled : Bool
  metricsAddress : String
  deriving DecidableEq, Repr

/-- The configuration of a gateway. -/
structure Settings where
  listener : ListenerSettings
  store : StoreSettings
  gateway : HandlingSettings
  /-- How long a call waits for a first snapshot. -/
  snapshotRetry : RetryPolicy
  rateLimit : RateLimitSettings
  timeouts : TimeoutSettings
  observability : ObservabilitySettings
  deriving DecidableEq, Repr

namespace Settings

/-- The settings that hold where nothing is named. -/
def default : Settings :=
  { listener := ⟨"0.0.0.0:8080"⟩
    store := ⟨"127.0.0.1:5000", "config", true⟩
    gateway := ⟨false, 4 * 1024 * 1024, "http"⟩
    snapshotRetry := ⟨5, 50, 1000⟩
    rateLimit := ⟨true⟩
    timeouts := ⟨30⟩
    observability := ⟨"info", false, "0.0.0.0:9090"⟩ }

/-- The fields of a section. -/
def sectionFields? (surplus : Bool) (names : List String) : Json → Option Fields
  | .array xs => Fields.of? names (.array (if surplus then xs.take names.length else xs))
  | j => Fields.of? names j

def listenerOf? (surplus : Bool) (j : Json) : Option ListenerSettings := do
  let f ← sectionFields? surplus ["bind_address"] j
  return {
    bindAddress := ← f.withDefault "bind_address" default.listener.bindAddress Json.asString? }

def storeOf? (surplus : Bool) (j : Json) : Option StoreSettings := do
  let f ← sectionFields? surplus ["bind_address", "config_root", "watch"] j
  return {
    bindAddress := ← f.withDefault "bind_address" default.store.bindAddress Json.asString?
    configRoot := ← f.withDefault "config_root" default.store.configRoot Json.asString?
    watch := ← f.withDefault "watch" default.store.watch Json.asBool? }

def gatewayOf? (surplus : Bool) (j : Json) : Option HandlingSettings := do
  let f ← sectionFields? surplus ["test_app_enabled", "max_body_size", "scheme"] j
  return {
    testAppEnabled := ← f.withDefault "test_app_enabled" default.gateway.testAppEnabled Json.asBool?
    maxBodySize :=
      ← f.withDefault "max_body_size" default.gateway.maxBodySize (Json.asNat? (Nat.pow 2 64))
    scheme := ← f.withDefault "scheme" default.gateway.scheme Json.asString? }

def retryOf? (surplus : Bool) (j : Json) : Option RetryPolicy := do
  let f ← sectionFields? surplus ["max_attempts", "base_delay_ms", "max_delay_ms"] j
  let retry := default.snapshotRetry
  return {
    maxAttempts := ← f.withDefault "max_attempts" retry.maxAttempts (Json.asNat? (Nat.pow 2 32))
    baseDelay := ← f.withDefault "base_delay_ms" retry.baseDelay (Json.asNat? (Nat.pow 2 64))
    maxDelay := ← f.withDefault "max_delay_ms" retry.maxDelay (Json.asNat? (Nat.pow 2 64)) }

def rateLimitOf? (surplus : Bool) (j : Json) : Option RateLimitSettings := do
  let f ← sectionFields? surplus ["enabled"] j
  return { enabled := ← f.withDefault "enabled" default.rateLimit.enabled Json.asBool? }

def timeoutsOf? (surplus : Bool) (j : Json) : Option TimeoutSettings := do
  let f ← sectionFields? surplus ["request_secs"] j
  return {
    requestSeconds :=
      ← f.withDefault "request_secs" default.timeouts.requestSeconds (Json.asNat? (Nat.pow 2 64)) }

def observabilityOf? (surplus : Bool) (j : Json) : Option ObservabilitySettings := do
  let f ← sectionFields? surplus ["log_level", "metrics_enabled", "metrics_address"] j
  let o := default.observability
  return {
    logLevel := ← f.withDefault "log_level" o.logLevel Json.asString?
    metricsEnabled := ← f.withDefault "metrics_enabled" o.metricsEnabled Json.asBool?
    metricsAddress := ← f.withDefault "metrics_address" o.metricsAddress Json.asString? }

/-- The names of the sections in their order. -/
def sectionNames : List String :=
  ["listener", "store", "gateway", "snapshot_retry", "rate_limit", "timeouts", "observability"]

/-- The settings that a value names, with defaults for the rest. -/
def ofJson? (surplus : Bool) (j : Json) : Option Settings := do
  let f ← sectionFields? surplus sectionNames j
  return {
    listener := ← f.withDefault "listener" default.listener (listenerOf? surplus)
    store := ← f.withDefault "store" default.store (storeOf? surplus)
    gateway := ← f.withDefault "gateway" default.gateway (gatewayOf? surplus)
    snapshotRetry := ← f.withDefault "snapshot_retry" default.snapshotRetry (retryOf? surplus)
    rateLimit := ← f.withDefault "rate_limit" default.rateLimit (rateLimitOf? surplus)
    timeouts := ← f.withDefault "timeouts" default.timeouts (timeoutsOf? surplus)
    observability :=
      ← f.withDefault "observability" default.observability (observabilityOf? surplus) }

def toJson (s : Settings) : Json :=
  .object [
    ("listener", .object [("bind_address", .string s.listener.bindAddress)]),
    ("store", .object [("bind_address", .string s.store.bindAddress),
      ("config_root", .string s.store.configRoot), ("watch", .bool s.store.watch)]),
    ("gateway", .object [("test_app_enabled", .bool s.gateway.testAppEnabled),
      ("max_body_size", .ofNat s.gateway.maxBodySize), ("scheme", .string s.gateway.scheme)]),
    ("snapshot_retry", .object [("max_attempts", .ofNat s.snapshotRetry.maxAttempts),
      ("base_delay_ms", .ofNat s.snapshotRetry.baseDelay),
      ("max_delay_ms", .ofNat s.snapshotRetry.maxDelay)]),
    ("rate_limit", .object [("enabled", .bool s.rateLimit.enabled)]),
    ("timeouts", .object [("request_secs", .ofNat s.timeouts.requestSeconds)]),
    ("observability", .object [("log_level", .string s.observability.logLevel),
      ("metrics_enabled", .bool s.observability.metricsEnabled),
      ("metrics_address", .string s.observability.metricsAddress)])]

end Settings

end ApiGateway
