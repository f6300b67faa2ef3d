import SymbolSearch.Settings
import SymbolSearch.Toml.Basic

/-!
# Sections of the configuration

* `ConfigSections` is what a document of the configuration sets, with the usual values for what it
  leaves out.
* `ServerSection` is what it sets for one server; every field may be missing.
* `ConfigSections.ofFields?` reads them. A section may also be an array of its fields in order.
-/

namespace SymbolSearch

/-- What a document sets for one server. -/
structure ServerSection where
  enabled : Option Bool := none
  command : Option String := none
  args : Option (List String) := none
  languageId : Option String := none
  fileExtensions : Option (List String) := none
  readinessNotification : Option String := none
  deriving DecidableEq, Repr

/-- What a document of the configuration sets. -/
structure ConfigSections where
  proxy : ProxySettings := {}
  monitor : MonitorSettings := {}
  session : SessionSettings := {}
  adapter : AdapterSettings := {}
  cache : CacheSettings := {}
  /-- The sections of servers by the names in the document, in the order of the names. -/
  servers : List (String × ServerSection) := []

namespace ConfigSections

/-- How strictly a document is read. -/
inductive Strictness where
  /-- A document by itself: what an array has beyond the fields of a section is not looked at, and
      a moment counts as a section that sets nothing. -/
  | lenient
  /-- A layer: an array may not have more items than the section has fields. -/
  | strict
  deriving DecidableEq, Repr

/-- The fields of a section with the given field names. -/
def fieldsOf? (strictness : Strictness) (names : List String) : Toml → Option Toml.Fields
  | .table fields => some fields
  | .array items =>
    if strictness = .strict && names.length < items.length then none else some (names.zip items)
  | .moment _ => if strictness = .strict then none else some []
  | _ => none

/-- Reads a value, or takes the usual one if it is missing. -/
def valueOr {α : Type} (read : Toml → Option α) (usual : α) (fields : Toml.Fields)
    (key : String) : Option α :=
  match Toml.field? fields key with
  | none => some usual
  | some value => read value

/-- A natural number below a bound. -/
def below? (bound : Nat) : Toml → Option Nat
  | .integer value => if 0 ≤ value ∧ value < (bound : Int) then some value.toNat else none
  | _ => none

/-- A natural number of 32 bits. -/
def count? : Toml → Option Nat := below? UInt32.size

/-- A natural number of 64 bits. -/
def size? : Toml → Option Nat := below? UInt64.size

/-- A number of milliseconds. -/
def millis? (value : Toml) : Option Duration := (size? value).map .ofMillis

/-- A number of seconds. -/
def secs? (value : Toml) : Option Duration := (size? value).map .ofSecs

/-- A text. -/
def text? : Toml → Option String
  | .string text => some text
  | _ => none

/-- A list of texts. -/
def texts? : Toml → Option (List String)
  | .array items => items.mapM text?
  | _ => none

/-- A truth value. -/
def truth? : Toml → Option Bool
  | .boolean value => some value
  | _ => none

/-- Reads the section of the proxy. -/
def proxy? (fields : Toml.Fields) : Option ProxySettings := do
  let usual : ProxySettings := {}
  let port ← valueOr (below? UInt16.size) usual.port fields "port"
  let healthInterval ← valueOr secs? usual.healthInterval fields "health_interval_secs"
  return { port, healthInterval }

/-- Reads the section of the monitor. -/
def monitor? (fields : Toml.Fields) : Option MonitorSettings := do
  let usual : MonitorSettings := {}
  let restartBudget ← valueOr count? usual.restartBudget fields "restart_budget"
  let restartCooldown ← valueOr millis? usual.restartCooldown fields "restart_cooldown_ms"
  let probeInterval ← valueOr secs? usual.probeInterval fields "probe_interval_secs"
  let readinessTtl ← valueOr millis? usual.readinessTtl fields "readiness_ttl_ms"
  let startupTimeout ← valueOr millis? usual.startupTimeout fields "startup_timeout_ms"
  return { restartBudget, restartCooldown, probeInterval, readinessTtl, startupTimeout }

/-- Reads the section of sessions. -/
def session? (fields : Toml.Fields) : Option SessionSettings := do
  let usual : SessionSettings := {}
  let handshakeTimeout ← valueOr millis? usual.handshakeTimeout fields "handshake_timeout_ms"
  let requestTimeout ← valueOr millis? usual.requestTimeout fields "request_timeout_ms"
  let shutdownTimeout ← valueOr millis? usual.shutdownTimeout fields "shutdown_timeout_ms"
  let degradedAfter ← valueOr count? usual.degradedAfter fields "degraded_after"
  let maxRestarts ← valueOr count? usual.maxRestarts fields "max_restarts"
  let restartCooldown ← valueOr millis? usual.restartCooldown fields "restart_cooldown_ms"
  return { handshakeTimeout, requestTimeout, shutdownTimeout, degradedAfter, maxRestarts,
           restartCooldown }

/-- Reads the section of the answers for an ecosystem. -/
def adapter? (fields : Toml.Fields) : Option AdapterSettings := do
  let usual : AdapterSettings := {}
  let settleDelay ← valueOr millis? usual.settleDelay fields "settle_delay_ms"
  let cacheTtl ← valueOr secs? usual.cacheTtl fields "cache_ttl_secs"
  let files ← valueOr size? usual.scan.files fields "fallback_max_files"
  let fileBytes ← valueOr size? usual.scan.fileBytes fields "fallback_max_file_bytes"
  return { settleDelay, cacheTtl, scan := { files, fileBytes } }

/-- Reads the section of the cache of sessions. -/
def cache? (fields : Toml.Fields) : Option CacheSettings := do
  let usual : CacheSettings := {}
  let reconnectAttempts ← valueOr count? usual.reconnectAttempts fields "reconnect_attempts"
  let reconnectDelay ← valueOr millis? usual.reconnectDelay fields "reconnect_delay_ms"
  return { reconnectAttempts, reconnectDelay }

/-- Reads the section of one server. -/
def server? (fields : Toml.Fields) : Option ServerSection := do
  let enabled ← valueOr (fun value => (truth? value).map some) none fields "enabled"
  let command ← valueOr (fun value => (text? value).map some) none fields "command"
  let args ← valueOr (fun value => (texts? value).map some) none fields "args"
  let languageId ← valueOr (fun value => (text? value).map some) none fields "language_id"
  let fileExtensions ← valueOr (fun value => (texts? value).map some) none fields
    "file_extensions"
  let readinessNotification ← valueOr (fun value => (text? value).map some) none fields
    "readiness_notification"
  return { enabled, command, args, languageId, fileExtensions, readinessNotification }

/-- The names of the fields of each section, in order. -/
def proxyFields : List String := ["port", "health_interval_secs"]

@[inherit_doc proxyFields]
def monitorFields : List String :=
  ["restart_budget", "restart_cooldown_ms", "probe_interval_secs", "readiness_ttl_ms",
    "startup_timeout_ms"]

@[inherit_doc proxyFields]
def sessionFields : List String :=
  ["handshake_timeout_ms", "request_timeout_ms", "shutdown_timeout_ms", "degraded_after",
    "max_restarts", "restart_cooldown_ms"]

@[inherit_doc proxyFields]
def adapterFields : List String :=
  ["settle_delay_ms", "cache_ttl_secs", "fallback_max_files", "fallback_max_file_bytes"]

@[inherit_doc proxyFields]
def cacheFields : List String := ["reconnect_attempts", "reconnect_delay_ms"]

@[inherit_doc proxyFields]
def serverFields : List String :=
  ["enabled", "command", "args", "language_id", "file_extensions", "readiness_notification"]

/-- Reads a section of a document, or takes the usual one if it is missing. -/
def section? {α : Type} (strictness : Strictness) (names : List String)
    (read : Toml.Fields → Option α) (usual : α) (document : Toml.Fields) (key : String) :
    Option α :=
  valueOr (fun value => (fieldsOf? strictness names value).bind read) usual document key

/-- Reads the sections of all servers. -/
def servers? (strictness : Strictness) : Toml → Option (List (String × ServerSection))
  | .table fields => fields.mapM fun (name, value) => do
    return (name, ← (fieldsOf? strictness serverFields value).bind server?)
  | _ => none

/-- Reads a document of the configuration. Keys that mean nothing are not looked at. -/
def ofFields? (strictness : Strictness) (document : Toml.Fields) : Option ConfigSections := do
  let proxy ← section? strictness proxyFields proxy? {} document "proxy"
  let monitor ← section? strictness monitorFields monitor? {} document "monitor"
  let session ← section? strictness sessionFields session? {} document "session"
  let adapter ← section? strictness adapterFields adapter? {} document "adapter"
  let cache ← section? strictness cacheFields cache? {} document "cache"
  let servers ← valueOr (servers? strictness) [] document "servers"
  return { proxy, monitor, session, adapter, cache, servers }

end ConfigSections
end SymbolSearch
