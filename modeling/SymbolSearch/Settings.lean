import SymbolSearch.Time.Duration

/-!
# Settings

* `ScanLimits` bounds how many files a text scan looks at, and how large they may be.
* `SessionSettings` bounds how long the operations of a session may take, and how often its server
  may be started again.
* `AdapterSettings` says how long to wait for a server that has just read a document, how long its
  answers stay good, and how far the text scan goes.
* `CacheSettings` says how often a start is tried for one request, and how far apart.
* `MonitorSettings` says how often the proxy may be restarted and how it is watched.
* `ProxySettings` says where the proxy listens and how often it looks after its sessions.
-/

namespace SymbolSearch

/-- How many files a scan looks at, and how large they may be. -/
structure ScanLimits where
  files : Nat := 2000
  fileBytes : Nat := 1048576
  deriving DecidableEq, Repr

/-- How long the operations of a session may take, and how often its server may be restarted. -/
structure SessionSettings where
  handshakeTimeout : Duration := .ofSecs 10
  requestTimeout : Duration := .ofSecs 10
  shutdownTimeout : Duration := .ofSecs 2
  /-- The number of failures in a row that degrade the session. -/
  degradedAfter : Nat := 3
  maxRestarts : Nat := 3
  /-- The shortest time from a crash to the next start. -/
  restartCooldown : Duration := .ofSecs 5
  deriving DecidableEq, Repr

/-- How the answers for an ecosystem are made. -/
structure AdapterSettings where
  /-- The wait after a document was opened, before the server is asked about it. -/
  settleDelay : Duration := .ofMillis 300
  /-- How long an answer may be given again. -/
  cacheTtl : Duration := .ofSecs 30
  scan : ScanLimits := {}
  deriving DecidableEq, Repr

/-- How often a session is started for one request, and how long after each failure. -/
structure CacheSettings where
  reconnectAttempts : Nat := 3
  reconnectDelay : Duration := .ofSecs 1
  deriving DecidableEq, Repr

/-- How often the proxy may be restarted, and how it is watched. -/
structure MonitorSettings where
  restartBudget : Nat := 3
  restartCooldown : Duration := .ofSecs 5
  probeInterval : Duration := .ofSecs 30
  /-- How long the answer that the proxy is ready may be relied on. -/
  readinessTtl : Duration := .ofSecs 5
  /-- How long a proxy may take until it answers for the first time. -/
  startupTimeout : Duration := .ofSecs 10
  deriving DecidableEq, Repr

/-- Where the proxy listens, and how often it looks after its sessions. -/
structure ProxySettings where
  port : Nat := 7411
  healthInterval : Duration := .ofSecs 30
  deriving DecidableEq, Repr

end SymbolSearch
