import SymbolSearch.Api.Payload
import SymbolSearch.Cache.Basic

/-!
# The proxy

The proxy answers questions about one workspace over HTTP.

* `Proxy` is what the requests to a proxy and its own tasks share.
* `Proxy.status` is the report on every configured ecosystem.
-/

namespace SymbolSearch

/-- What the requests to a proxy and its own tasks share. -/
structure Proxy where
  /-- The root of the workspace, without links and dots. -/
  workspace : Path
  cache : Cache
  healthInterval : Duration := .ofSecs 30
  /-- The latest health record of each ecosystem. -/
  health : List (Ecosystem × Api.HealthRecord) := []
  /-- Whether someone has asked the proxy to stop, and it has not noticed yet. -/
  stopAsked : Bool := false

namespace Proxy

/-- The proxy with its cache after a step, and what the step came to. -/
def withCache {π ρ : Type} (proxy : Proxy) (stepped : Stepped Cache π ρ) :
    Stepped Proxy π ρ :=
  ({ proxy with cache := stepped.1 }, stepped.2)

/-- Puts a health record in the place of an older one. -/
def recordHealth (proxy : Proxy) (ecosystem : Ecosystem) (health : Api.HealthRecord) : Proxy :=
  { proxy with
    health := (ecosystem, health) :: proxy.health.filter fun entry => entry.1 ≠ ecosystem }

/-- The latest health record of an ecosystem. -/
def lastHealth (proxy : Proxy) (ecosystem : Ecosystem) : Option Api.HealthRecord :=
  (proxy.health.find? fun entry => entry.1 = ecosystem).map (·.2)

/-- The sessions for the workspace of the proxy. -/
def ownStatuses (proxy : Proxy) : List SessionStatus :=
  proxy.cache.statuses.filter fun status => status.key.root.same proxy.workspace

/-- The status of one ecosystem: that of its session, or idle without one. -/
def statusOf (proxy : Proxy) (ecosystem : Ecosystem) : Api.EcosystemStatus :=
  let last := proxy.lastHealth ecosystem
  match proxy.ownStatuses.find? fun status => status.key.ecosystem = ecosystem with
  | some status =>
    ⟨status.state, UInt32.ofNat status.restarts, UInt32.ofNat status.failures, last⟩
  | none => ⟨.idle, 0, 0, last⟩

/-- The report on every configured ecosystem; those are available that take requests. -/
def status (proxy : Proxy) : Api.StatusReport :=
  let all := proxy.cache.servers.ecosystems.map fun ecosystem =>
    (ecosystem, proxy.statusOf ecosystem)
  ⟨(all.filter fun (_, status) => status.state.acceptsRequests).map (·.1), all⟩

end Proxy
end SymbolSearch
