import SymbolSearch.Ecosystem
import SymbolSearch.Files.Tree
import SymbolSearch.Session.State

/-!
# Errors of the cache of sessions

* `CacheError` is why no session was had for an ecosystem and a workspace.
* `CacheError.httpStatus` is the status of the answer that reports it.
-/

namespace SymbolSearch

/-- Why no session was had for an ecosystem and a workspace. -/
inductive CacheError where
  | unknownEcosystem (name : String)
  | unmanagedFile (path : Path)
  | workspaceUnreadable (path : Path) (reason : String)
  | session (ecosystem : Ecosystem) (error : SessionError)
  | reconnectFailed (ecosystem : Ecosystem) (attempts : Nat)
  deriving DecidableEq, Repr

namespace CacheError

/-- The message that reports the error. -/
def message : CacheError → String
  | .unknownEcosystem name => "unknown ecosystem " ++ Text.quoted name
  | .unmanagedFile path => "no configured language server handles " ++ path
  | .workspaceUnreadable path reason => "workspace " ++ path ++ " is unreadable: " ++ reason
  | .session ecosystem error => ecosystem.name ++ ": " ++ error.message
  | .reconnectFailed ecosystem attempts =>
    ecosystem.name ++ ": reconnect failed after " ++ toString attempts ++ " attempts"

/-- Whether the session stays down until an operator resets it. -/
def isPermanent : CacheError → Bool
  | .session _ (.restartBudgetExhausted _) => true
  | _ => false

/-- Whether the request or the configuration is at fault. -/
def isConfiguration : CacheError → Bool
  | .unknownEcosystem _ | .unmanagedFile _ | .workspaceUnreadable _ _ => true
  | .session _ error => error.isConfiguration
  | .reconnectFailed _ _ => false

/-- The status of the answer that reports the error. -/
def httpStatus : CacheError → Nat
  | .unknownEcosystem _ | .unmanagedFile _ => 400
  | .session _ (.commandNotFound _) => 500
  | .workspaceUnreadable _ _ => 500
  | .session _ _ | .reconnectFailed _ _ => 503

end CacheError
end SymbolSearch
