import SymbolSearch.Json.Decode
import SymbolSearch.Text.Quoted
import SymbolSearch.Time.Duration

/-!
# States and errors of a session

* `SessionState` is how far the connection to one language server has come.
* `SessionState.acceptsRequests` holds of the two states in which a server may be asked.
* `SessionError` is why an operation of a session failed; `SessionError.message` reports it.
* `SessionError.countsAsFailure` holds of the errors that degrade a session.
-/

namespace SymbolSearch

/-! ### States -/

/-- How far the connection to one language server has come. -/
inductive SessionState where
  | idle | spawning | handshaking | ready | degraded | crashed | closing | closed
  deriving DecidableEq, Repr, Inhabited

namespace SessionState

/-- Every state. -/
def all : List SessionState :=
  [.idle, .spawning, .handshaking, .ready, .degraded, .crashed, .closing, .closed]

/-- Whether requests may be sent in the state. -/
def acceptsRequests : SessionState → Bool
  | .ready | .degraded => true
  | _ => false

/-- Whether only a reset leads out of the state. -/
def isTerminal : SessionState → Bool
  | .closed => true
  | _ => false

/-- The name of the state. -/
def label : SessionState → String
  | .idle => "idle"
  | .spawning => "spawning"
  | .handshaking => "handshaking"
  | .ready => "ready"
  | .degraded => "degraded"
  | .crashed => "crashed"
  | .closing => "closing"
  | .closed => "closed"

/-- The state with the given name. -/
def ofLabel? (label : String) : Option SessionState := all.find? fun state => state.label == label

/-- Decodes a state from its name. -/
def fromJson? (json : Json) : Option SessionState := json.label?.bind ofLabel?

/-- Encodes a state as its name. -/
def toJson (state : SessionState) : Json := .string state.label

end SessionState

/-! ### Errors -/

/-- Why an operation of a session failed. -/
inductive SessionError where
  | transport (text : String)
  | handshakeTimeout (limit : Duration)
  | handshakeFailed (reason : String)
  | requestTimeout (method : String) (limit : Duration)
  | serverError (code : Int) (text : String)
  | processExit
  | notReady (state : SessionState)
  | restartBudgetExhausted (restarts : Nat)
  | commandNotFound (command : String)
  | spawnFailed (command : String) (reason : String)
  | invalidResult (method : String) (reason : String)
  | closed
  | unreadable (reason : String)
  deriving DecidableEq, Repr, Inhabited

namespace SessionError

/-- The message that reports the error. -/
def message : SessionError → String
  | .transport text => "transport failure: " ++ text
  | .handshakeTimeout limit => "handshake timed out after " ++ limit.text
  | .handshakeFailed reason => "handshake failed: " ++ reason
  | .requestTimeout method limit => method ++ " timed out after " ++ limit.text
  | .serverError code text => "server error " ++ toString code ++ ": " ++ text
  | .processExit => "language server process exited"
  | .notReady state => "session is " ++ state.label ++ ", not ready for requests"
  | .restartBudgetExhausted restarts =>
    "restart budget exhausted after " ++ toString restarts ++ " restarts"
  | .commandNotFound command => "launch command " ++ Text.quoted command ++ " not found in PATH"
  | .spawnFailed command reason => "failed to spawn " ++ Text.quoted command ++ ": " ++ reason
  | .invalidResult method reason => "unexpected result shape for " ++ method ++ ": " ++ reason
  | .closed => "session is closed"
  | .unreadable reason => reason

/-- Whether the error counts towards the threshold at which a session is degraded. -/
def countsAsFailure : SessionError → Bool
  | .requestTimeout _ _ | .serverError _ _ | .invalidResult _ _ => true
  | _ => false

/-- Whether the error is one that no restart can mend. -/
def isConfiguration : SessionError → Bool
  | .commandNotFound _ => true
  | _ => false

end SessionError

end SymbolSearch
