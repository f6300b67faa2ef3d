import SymbolSearch.Lsp.Answer
import SymbolSearch.Session.Link
import SymbolSearch.Session.Pending
import SymbolSearch.Session.State
import SymbolSearch.Settings
import SymbolSearch.Sync.Broadcast
import SymbolSearch.Sync.Progress

/-!
# Sessions

A session keeps the connection to one language server over any number of launches.

* `Session` is what the operations of a session and the tasks of its links share.
* `Session.markCrashed` is the end of a connection that nobody asked for, and
  `Session.dropConnection` gives its link up.
* `Session.recordFailure` and `Session.recordSuccess` move the session between ready and degraded.
-/

namespace SymbolSearch

/-- The number of a link: how many were made before it. -/
abbrev LinkId := Nat

/-- How far a launch has come. -/
inductive LaunchPhase where
  | none
  | wanted
  | finished (result : Except SessionError ServerProcess)

/-- What the operations of a session and the tasks of its links share. -/
structure Session where
  settings : SessionSettings
  /-- What the client tells servers about itself, or why it cannot. -/
  hello : Except String ClientHello
  state : SessionState := .idle
  /-- The guard of everything that starts or ends a connection. -/
  turns : Turns := {}
  connection : Option LinkId := none
  /-- The link through which messages go. -/
  writer : Option LinkId := none
  pending : Pending := {}
  nextId : Nat := 1
  /-- Every link that was made, the first one first. -/
  links : List Link := []
  launch : LaunchPhase := .none
  /-- The number of failures in a row. -/
  failures : Nat := 0
  restarts : Nat := 0
  crashedAt : Option Instant := none
  /-- Whether any frame has come from a server. -/
  active : Bool := false
  capabilities : ServerCapabilities := {}
  /-- The notifications that someone listens for, by their methods. -/
  listeners : List (String × Broadcast Json) := []

namespace Session

/-! ### Links -/

/-- Changes a link. -/
def updateLink (session : Session) (id : LinkId) (change : Link → Link) : Session :=
  { session with links := session.links.modify id change }

/-- Changes the outbox of a link. -/
def updateOutbox (session : Session) (id : LinkId)
    (change : Outbox Outgoing → Outbox Outgoing) : Session :=
  session.updateLink id fun link => { link with outbox := change link.outbox }

/-- Ends the sender that the session itself has. -/
def releaseWriter (session : Session) : Session :=
  match session.writer with
  | some id => { session.updateOutbox id Outbox.release with writer := none }
  | none => session

/-- Gives up the link of the connection. -/
def dropConnection (session : Session) : Session :=
  match session.connection with
  | some id => { session.updateLink id Link.drop with connection := none }
  | none => session

/-- Adds the link to a server that was launched, as the connection of the session. -/
def addLink (session : Session) (process : ServerProcess) : Session :=
  { session with
    links := session.links ++ [{ process }]
    connection := some session.links.length
    writer := some session.links.length }

/-- What became of the process of a link. -/
def processOf (session : Session) (id : LinkId) : ServerProcess :=
  ((session.links[id]?).map (·.process)).getD .absent

/-! ### States -/

/-- The end of a connection that nobody asked for: all requests in flight fail. -/
def markCrashed (session : Session) (now : Instant) : Session :=
  { session.releaseWriter with
    crashedAt := some now
    pending := session.pending.failAll
    state := .crashed }

/-- Counts a failure. -/
def recordFailure (session : Session) : Session :=
  let failures := session.failures + 1
  { session with
    failures
    state :=
      if session.settings.degradedAfter ≤ failures && session.state = .ready then .degraded
      else session.state }

/-- Counts a success, which ends a row of failures. -/
def recordSuccess (session : Session) : Session :=
  { session with
    failures := 0
    state := if session.state = .degraded then .ready else session.state }

/-- What the server of a link says has ended. This counts only for the latest link, and only while
    the session has not given it up. -/
def transportClosed (session : Session) (id : LinkId) (now : Instant) : Session :=
  if id + 1 = session.links.length then
    match session.state with
    | .spawning | .handshaking | .ready | .degraded => session.markCrashed now
    | _ => session
  else session

/-! ### Listening -/

/-- Listens for notifications with a method, from now on. -/
def subscribe (session : Session) (method : String) : Session × Nat :=
  match session.listeners.lookup method with
  | some broadcast =>
    let (broadcast, place) := broadcast.subscribe
    ({ session with
        listeners := session.listeners.map fun (other, old) =>
          if other = method then (other, broadcast) else (other, old) }, place)
  | none =>
    let (broadcast, place) := ({} : Broadcast Json).subscribe
    ({ session with listeners := session.listeners ++ [(method, broadcast)] }, place)

/-- Changes the broadcast of a method, if there is one. -/
def updateListener (session : Session) (method : String)
    (change : Broadcast Json → Broadcast Json) : Session :=
  { session with
    listeners := session.listeners.map fun (other, old) =>
      if other = method then (other, change old) else (other, old) }

/-- What a listener at a place gets next. -/
def receive (session : Session) (method : String) (place : Nat) :
    Option (Reception Json × Nat) :=
  (session.listeners.lookup method).bind (·.receive place)

end Session
end SymbolSearch
