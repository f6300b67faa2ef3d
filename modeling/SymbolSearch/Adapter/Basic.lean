import SymbolSearch.Scan.Scanner
import SymbolSearch.Server
import SymbolSearch.Session.Basic
import SymbolSearch.Settings
import SymbolSearch.Time.Memo

/-!
# Adapters

An adapter answers questions about one workspace in one ecosystem, from its session or, failing
that, from a text scan.

* `Adapter` is what the questions of one adapter share.
* `Inquiry` is a question as it is asked, and `Sourced` an answer with where it came from.
* `Query.memoKey` is what the answer to a question is kept under.
* `Adapter.lockDocument` and `Adapter.unlockDocument` are the two ends of what is done with a
  document while it is open at the server: one question has a document at a time. Guards are made
  when they are asked for, and forgotten when nobody else has them.
-/

namespace SymbolSearch

/-- What an answer is kept under: the URI of a document, if the question is about one, and what else
    tells the question from others. Symbols and references are kept apart. -/
inductive MemoKey where
  | symbols (uri detail : String)
  | references (uri detail : String)
  deriving DecidableEq, Repr

/-- What the answer to a question is kept under. -/
def Query.memoKey : Query → MemoKey
  | .documentSymbols uri => .symbols uri ""
  | .references uri position includeDeclaration =>
    .references uri (toString position.line ++ ":" ++ toString position.character ++ ":" ++
      toString includeDeclaration)
  | .workspaceSymbols text => .symbols "" text

/-- The number of the guard of a document: how many were made before it. -/
abbrev GuardId := Nat

/-- The guard of a document. -/
structure DocumentGuard where
  turns : Turns := {}
  /-- The number of questions that have the guard or wait for it. -/
  holders : Nat := 0

/-- What the questions of one adapter share. -/
structure Adapter where
  ecosystem : Ecosystem
  session : Session
  scanner : Scanner
  /-- How the server is launched. -/
  server : ServerConfig
  settings : AdapterSettings
  /-- The answers of the server that may be given again. -/
  memo : Memo MemoKey Answer
  /-- Every guard of a document that was made, the first one first. -/
  guards : List DocumentGuard := []
  /-- The guards that can be found, by the URIs of their documents. -/
  openDocuments : List (String × GuardId) := []

/-- A question about a workspace. -/
inductive Inquiry where
  | document (path : Path)
  | references (path : Path) (position : Position) (includeDeclaration : Bool)
  | workspace (text : String)
  deriving DecidableEq, Repr

/-- An answer with where it came from. -/
structure Sourced where
  answer : Answer
  source : ResultSource

namespace Inquiry

/-- The document that a question is about. -/
def path? : Inquiry → Option Path
  | .document path => some path
  | .references path _ _ => some path
  | .workspace _ => none

/-- The question that is put to a server; there is none about a path without a URI. -/
def query? : Inquiry → Except SessionError Query
  | .document path =>
    match fileUri? path with
    | some uri => .ok (.documentSymbols uri)
    | none => .error (.transport (noFileUriMessage path))
  | .references path position includeDeclaration =>
    match fileUri? path with
    | some uri => .ok (.references uri position includeDeclaration)
    | none => .error (.transport (noFileUriMessage path))
  | .workspace text => .ok (.workspaceSymbols text)

/-- What a text scan answers. -/
def scan (inquiry : Inquiry) (scanner : Scanner) (tree : Tree) : Answer :=
  match inquiry with
  | .document path => .symbols (scanner.document tree path)
  | .references path position includeDeclaration =>
    .locations (scanner.references tree path position includeDeclaration)
  | .workspace text => .symbols (scanner.workspace tree text)

end Inquiry

namespace Adapter

/-- What a client tells servers about the workspace at a root. -/
def helloFor (root : Path) : Except String ClientHello :=
  match fileUri? root with
  | some uri => .ok ⟨uri, (root.fileName?).getD root⟩
  | none => .error (noFileUriMessage root)

/-- The adapter of a workspace in an ecosystem, before its server was launched. -/
def ofServer (ecosystem : Ecosystem) (root : Path) (server : ServerConfig)
    (session : SessionSettings) (settings : AdapterSettings) : Adapter where
  ecosystem := ecosystem
  session := { settings := session, hello := helloFor root }
  scanner := .ofServer root server.languageId server.fileExtensions settings.scan
  server := server
  settings := settings
  memo := { lifetime := settings.cacheTtl }

/-- The notification by which the server says that it has read a document. -/
def readiness (adapter : Adapter) : Option String := adapter.server.readinessNotification

/-- Forgets the answers that may be given again. -/
def invalidate (adapter : Adapter) : Adapter := { adapter with memo := adapter.memo.clear }

/-- The adapter with its session after a step, and what the step came to. -/
def withSession {π ρ : Type} (adapter : Adapter) (stepped : Stepped Session π ρ) :
    Stepped Adapter π ρ :=
  ({ adapter with session := stepped.1 }, stepped.2)

/-- Whether the server provides what a question needs. -/
def provides (adapter : Adapter) : Query → Bool
  | .documentSymbols _ => adapter.session.capabilities.documentSymbols
  | .references _ _ _ => adapter.session.capabilities.references
  | .workspaceSymbols _ => adapter.session.capabilities.workspaceSymbols

/-- Why a question cannot be put to the server, if it cannot. -/
def refusal? (adapter : Adapter) (query : Query) : Option SessionError :=
  if !adapter.session.state.acceptsRequests then some (.notReady adapter.session.state)
  else if !adapter.provides query then
    some (.serverError ResponseError.methodNotFoundCode
      ("server does not provide " ++ query.method))
  else none

/-! ### Documents -/

/-- The guard with a number. -/
def guardAt (adapter : Adapter) (id : GuardId) : DocumentGuard := (adapter.guards[id]?).getD {}

/-- Changes a guard. -/
def updateGuard (adapter : Adapter) (id : GuardId) (change : DocumentGuard → DocumentGuard) :
    Adapter :=
  { adapter with guards := adapter.guards.modify id change }

/-- The guard of a document, which is made if there is none; from now on one more question has
    it. -/
def findGuard (adapter : Adapter) (uri : String) : GuardId × Adapter :=
  match adapter.openDocuments.lookup uri with
  | some id =>
    (id, adapter.updateGuard id fun guard => { guard with holders := guard.holders + 1 })
  | none =>
    let id := adapter.guards.length
    (id, { adapter with
      guards := adapter.guards ++ [{ holders := 1 }]
      openDocuments := adapter.openDocuments ++ [(uri, id)] })

/-- Gets in line for a guard. -/
def joinGuard (adapter : Adapter) (id : GuardId) : Ticket × Adapter :=
  let (ticket, turns) := (adapter.guardAt id).turns.join
  (ticket, adapter.updateGuard id fun guard => { guard with turns })

/-- Gives up a guard, or the place in the line for it. -/
def leaveGuard (adapter : Adapter) (id : GuardId) (ticket : Ticket) : Adapter :=
  adapter.updateGuard id fun guard => { guard with turns := guard.turns.leave ticket }

/-- One who had a guard has it no longer. -/
def dropGuard (adapter : Adapter) (id : GuardId) : Adapter :=
  adapter.updateGuard id fun guard => { guard with holders := guard.holders - 1 }

/-- The number of places from which a guard is reached: questions that have it or wait for it, and
    entries of the table. -/
def guardCount (adapter : Adapter) (id : GuardId) : Nat :=
  (adapter.guardAt id).holders + adapter.openDocuments.countP fun entry => entry.2 = id

/-- Takes a document out of the table if, besides the table, only the one who does this has its
    guard. -/
def forgetGuard (adapter : Adapter) (uri : String) (id : GuardId) : Adapter :=
  if adapter.guardCount id = 2 then
    { adapter with
      openDocuments := adapter.openDocuments.filter fun entry => entry.1 ≠ uri }
  else adapter

/-- Asks for the guard of a document. -/
def lockDocument (adapter : Adapter) (uri : String) : (GuardId × Ticket) × Adapter :=
  let (id, adapter) := adapter.findGuard uri
  let (ticket, adapter) := adapter.joinGuard id
  ((id, ticket), adapter)

/-- Gives up the guard of a document. -/
def unlockDocument (adapter : Adapter) (uri : String) (id : GuardId) (ticket : Ticket) : Adapter :=
  ((adapter.leaveGuard id ticket).forgetGuard uri id).dropGuard id

/-- Gives up the guard of a document, or the place in the line for it, on the way. The document
    stays in the table. -/
def abandonDocument (adapter : Adapter) (id : GuardId) (ticket : Ticket) : Adapter :=
  (adapter.leaveGuard id ticket).dropGuard id

end Adapter
end SymbolSearch
