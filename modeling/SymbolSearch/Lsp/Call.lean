import SymbolSearch.Rpc.Message
import SymbolSearch.Symbol

/-!
# What a client says to a language server

* `Query` is a question about symbols, and `Call` any request that a client makes.
* `Notice` is a notification that a client sends.

Each knows its method and its parameters.
-/

namespace SymbolSearch

/-- A question about symbols. -/
inductive Query where
  | documentSymbols (uri : String)
  | references (uri : String) (position : Position) (includeDeclaration : Bool)
  | workspaceSymbols (text : String)
  deriving DecidableEq, Repr

/-- What a client tells a server about itself. -/
structure ClientHello where
  rootUri : String
  workspaceName : String
  deriving DecidableEq, Repr

/-- A request that a client makes. -/
inductive Call where
  | hello (hello : ClientHello)
  | query (query : Query)
  | shutdown
  deriving DecidableEq, Repr

/-- A notification that a client sends. -/
inductive Notice where
  | initialized
  | didOpen (uri : String) (languageId : String) (text : String)
  | didClose (uri : String)
  | exit
  deriving DecidableEq, Repr

/-- The parameter that names a document. -/
def documentParam (uri : String) : String × Json :=
  ("textDocument", .object [("uri", .string uri)])

namespace Query

/-- The method of a question. -/
def method : Query → String
  | .documentSymbols _ => "textDocument/documentSymbol"
  | .references _ _ _ => "textDocument/references"
  | .workspaceSymbols _ => "workspace/symbol"

/-- The parameters of a question. -/
def params : Query → Json
  | .documentSymbols uri => .object [documentParam uri]
  | .references uri position includeDeclaration =>
    .object [("context", .object [("includeDeclaration", .bool includeDeclaration)]),
      ("position", position.toJson), documentParam uri]
  | .workspaceSymbols text => .object [("query", .string text)]

end Query

namespace ClientHello

/-- What the client can do: hierarchical document symbols, references and workspace symbols. -/
def capabilities : Json :=
  .object [
    ("textDocument", .object [
      ("documentSymbol", .object [
        ("dynamicRegistration", .bool false),
        ("hierarchicalDocumentSymbolSupport", .bool true)]),
      ("references", .object [("dynamicRegistration", .bool false)]),
      ("synchronization", .object [
        ("didSave", .bool false),
        ("dynamicRegistration", .bool false),
        ("willSave", .bool false),
        ("willSaveWaitUntil", .bool false)])]),
    ("window", .object [("workDoneProgress", .bool true)]),
    ("workspace", .object [
      ("configuration", .bool true),
      ("symbol", .object [("dynamicRegistration", .bool false)]),
      ("workspaceFolders", .bool true)])]

/-- The name and the version under which the client introduces itself. -/
def clientInfo : Json :=
  .object [("name", .string "codescout"), ("version", .string "0.0.0")]

/-- The parameters of the first request on a connection. -/
def params (hello : ClientHello) : Json :=
  .object [
    ("capabilities", capabilities),
    ("clientInfo", clientInfo),
    ("processId", .nat 0),
    ("rootUri", .string hello.rootUri),
    ("workspaceFolders", .array [
      .object [("name", .string hello.workspaceName), ("uri", .string hello.rootUri)]])]

end ClientHello

namespace Call

/-- The method of a request. -/
def method : Call → String
  | .hello _ => "initialize"
  | .query q => q.method
  | .shutdown => "shutdown"

/-- The parameters of a request. -/
def params : Call → Option Json
  | .hello h => some h.params
  | .query q => some q.params
  | .shutdown => none

/-- The envelope of a request. -/
def toJson (call : Call) (id : Nat) : Json := Message.encodeRequest id call.method call.params

end Call

namespace Notice

/-- The method of a notification. -/
def method : Notice → String
  | .initialized => "initialized"
  | .didOpen _ _ _ => "textDocument/didOpen"
  | .didClose _ => "textDocument/didClose"
  | .exit => "exit"

/-- The parameters of a notification. -/
def params : Notice → Option Json
  | .initialized => some (.object [])
  | .didOpen uri languageId text =>
    some (.object [("textDocument", .object [("languageId", .string languageId),
      ("text", .string text), ("uri", .string uri), ("version", .nat 1)])])
  | .didClose uri => some (.object [documentParam uri])
  | .exit => none

/-- The envelope of a notification. -/
def toJson (notice : Notice) : Json := Message.encodeNotification notice.method notice.params

end Notice

/-- The reply to a request of the server. Registrations and progress are acknowledged, a question
    for configuration gets one `null` for each item asked for, and any other method is unknown. -/
def replyToServer (id : MessageId) (method : String) (params : Option Json) : Json :=
  if method ∈ ["client/registerCapability", "client/unregisterCapability",
      "window/workDoneProgress/create"] then
    Message.encodeResult id .null
  else if method = "workspace/configuration" then
    let items := ((params.bind (Json.field? "items")).bind Json.array?).getD []
    Message.encodeResult id (.array (items.map fun _ => .null))
  else Message.encodeMethodNotFound id method

end SymbolSearch
