import SymbolSearch.Lsp.Call

/-!
# What a language server answers

* `DocumentSymbols` and `WorkspaceSymbols` are the forms in which servers list symbols; each
  decodes from JSON and flattens to records.
* `ServerHello` is the answer to the first request on a connection.
* `Query.decodeAnswer?` reads the answer to a question.
-/

namespace SymbolSearch

/-! ### The first answer -/

/-- What a server says that it provides; options of any shape stand for yes. -/
structure ServerCapabilities where
  documentSymbolProvider : Option Json := none
  referencesProvider : Option Json := none
  workspaceSymbolProvider : Option Json := none
  deriving Repr, Inhabited

namespace ServerCapabilities

/-- Whether the value of a provider says that it is there. -/
def enabled : Option Json → Bool
  | none => false
  | some .null => false
  | some (.bool false) => false
  | some _ => true

/-- Whether the server lists the symbols of a document. -/
def documentSymbols (c : ServerCapabilities) : Bool := enabled c.documentSymbolProvider

/-- Whether the server finds references. -/
def references (c : ServerCapabilities) : Bool := enabled c.referencesProvider

/-- Whether the server searches the symbols of the workspace. -/
def workspaceSymbols (c : ServerCapabilities) : Bool := enabled c.workspaceSymbolProvider

/-- Decodes the capabilities of a server. -/
def fromJson? (json : Json) : Option ServerCapabilities := do
  let record ← json.record?
    ["documentSymbolProvider", "referencesProvider", "workspaceSymbolProvider"]
  let document ← record.optional "documentSymbolProvider" some
  let references ← record.optional "referencesProvider" some
  let workspace ← record.optional "workspaceSymbolProvider" some
  return ⟨document, references, workspace⟩

end ServerCapabilities

/-- The name and version of a server. -/
structure ServerInfo where
  name : String
  version : Option String
  deriving Repr, DecidableEq

namespace ServerInfo

/-- Decodes the name and version of a server. -/
def fromJson? (json : Json) : Option ServerInfo := do
  let record ← json.record? ["name", "version"]
  return ⟨← record.required "name" Json.string?, ← record.optional "version" Json.string?⟩

end ServerInfo

/-- The answer to the first request on a connection. -/
structure ServerHello where
  capabilities : ServerCapabilities
  info : Option ServerInfo
  deriving Repr

namespace ServerHello

/-- Decodes the answer to the first request. -/
def fromJson? (json : Json) : Option ServerHello := do
  let record ← json.record? ["capabilities", "serverInfo"]
  let capabilities ← record.defaulted "capabilities" {} ServerCapabilities.fromJson?
  let info ← record.optional "serverInfo" ServerInfo.fromJson?
  return ⟨capabilities, info⟩

end ServerHello

/-! ### Symbols of a document -/

/-- A symbol with the symbols inside it. -/
inductive DocumentSymbol where
  | node (name : String) (detail : Option String) (kind : Nat) (range selection : Range)
      (children : List DocumentSymbol)
  deriving Repr

/-- A symbol with its place. -/
structure FlatSymbol where
  name : String
  kind : Nat
  location : Location
  container : Option String
  deriving Repr, DecidableEq

namespace DocumentSymbol

/-- The names of the fields, in order. -/
def fieldNames : List String := ["name", "detail", "kind", "range", "selectionRange", "children"]

/-- Decodes a symbol of a document that nests at most `depth` levels. -/
def decode : Nat → Decoder DocumentSymbol
  | 0, _ => none
  | depth + 1, json => do
    let record ← json.record? fieldNames
    let name ← record.required "name" Json.string?
    let detail ← record.optional "detail" Json.string?
    let kind ← record.required "kind" (Json.natBelow? UInt64.size)
    let range ← record.required "range" Range.fromJson?
    let selection ← record.required "selectionRange" Range.fromJson?
    let children ← record.defaulted "children" none (Json.orNull? (Json.listOf? (decode depth)))
    return .node name detail kind range selection (children.getD [])

mutual

/-- The records of a symbol and of all inside it, each parent before its children. -/
def records (uri : String) (container : Option String) : DocumentSymbol → List SymbolRecord
  | .node name detail kind _ selection children =>
    (({ name, kind := .ofServer kind, location := ⟨uri, selection⟩ } : SymbolRecord).withContainer
      container).withDetail detail :: recordsOf uri (some name) children

/-- The records of symbols one after the other. -/
def recordsOf (uri : String) (container : Option String) :
    List DocumentSymbol → List SymbolRecord
  | [] => []
  | symbol :: rest => records uri container symbol ++ recordsOf uri container rest

end

end DocumentSymbol

namespace FlatSymbol

/-- Decodes a symbol with its place. -/
def fromJson? (json : Json) : Option FlatSymbol := do
  let record ← json.record? ["name", "kind", "location", "containerName"]
  let name ← record.required "name" Json.string?
  let kind ← record.required "kind" (Json.natBelow? UInt64.size)
  let location ← record.required "location" Location.fromJson?
  let container ← record.optional "containerName" Json.string?
  return ⟨name, kind, location, container⟩

/-- The record of a symbol with its place. -/
def record (symbol : FlatSymbol) : SymbolRecord :=
  ({ name := symbol.name, kind := .ofServer symbol.kind, location := symbol.location } :
    SymbolRecord).withContainer symbol.container

end FlatSymbol

/-- The symbols of a document, as a forest or as a list. -/
inductive DocumentSymbols where
  | nested (symbols : List DocumentSymbol)
  | flat (symbols : List FlatSymbol)
  deriving Repr

namespace DocumentSymbols

/-- Decodes the symbols of a document; an array that is a forest is never taken for a list. -/
def fromJson? (json : Json) : Option DocumentSymbols :=
  match Json.listOf? (DocumentSymbol.decode json.depth) json with
  | some symbols => some (.nested symbols)
  | none => (Json.listOf? FlatSymbol.fromJson? json).map .flat

/-- The records of the symbols of the document with the given URI. -/
def records (uri : String) : DocumentSymbols → List SymbolRecord
  | .nested symbols => DocumentSymbol.recordsOf uri none symbols
  | .flat symbols => symbols.map FlatSymbol.record

end DocumentSymbols

/-! ### Symbols of a workspace -/

/-- A place that may lack its range. -/
inductive SymbolPlace where
  | full (location : Location)
  | uriOnly (uri : String)
  deriving Repr, DecidableEq

/-- A symbol whose place may lack its range. -/
structure WorkspaceSymbol where
  name : String
  kind : Nat
  container : Option String
  place : SymbolPlace
  deriving Repr, DecidableEq

namespace SymbolPlace

/-- Decodes a place; one that is complete is never taken for a bare URI. -/
def fromJson? (json : Json) : Option SymbolPlace :=
  match Location.fromJson? json with
  | some location => some (.full location)
  | none => do
    let record ← json.objectRecord? ["uri"]
    return .uriOnly (← record.required "uri" Json.string?)

/-- The location; a bare URI stands for the start of the document. -/
def location : SymbolPlace → Location
  | .full location => location
  | .uriOnly uri => ⟨uri, Range.onLine 0 0 0⟩

end SymbolPlace

namespace WorkspaceSymbol

/-- Decodes a symbol whose place may lack its range. -/
def fromJson? (json : Json) : Option WorkspaceSymbol := do
  let record ← json.record? ["name", "kind", "containerName", "location"]
  let name ← record.required "name" Json.string?
  let kind ← record.required "kind" (Json.natBelow? UInt64.size)
  let container ← record.optional "containerName" Json.string?
  let place ← record.required "location" SymbolPlace.fromJson?
  return ⟨name, kind, container, place⟩

/-- The record of a symbol whose place may lack its range. -/
def record (symbol : WorkspaceSymbol) : SymbolRecord :=
  ({ name := symbol.name, kind := .ofServer symbol.kind, location := symbol.place.location } :
    SymbolRecord).withContainer symbol.container

end WorkspaceSymbol

/-- The symbols of a workspace, all with complete places or not. -/
inductive WorkspaceSymbols where
  | flat (symbols : List FlatSymbol)
  | loose (symbols : List WorkspaceSymbol)
  deriving Repr

namespace WorkspaceSymbols

/-- Decodes the symbols of a workspace. -/
def fromJson? (json : Json) : Option WorkspaceSymbols :=
  match Json.listOf? FlatSymbol.fromJson? json with
  | some symbols => some (.flat symbols)
  | none => (Json.listOf? WorkspaceSymbol.fromJson? json).map .loose

/-- The records of the symbols of a workspace. -/
def records : WorkspaceSymbols → List SymbolRecord
  | .flat symbols => symbols.map FlatSymbol.record
  | .loose symbols => symbols.map WorkspaceSymbol.record

end WorkspaceSymbols

/-! ### Answers to questions -/

/-- The answer to a question. -/
inductive Answer where
  | symbols (records : List SymbolRecord)
  | locations (locations : List Location)
  deriving Repr, DecidableEq, Inhabited

/-- Reads the answer to a question; `null` stands for an empty list. -/
def Query.decodeAnswer? (query : Query) (json : Json) : Option Answer :=
  match query with
  | .documentSymbols uri =>
    (Json.orNull? DocumentSymbols.fromJson? json).map fun found =>
      .symbols ((found.map (DocumentSymbols.records uri)).getD [])
  | .references _ _ _ =>
    (Json.orNull? (Json.listOf? Location.fromJson?) json).map fun found =>
      .locations (found.getD [])
  | .workspaceSymbols _ =>
    (Json.orNull? WorkspaceSymbols.fromJson? json).map fun found =>
      .symbols ((found.map WorkspaceSymbols.records).getD [])

end SymbolSearch
