import SymbolSearch.Ecosystem
import SymbolSearch.Session.State
import SymbolSearch.Symbol

/-!
# Payloads of the control surface

The requests and answers that the proxy and its clients exchange, each with a decoder
`fromJson?` and an encoder `toJson`.
-/

namespace SymbolSearch.Api

/-- Encodes every item of a list. -/
def listToJson {α : Type} (encode : α → Json) (items : List α) : Json := .array (items.map encode)

/-- The answer to a question whether the proxy is up. -/
structure Readiness where
  ready : Bool
  workspace : String
  available : List Ecosystem
  deriving DecidableEq, Repr

namespace Readiness

/-- Decodes a readiness answer. -/
def fromJson? (json : Json) : Option Readiness := do
  let record ← json.record? ["ready", "workspace", "available"]
  let ready ← record.required "ready" Json.bool?
  let workspace ← record.required "workspace" Json.string?
  let available ← record.defaulted "available" [] (Json.listOf? Ecosystem.fromJson?)
  return ⟨ready, workspace, available⟩

/-- Encodes a readiness answer. -/
def toJson (answer : Readiness) : Json :=
  .object [("available", listToJson Ecosystem.toJson answer.available),
    ("ready", .bool answer.ready), ("workspace", .string answer.workspace)]

end Readiness

/-- A search for symbols; no ecosystem stands for every configured one. -/
structure SymbolQuery where
  query : String
  ecosystems : List String
  deriving DecidableEq, Repr

namespace SymbolQuery

/-- Decodes a search for symbols. -/
def fromJson? (json : Json) : Option SymbolQuery := do
  let record ← json.record? ["query", "ecosystems"]
  let query ← record.required "query" Json.string?
  let ecosystems ← record.defaulted "ecosystems" [] (Json.listOf? Json.string?)
  return ⟨query, ecosystems⟩

/-- Encodes a search for symbols. -/
def toJson (request : SymbolQuery) : Json :=
  .object [("ecosystems", listToJson .string request.ecosystems), ("query", .string request.query)]

end SymbolQuery

/-- A symbol with the ecosystem that found it. -/
structure SymbolHit where
  ecosystem : Ecosystem
  symbol : SymbolRecord
  deriving DecidableEq, Repr

namespace SymbolHit

/-- Decodes a hit from one object that holds the ecosystem and the fields of the symbol. -/
def fromJson? (json : Json) : Option SymbolHit := do
  let record ← json.wholeRecord? ("ecosystem" :: SymbolRecord.fieldNames)
  let ecosystem ← record.required "ecosystem" Ecosystem.fromJson?
  let symbol ← SymbolRecord.ofRecord? record
  return ⟨ecosystem, symbol⟩

/-- Encodes a hit. -/
def toJson (hit : SymbolHit) : Json :=
  .ofPresent (("ecosystem", some hit.ecosystem.toJson) :: hit.symbol.jsonFields)

end SymbolHit

/-- Why an ecosystem gave no answer at all. -/
inductive FailureKind where
  | configuration | permanent | session
  deriving DecidableEq, Repr, Inhabited

namespace FailureKind

/-- Every kind of failure. -/
def all : List FailureKind := [.configuration, .permanent, .session]

/-- The name of the kind. -/
def label : FailureKind → String
  | .configuration => "configuration"
  | .permanent => "permanent"
  | .session => "session"

/-- Decodes a kind from its name. -/
def fromJson? (json : Json) : Option FailureKind :=
  json.label?.bind fun label => all.find? fun kind => kind.label == label

/-- Encodes a kind as its name. -/
def toJson (kind : FailureKind) : Json := .string kind.label

end FailureKind

/-- What a search came to in one ecosystem. -/
inductive OutcomeStatus where
  | ok (source : ResultSource) (count : UInt64)
  | failed (kind : FailureKind) (error : String)
  deriving DecidableEq, Repr

/-- What a search came to, with the ecosystem. -/
structure Outcome where
  ecosystem : Ecosystem
  status : OutcomeStatus
  deriving DecidableEq, Repr

namespace Outcome

/-- Whether the ecosystem answered. -/
def isOk (outcome : Outcome) : Bool :=
  match outcome.status with
  | .ok _ _ => true
  | .failed _ _ => false

/-- Decodes the status from the object of an outcome. -/
def statusFromJson? (json : Json) : Option OutcomeStatus := do
  let record ← json.objectRecord? ["status"]
  let status ← record.required "status" Json.string?
  if status = "ok" then
    let fields ← json.objectRecord? ["source", "count"]
    return .ok (← fields.required "source" ResultSource.fromJson?)
      (← fields.required "count" Json.uint64?)
  else if status = "failed" then
    let fields ← json.objectRecord? ["kind", "error"]
    return .failed (← fields.required "kind" FailureKind.fromJson?)
      (← fields.required "error" Json.string?)
  else none

/-- Decodes an outcome from one object that holds the ecosystem and the status. -/
def fromJson? (json : Json) : Option Outcome := do
  let record ← json.wholeRecord? ["ecosystem"]
  let ecosystem ← record.required "ecosystem" Ecosystem.fromJson?
  let status ← statusFromJson? json
  return ⟨ecosystem, status⟩

/-- Encodes an outcome. -/
def toJson (outcome : Outcome) : Json :=
  match outcome.status with
  | .ok source count =>
    .object [("count", .nat count.toNat), ("ecosystem", outcome.ecosystem.toJson),
      ("source", source.toJson), ("status", .string "ok")]
  | .failed kind error =>
    .object [("ecosystem", outcome.ecosystem.toJson), ("error", .string error),
      ("kind", kind.toJson), ("status", .string "failed")]

end Outcome

/-- The answer to a search for symbols. -/
structure SymbolAnswer where
  query : String
  ecosystems : List Outcome
  total : UInt64
  symbols : List SymbolHit
  deriving DecidableEq, Repr

namespace SymbolAnswer

/-- Decodes the answer to a search for symbols. -/
def fromJson? (json : Json) : Option SymbolAnswer := do
  let record ← json.record? ["query", "ecosystems", "total", "symbols"]
  let query ← record.required "query" Json.string?
  let ecosystems ← record.required "ecosystems" (Json.listOf? Outcome.fromJson?)
  let total ← record.required "total" Json.uint64?
  let symbols ← record.required "symbols" (Json.listOf? SymbolHit.fromJson?)
  return ⟨query, ecosystems, total, symbols⟩

/-- Encodes the answer to a search for symbols. -/
def toJson (answer : SymbolAnswer) : Json :=
  .object [("ecosystems", listToJson Outcome.toJson answer.ecosystems),
    ("query", .string answer.query), ("symbols", listToJson SymbolHit.toJson answer.symbols),
    ("total", .nat answer.total.toNat)]

end SymbolAnswer

/-- A search for the references to what stands at a position of a document. -/
structure ReferenceQuery where
  document : String
  position : Position
  includeDeclaration : Bool
  deriving DecidableEq, Repr

namespace ReferenceQuery

/-- Decodes a search for references. -/
def fromJson? (json : Json) : Option ReferenceQuery := do
  let record ← json.record? ["document", "position", "includeDeclaration"]
  let document ← record.required "document" Json.string?
  let position ← record.required "position" Position.fromJson?
  let includeDeclaration ← record.defaulted "includeDeclaration" false Json.bool?
  return ⟨document, position, includeDeclaration⟩

/-- Encodes a search for references. -/
def toJson (request : ReferenceQuery) : Json :=
  .object [("document", .string request.document),
    ("includeDeclaration", .bool request.includeDeclaration),
    ("position", request.position.toJson)]

end ReferenceQuery

/-- The answer to a search for references. -/
structure ReferenceAnswer where
  document : String
  position : Position
  ecosystem : Ecosystem
  source : ResultSource
  references : List Location
  deriving DecidableEq, Repr

namespace ReferenceAnswer

/-- Decodes the answer to a search for references. -/
def fromJson? (json : Json) : Option ReferenceAnswer := do
  let record ← json.record? ["document", "position", "ecosystem", "source", "references"]
  let document ← record.required "document" Json.string?
  let position ← record.required "position" Position.fromJson?
  let ecosystem ← record.required "ecosystem" Ecosystem.fromJson?
  let source ← record.required "source" ResultSource.fromJson?
  let references ← record.required "references" (Json.listOf? Location.fromJson?)
  return ⟨document, position, ecosystem, source, references⟩

/-- Encodes the answer to a search for references. -/
def toJson (answer : ReferenceAnswer) : Json :=
  .object [("document", .string answer.document), ("ecosystem", answer.ecosystem.toJson),
    ("position", answer.position.toJson),
    ("references", listToJson Location.toJson answer.references),
    ("source", answer.source.toJson)]

end ReferenceAnswer

/-- The outcome of the latest health check of a session or of the proxy. -/
structure HealthRecord where
  /-- The time of the check, in milliseconds. -/
  atMs : UInt64
  ok : Bool
  error : Option String
  deriving DecidableEq, Repr

namespace HealthRecord

/-- Decodes a health record. -/
def fromJson? (json : Json) : Option HealthRecord := do
  let record ← json.record? ["atMs", "ok", "error"]
  let atMs ← record.required "atMs" Json.uint64?
  let ok ← record.required "ok" Json.bool?
  let error ← record.defaulted "error" none (Json.orNull? Json.string?)
  return ⟨atMs, ok, error⟩

/-- Encodes a health record. -/
def toJson (health : HealthRecord) : Json :=
  .ofPresent [("atMs", some (.nat health.atMs.toNat)), ("error", health.error.map .string),
    ("ok", some (.bool health.ok))]

/-- Encodes a health record, or `null` if there is none. -/
def toJsonOrNull (health : Option HealthRecord) : Json := (health.map toJson).getD .null

end HealthRecord

/-- How the session of one ecosystem is doing. -/
structure EcosystemStatus where
  state : SessionState
  restarts : UInt32
  consecutiveFailures : UInt32
  lastHealthCheck : Option HealthRecord
  deriving DecidableEq, Repr

namespace EcosystemStatus

/-- Decodes the status of an ecosystem. -/
def fromJson? (json : Json) : Option EcosystemStatus := do
  let record ← json.record? ["state", "restarts", "consecutiveFailures", "lastHealthCheck"]
  let state ← record.required "state" SessionState.fromJson?
  let restarts ← record.required "restarts" Json.uint32?
  let failures ← record.defaulted "consecutiveFailures" 0 Json.uint32?
  let last ← record.defaulted "lastHealthCheck" none (Json.orNull? HealthRecord.fromJson?)
  return ⟨state, restarts, failures, last⟩

/-- Encodes the status of an ecosystem. -/
def toJson (status : EcosystemStatus) : Json :=
  .object [("consecutiveFailures", .nat status.consecutiveFailures.toNat),
    ("lastHealthCheck", HealthRecord.toJsonOrNull status.lastHealthCheck),
    ("restarts", .nat status.restarts.toNat), ("state", status.state.toJson)]

end EcosystemStatus

/-- The answer to a question for the status of every session. -/
structure StatusReport where
  available : List Ecosystem
  /-- The status of every ecosystem, sorted by name. -/
  perEcosystem : List (Ecosystem × EcosystemStatus)
  deriving DecidableEq, Repr

namespace StatusReport

/-- Puts a status in its place among statuses sorted by name; an earlier one of the same
    ecosystem is replaced. -/
def insert (eco : Ecosystem) (status : EcosystemStatus) :
    List (Ecosystem × EcosystemStatus) → List (Ecosystem × EcosystemStatus)
  | [] => [(eco, status)]
  | (other, old) :: rest =>
    if eco.name < other.name then (eco, status) :: (other, old) :: rest
    else if eco = other then (eco, status) :: rest
    else (other, old) :: insert eco status rest

/-- Decodes statuses keyed by ecosystem; of equal names the last wins. -/
def perEcosystem? : Json → Option (List (Ecosystem × EcosystemStatus))
  | .object fields =>
    fields.foldlM
      (fun sorted field => do
        return insert (← Ecosystem.parse? field.1) (← EcosystemStatus.fromJson? field.2) sorted)
      []
  | _ => none

/-- Decodes a status report. -/
def fromJson? (json : Json) : Option StatusReport := do
  let record ← json.record? ["available", "perEcosystem"]
  let available ← record.required "available" (Json.listOf? Ecosystem.fromJson?)
  let perEcosystem ← record.required "perEcosystem" perEcosystem?
  return ⟨available, perEcosystem⟩

/-- Encodes a status report. -/
def toJson (report : StatusReport) : Json :=
  .object [("available", listToJson Ecosystem.toJson report.available),
    ("perEcosystem", .object (report.perEcosystem.map fun (eco, status) =>
      (eco.name, status.toJson)))]

end StatusReport

/-- The body of an answer that reports an error. -/
structure ErrorBody where
  code : UInt16
  message : String
  deriving DecidableEq, Repr

namespace ErrorBody

/-- Decodes the code and the message of an error. -/
def detail? (json : Json) : Option ErrorBody := do
  let record ← json.record? ["code", "message"]
  return ⟨← record.required "code" Json.uint16?, ← record.required "message" Json.string?⟩

/-- Decodes the body of an answer that reports an error. -/
def fromJson? (json : Json) : Option ErrorBody := do
  let record ← json.record? ["error"]
  record.required "error" detail?

/-- Encodes the body of an answer that reports an error. -/
def toJson (body : ErrorBody) : Json :=
  .object [("error",
    .object [("code", .nat body.code.toNat), ("message", .string body.message)])]

end ErrorBody
end SymbolSearch.Api
