import SymbolSearch.Json.Decode

/-!
# Symbols and their places

* `Position` is a line and a column, both counted from zero; columns count UTF-16 units.
* `Range` is what lies between two positions, the second one excluded.
* `Location` is a range of the document with a given URI.
* `SymbolKind` is what a symbol is, with the numbers and labels that servers and answers use.
* `SymbolRecord` is one definition, found by a server or by the text scan.
* `ResultSource` says which of the two an answer came from.
-/

namespace SymbolSearch

/-! ### Places -/

/-- A line and a column of a document. -/
structure Position where
  line : UInt32
  character : UInt32
  deriving DecidableEq, Repr, Inhabited

namespace Position

/-- Whether the position comes before the other, or is it. -/
def le (a b : Position) : Bool :=
  a.line < b.line || (a.line == b.line && a.character ≤ b.character)

/-- Decodes a position. -/
def fromJson? (json : Json) : Option Position := do
  let record ← json.record? ["line", "character"]
  return ⟨← record.required "line" Json.uint32?, ← record.required "character" Json.uint32?⟩

/-- Encodes a position. -/
def toJson (position : Position) : Json :=
  .object [("character", .nat position.character.toNat), ("line", .nat position.line.toNat)]

end Position

/-- What lies from `start` up to, but not at, `stop`. -/
structure Range where
  start : Position
  stop : Position
  deriving DecidableEq, Repr, Inhabited

namespace Range

/-- The range of `length` units on one line. -/
def onLine (line character length : UInt32) : Range :=
  ⟨⟨line, character⟩, ⟨line, character + length⟩⟩

/-- Whether a position lies in the range. -/
def contains (range : Range) (position : Position) : Bool :=
  range.start.le position && !range.stop.le position

/-- Decodes a range. -/
def fromJson? (json : Json) : Option Range := do
  let record ← json.record? ["start", "end"]
  return ⟨← record.required "start" Position.fromJson?, ← record.required "end" Position.fromJson?⟩

/-- Encodes a range. -/
def toJson (range : Range) : Json :=
  .object [("end", range.stop.toJson), ("start", range.start.toJson)]

end Range

/-- A range of the document with the given URI. -/
structure Location where
  uri : String
  range : Range
  deriving DecidableEq, Repr, Inhabited

namespace Location

/-- Decodes a location. -/
def fromJson? (json : Json) : Option Location := do
  let record ← json.record? ["uri", "range"]
  return ⟨← record.required "uri" Json.string?, ← record.required "range" Range.fromJson?⟩

/-- Encodes a location. -/
def toJson (location : Location) : Json :=
  .object [("range", location.range.toJson), ("uri", .string location.uri)]

end Location

/-! ### Symbols -/

/-- What a symbol is. -/
inductive SymbolKind where
  | file | moduleUnit | nameSpace | package | classType | method | property | field |
  constructor | enum | interface | function | variable | constant | string | number | boolean |
  array | object | key | null | enumMember | struct | event | operator | typeParameter
  deriving DecidableEq, Repr, Inhabited

namespace SymbolKind

/-- Every kind, in the order of their numbers. -/
def all : List SymbolKind :=
  [.file, .moduleUnit, .nameSpace, .package, .classType, .method, .property, .field,
   .constructor, .enum, .interface, .function, .variable, .constant, .string, .number, .boolean,
   .array, .object, .key, .null, .enumMember, .struct, .event, .operator, .typeParameter]

/-- The number that servers use for the kind. -/
def code : SymbolKind → Nat
  | .file => 1
  | .moduleUnit => 2
  | .nameSpace => 3
  | .package => 4
  | .classType => 5
  | .method => 6
  | .property => 7
  | .field => 8
  | .constructor => 9
  | .enum => 10
  | .interface => 11
  | .function => 12
  | .variable => 13
  | .constant => 14
  | .string => 15
  | .number => 16
  | .boolean => 17
  | .array => 18
  | .object => 19
  | .key => 20
  | .null => 21
  | .enumMember => 22
  | .struct => 23
  | .event => 24
  | .operator => 25
  | .typeParameter => 26

/-- The label that answers use for the kind. -/
def label : SymbolKind → String
  | .file => "file"
  | .moduleUnit => "module"
  | .nameSpace => "namespace"
  | .package => "package"
  | .classType => "class"
  | .method => "method"
  | .property => "property"
  | .field => "field"
  | .constructor => "constructor"
  | .enum => "enum"
  | .interface => "interface"
  | .function => "function"
  | .variable => "variable"
  | .constant => "constant"
  | .string => "string"
  | .number => "number"
  | .boolean => "boolean"
  | .array => "array"
  | .object => "object"
  | .key => "key"
  | .null => "null"
  | .enumMember => "enum_member"
  | .struct => "struct"
  | .event => "event"
  | .operator => "operator"
  | .typeParameter => "type_parameter"

/-- The kind with the given number. -/
def ofCode? (code : Nat) : Option SymbolKind := all.find? fun kind => kind.code == code

/-- The kind with the given label. -/
def ofLabel? (label : String) : Option SymbolKind := all.find? fun kind => kind.label == label

/-- The kind for a number that a server sent; one that has no kind stands for a variable. -/
def ofServer (code : Nat) : SymbolKind := (ofCode? code).getD .variable

/-- Decodes a kind from its label. -/
def fromJson? (json : Json) : Option SymbolKind := json.label?.bind ofLabel?

/-- Encodes a kind as its label. -/
def toJson (kind : SymbolKind) : Json := .string kind.label

end SymbolKind

/-- One definition of a symbol. -/
structure SymbolRecord where
  name : String
  kind : SymbolKind
  location : Location
  container : Option String := none
  detail : Option String := none
  deriving DecidableEq, Repr, Inhabited

namespace SymbolRecord

/-- A text, unless it is empty. -/
def nonEmpty (text : Option String) : Option String := text.filter (· ≠ "")

/-- The record with the name of what contains the symbol, unless that name is empty. -/
def withContainer (record : SymbolRecord) (container : Option String) : SymbolRecord :=
  { record with container := nonEmpty container }

/-- The record with a detail, unless that is empty. -/
def withDetail (record : SymbolRecord) (detail : Option String) : SymbolRecord :=
  { record with detail := nonEmpty detail }

/-- The names of the fields, in order. -/
def fieldNames : List String := ["name", "kind", "location", "containerName", "detail"]

/-- Decodes a record from its fields. -/
def ofRecord? (record : Record) : Option SymbolRecord := do
  let name ← record.required "name" Json.string?
  let kind ← record.required "kind" SymbolKind.fromJson?
  let location ← record.required "location" Location.fromJson?
  let container ← record.defaulted "containerName" none (Json.orNull? Json.string?)
  let detail ← record.defaulted "detail" none (Json.orNull? Json.string?)
  return ⟨name, kind, location, container, detail⟩

/-- Decodes a record. -/
def fromJson? (json : Json) : Option SymbolRecord := do ofRecord? (← json.record? fieldNames)

/-- The fields of a record that are present, in the order of their names. -/
def jsonFields (record : SymbolRecord) : List (String × Option Json) :=
  [("containerName", record.container.map .string), ("detail", record.detail.map .string),
    ("kind", some record.kind.toJson), ("location", some record.location.toJson),
    ("name", some (.string record.name))]

/-- Encodes a record. -/
def toJson (record : SymbolRecord) : Json := .ofPresent record.jsonFields

end SymbolRecord

/-- Where an answer came from: a server, or the text scan for the given reason. -/
inductive ResultSource where
  | semantic
  | fallback (reason : String)
  deriving DecidableEq, Repr, Inhabited

namespace ResultSource

/-- Whether the answer came from the text scan. -/
def isFallback : ResultSource → Bool
  | .semantic => false
  | .fallback _ => true

/-- Decodes a source from an object with its kind, or from an array that starts with it. -/
def fromJson? : Json → Option ResultSource
  | .array [kind] => do
    if (← kind.string?) = "semantic" then some .semantic else none
  | .array [kind, reason] => do
    if (← kind.string?) = "fallback" then return .fallback (← reason.string?) else none
  | json => do
    let record ← json.wholeRecord? ["kind"]
    let kind ← record.required "kind" Json.string?
    if kind = "semantic" then some .semantic
    else if kind = "fallback" then
      let fields ← json.objectRecord? ["reason"]
      return .fallback (← fields.required "reason" Json.string?)
    else none

/-- Encodes a source. -/
def toJson : ResultSource → Json
  | .semantic => .object [("kind", .string "semantic")]
  | .fallback reason => .object [("kind", .string "fallback"), ("reason", .string reason)]

end ResultSource

end SymbolSearch
