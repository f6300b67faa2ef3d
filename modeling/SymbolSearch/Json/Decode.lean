import SymbolSearch.Json.Basic

/-!
# Decoding structures from JSON

A structure is decoded from an object, whose unknown fields are ignored and whose known fields
must not repeat, or from an array that holds the fields in order.

* `Json.record?` finds the fields, and `Json.wholeRecord?` those of an object that several
  structures share; `Record.required`, `Record.optional` and `Record.defaulted`
  decode one of them.
* `Json.label?` reads the name of a choice.
* `Json.listOf?` decodes every item of an array.
-/

namespace SymbolSearch

/-- The fields of a structure as they were found. -/
structure Record where
  /-- The value given for a field. -/
  lookup : String → Option Json
  /-- Whether the fields came in order, without names. -/
  positional : Bool

/-- A decoder of one kind of value. -/
abbrev Decoder (α : Type) := Json → Option α

namespace Json

/-- Whether a name occurs at most once among fields. -/
def atMostOnce (name : String) (fields : List (String × Json)) : Bool :=
  (fields.filter fun field => field.1 == name).length ≤ 1

/-- The fields of an object among those with the given names. -/
def objectRecord? (names : List String) : Json → Option Record
  | .object fields =>
    if names.all fun name => atMostOnce name fields then
      some ⟨fun name => fields.lookup name, false⟩
    else none
  | _ => none

/-- The fields of an object that is taken in as a whole, of which every part must have been read. -/
def wholeRecord? (names : List String) (json : Json) : Option Record :=
  if json.isReadable then objectRecord? names json else none

/-- The fields of a structure with the given names, from an object or from an array. -/
def record? (names : List String) : Json → Option Record
  | .array items =>
    if items.length ≤ names.length then
      some ⟨fun name => (names.zip items).lookup name, true⟩
    else none
  | json => objectRecord? names json

/-- The name of a choice: a string, or an object whose only field has the value `null`. -/
def label? : Json → Option String
  | .string label => some label
  | .object [(label, .null)] => some label
  | _ => none

/-- Decodes every item of an array. -/
def listOf? {α : Type} (decode : Decoder α) : Decoder (List α)
  | .array items => items.mapM decode
  | _ => none

/-- Decodes a value or `null`. -/
def orNull? {α : Type} (decode : Decoder α) : Decoder (Option α)
  | .null => some none
  | json => (decode json).map some

/-- A word of 16 bits. -/
def uint16? (json : Json) : Option UInt16 := (json.natBelow? UInt16.size).map Nat.toUInt16

/-- A word of 32 bits. -/
def uint32? (json : Json) : Option UInt32 := (json.natBelow? UInt32.size).map Nat.toUInt32

/-- A word of 64 bits. -/
def uint64? (json : Json) : Option UInt64 := (json.natBelow? UInt64.size).map Nat.toUInt64

/-- A signed integer of 64 bits. -/
def int64? (json : Json) : Option Int :=
  json.int?.bind fun value =>
    if Int64.minValue.toInt ≤ value ∧ value ≤ Int64.maxValue.toInt then some value else none

end Json

namespace Record

/-- A field that must be given. -/
def required {α : Type} (record : Record) (name : String) (decode : Decoder α) : Option α :=
  (record.lookup name).bind decode

/-- A field that may be absent, and then has the default value. -/
def defaulted {α : Type} (record : Record) (name : String) (default : α) (decode : Decoder α) :
    Option α :=
  match record.lookup name with
  | some json => decode json
  | none => some default

/-- A field that may be `null`, or absent from an object. -/
def optional {α : Type} (record : Record) (name : String) (decode : Decoder α) :
    Option (Option α) :=
  match record.lookup name with
  | some json => Json.orNull? decode json
  | none => if record.positional then none else some none

end Record
end SymbolSearch
