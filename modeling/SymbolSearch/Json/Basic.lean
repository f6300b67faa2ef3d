/-!
# JSON values

* `Json` is a JSON text as a tree. An object keeps its fields as a list, so that a text with a
  repeated field still has a tree; `Json.canonical` sorts the fields and lets the last of equal
  names win.
* `Json.field?` looks a name up in an object.
* `Json.depth` is the number of levels that arrays and objects nest.
* `Json.unreadable` stands for a part of a text that was skipped, and `Json.isReadable` says that a
  tree has no such part.
-/

namespace SymbolSearch

/-- A number: an integer that fits 64 bits, with or without sign, or the bits of a double. -/
inductive JsonNumber where
  | int (value : Int)
  | double (bits : UInt64)
  deriving DecidableEq, Repr, Inhabited

/-- A JSON text as a tree. -/
inductive Json where
  | null
  | bool (value : Bool)
  | number (value : JsonNumber)
  | string (value : String)
  | array (items : List Json)
  | object (fields : List (String × Json))
  deriving Repr, Inhabited, BEq

namespace Json

/-- An integer as a value. -/
def int (value : Int) : Json := .number (.int value)

/-- A natural number as a value. -/
def nat (value : Nat) : Json := .int value

/-- A text, or `null` if there is none. -/
def textOrNull : Option String → Json
  | some text => .string text
  | none => .null

/-- Inserts a field into fields sorted by name; a field of the same name is replaced. -/
def insertField (name : String) (value : Json) :
    List (String × Json) → List (String × Json)
  | [] => [(name, value)]
  | (other, old) :: rest =>
    if name < other then (name, value) :: (other, old) :: rest
    else if name = other then (name, value) :: rest
    else (other, old) :: insertField name value rest

/-- The object with the given fields, sorted by name; of equal names the last wins. -/
def ofFields (fields : List (String × Json)) : Json :=
  .object (fields.foldl (fun sorted field => insertField field.1 field.2 sorted) [])

/-- The object of those fields that are present. -/
def ofPresent (fields : List (String × Option Json)) : Json :=
  ofFields (fields.filterMap fun field => field.2.map fun value => (field.1, value))

mutual

/-- The value with the fields of every object sorted by name and repeated names resolved. -/
def canonical : Json → Json
  | .array items => .array (canonicalItems items)
  | .object fields => ofFields (canonicalFields fields)
  | other => other

/-- The canonical forms of the items of an array. -/
def canonicalItems : List Json → List Json
  | [] => []
  | item :: rest => canonical item :: canonicalItems rest

/-- The fields of an object with canonical values. -/
def canonicalFields : List (String × Json) → List (String × Json)
  | [] => []
  | (name, value) :: rest => (name, canonical value) :: canonicalFields rest

end

/-- The value of a field of an object. -/
def field? (name : String) : Json → Option Json
  | .object fields => fields.lookup name
  | _ => none

/-- The text of a string value. -/
def string? : Json → Option String
  | .string text => some text
  | _ => none

/-- The items of an array. -/
def array? : Json → Option (List Json)
  | .array items => some items
  | _ => none

/-- The truth value, if it is one. -/
def bool? : Json → Option Bool
  | .bool value => some value
  | _ => none

/-- The integer, if the value is one. -/
def int? : Json → Option Int
  | .number (.int value) => some value
  | _ => none

/-- The integer, if it lies in `[0, bound)`. -/
def natBelow? (bound : Nat) (json : Json) : Option Nat :=
  json.int?.bind fun value =>
    if 0 ≤ value ∧ value < (bound : Int) then some value.toNat else none

/-! ### Nesting -/

mutual

/-- The number of levels that arrays and objects nest in a value. -/
def depth : Json → Nat
  | .array items => itemsDepth items + 1
  | .object fields => fieldsDepth fields + 1
  | _ => 0

/-- The greatest depth among items. -/
def itemsDepth : List Json → Nat
  | [] => 0
  | item :: rest => max item.depth (itemsDepth rest)

/-- The greatest depth among the values of fields. -/
def fieldsDepth : List (String × Json) → Nat
  | [] => 0
  | (_, value) :: rest => max value.depth (fieldsDepth rest)

end

/-! ### Parts that could not be read -/

/-- The value that stands for a part which can be skipped but not read. No text spells it. -/
def unreadable : Json := .number (.double 0x7ff8000000000000)

mutual

/-- Whether every part of the tree was read. -/
def isReadable : Json → Bool
  | .number (.double bits) => bits ≠ 0x7ff8000000000000
  | .array items => areReadable items
  | .object fields => haveReadable fields
  | _ => true

/-- Whether every part of the items was read. -/
def areReadable : List Json → Bool
  | [] => true
  | item :: rest => isReadable item && areReadable rest

/-- Whether every part of the fields was read. -/
def haveReadable : List (String × Json) → Bool
  | [] => true
  | (_, value) :: rest => isReadable value && haveReadable rest

end

end Json
end SymbolSearch
