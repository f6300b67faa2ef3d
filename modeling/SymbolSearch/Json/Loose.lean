import SymbolSearch.Json.Basic

/-!
# Reading loose documents

In a loose document, what is absent reads as `null`, and what is no text, number or list reads as
an empty one.

* `Json.get` finds a field and `Json.item` an item; the other readers say what is in them.
-/

namespace SymbolSearch.Json

/-- The value of a field. -/
def get (json : Json) (name : String) : Json := (json.field? name).getD .null

/-- The items of a list. -/
def items (json : Json) : List Json := (json.array?).getD []

/-- An item of a list. -/
def item (json : Json) (i : Nat) : Json := (json.items[i]?).getD .null

/-- The fields of an object. -/
def members : Json → List (String × Json)
  | .object fields => fields
  | _ => []

/-- Whether there is nothing. -/
def isNull : Json → Bool
  | .null => true
  | _ => false

/-- A natural number of any reasonable size. -/
def nat? (json : Json) : Option Nat := json.natBelow? (Nat.pow 2 128)

/-- A text. -/
def text (json : Json) : String := (json.string?).getD ""

/-- The texts in a list. -/
def texts (json : Json) : List String := json.items.map text

/-- A truth value. -/
def flag (json : Json) : Bool := (json.bool?).getD false

/-- The text in a field. -/
def getText (json : Json) (name : String) : String := (json.get name).text

/-- The text in a field, or another one. -/
def getTextD (json : Json) (name default : String) : String :=
  ((json.get name).string?).getD default

/-- The number in a field. -/
def getNat? (json : Json) (name : String) : Option Nat := (json.get name).nat?

/-- The number in a field, or another one. -/
def getNatD (json : Json) (name : String) (default : Nat) : Nat := (json.getNat? name).getD default

/-- The items of the list in a field. -/
def getItems (json : Json) (name : String) : List Json := (json.get name).items

/-- The text in an item. -/
def textAt (json : Json) (i : Nat) : String := (json.item i).text

/-- The number in an item. -/
def natAt (json : Json) (i : Nat) : Nat := ((json.item i).nat?).getD 0

/-- The truth value in an item. -/
def flagAt (json : Json) (i : Nat) : Bool := (json.item i).flag

/-- An object that reports an error by its kind. -/
def failure (kind : String) : Json := .object [("error", .string kind)]

/-- An object that reports an error by its kind and a message. -/
def failureWith (kind message : String) : Json :=
  .object [("error", .string kind), ("message", .string message)]

/-- An object that reports a value. -/
def success (value : Json) : Json := .object [("ok", value)]

end SymbolSearch.Json
