/-!
# TOML values

* `Toml` is the value of a TOML document or of a key in it. The fields of a table are sorted by
  key, and no key occurs twice.
* `Toml.insertField` and `Toml.field?` are how tables change and how they are read.

A document speaks of one table in many places. While it is read, every table remembers how it came
to be, because that decides what may still be added to it.

* `Node` is a value that is being put together, and `TableOrigin` how a table came to be.
* `Node.within` changes the table at a path of keys and makes the tables that lead there.
* `Node.addTable`, `Node.addElement` and `Node.addValue` are what headers and keys ask for.
* `Node.toToml` is the finished value.
-/

namespace SymbolSearch

/-- A TOML value. -/
inductive Toml where
  | boolean (value : Bool)
  | integer (value : Int)
  /-- A number with a fraction or an exponent, as it is spelled. -/
  | float (spelling : String)
  | string (value : String)
  /-- A date, a time of day, or both, in the usual spelling. -/
  | moment (spelling : String)
  | array (items : List Toml)
  | table (fields : List (String × Toml))
  deriving Repr, Inhabited

namespace Toml

/-- The fields of a table. -/
abbrev Fields := List (String × Toml)

/-- Puts a value under a key, in place of what was there. -/
def insertField (key : String) (value : Toml) : Fields → Fields
  | [] => [(key, value)]
  | (other, old) :: rest =>
    if key < other then (key, value) :: (other, old) :: rest
    else if key = other then (key, value) :: rest
    else (other, old) :: insertField key value rest

/-- The fields, sorted by key; of equal keys the last one counts. -/
def sortFields (fields : Fields) : Fields :=
  fields.foldl (fun sorted field => insertField field.1 field.2 sorted) []

/-- The value under a key. -/
def field? (fields : Fields) (key : String) : Option Toml := fields.lookup key

end Toml

end SymbolSearch

namespace SymbolSearch.Toml

/-! ### Putting tables together -/

/-- How a table came to be. -/
inductive TableOrigin where
  /-- A header named it, or it is the document. -/
  | header
  /-- A header named a table below it. -/
  | implied
  /-- A key with dots named a value below it. -/
  | dotted
  deriving DecidableEq, Repr

/-- A value that is being put together. -/
inductive Node where
  /-- A finished value; nothing can be added to it. -/
  | value (value : Toml)
  | table (origin : TableOrigin) (fields : List (String × Node))
  /-- The tables that headers between double brackets began, the last one first. -/
  | tables (elements : List (List (String × Node)))

namespace Node

/-- The fields of a table that is being put together. -/
abbrev Fields := List (String × Node)

/-- Puts a node under a key, in place of what was there. -/
def setField (key : String) (node : Node) (fields : Fields) : Fields :=
  if (fields.lookup key).isSome then
    fields.map fun (other, old) => if other = key then (other, node) else (other, old)
  else fields ++ [(key, node)]

/-- A change to a table; `none` refuses it. -/
abbrev Change := TableOrigin → Fields → Option (TableOrigin × Fields)

/-- Changes the table at a path, seen from a table with the given origin and fields. Tables that
    are missing on the way are made. With `dotted`, the path is that of a key with dots, which may
    not lead through tables that a header named. -/
def within (dotted : Bool) (change : Change) : List String → Change
  | [], origin, fields => change origin fields
  | key :: path, origin, fields => do
    match fields.lookup key with
    | none =>
      let made := if dotted then .dotted else .implied
      let (below, found) ← within dotted change path made []
      return (origin, setField key (.table below found) fields)
    | some (.table below found) =>
      if dotted && below = .header then none
      else
        let (below, found) ← within dotted change path below found
        return (origin, setField key (.table below found) fields)
    | some (.tables (last :: others)) =>
      let (_, found) ← within dotted change path .header last
      return (origin, setField key (.tables (found :: others)) fields)
    | some _ => none

/-- What a header does to the table that holds the last key of its path: the table under the key is
    begun. It may exist already if only headers of tables below it spoke of it. -/
def beginTable (key : String) : Change := fun origin fields =>
  match fields.lookup key with
  | none => some (origin, setField key (.table .header []) fields)
  | some (.table .implied found) => some (origin, setField key (.table .header found) fields)
  | some _ => none

/-- What a header between double brackets does: one more table is begun under the key. -/
def beginElement (key : String) : Change := fun origin fields =>
  match fields.lookup key with
  | none => some (origin, setField key (.tables [[]]) fields)
  | some (.tables elements) => some (origin, setField key (.tables ([] :: elements)) fields)
  | some _ => none

/-- What a key does to the table that holds its last part: it gets a value, if it has none. A
    table that keys with dots made takes keys with dots only, and any other table none. -/
def giveValue (direct : Bool) (key : String) (given : Toml) : Change := fun origin fields =>
  if (origin = .dotted) = direct then none
  else
    match fields.lookup key with
    | none => some (origin, setField key (.value given) fields)
    | some _ => none

/-- Applies a change at the end of a path to the last key of the path. -/
def atLast (path : List String) (change : String → Change) (dotted : Bool) : Change :=
  match path.getLast? with
  | some key => within dotted (change key) path.dropLast
  | none => fun _ _ => none

/-- Changes the table that a whole document is. -/
def inDocument (change : Change) (document : Fields) : Option Fields :=
  (change .header document).map (·.2)

/-- Begins the table at a path. -/
def addTable (path : List String) (document : Fields) : Option Fields :=
  inDocument (atLast path beginTable false) document

/-- Begins one more table of the list at a path. -/
def addElement (path : List String) (document : Fields) : Option Fields :=
  inDocument (atLast path beginElement false) document

/-- Gives a key, with its dots, a value in the table at a path. -/
def addValue (path key : List String) (given : Toml) (document : Fields) : Option Fields :=
  let direct := key.dropLast = []
  inDocument
    (within false (atLast key (fun last => giveValue direct last given) true) path) document

mutual

/-- The finished value. -/
def toToml : Node → Toml
  | .value finished => finished
  | .table _ fields => .table (sortFields (finishFields fields))
  | .tables elements => .array (finishTables elements).reverse

/-- The finished fields of a table. -/
def finishFields : List (String × Node) → List (String × Toml)
  | [] => []
  | (key, node) :: rest => (key, toToml node) :: finishFields rest

/-- The finished tables of a list. -/
def finishTables : List (List (String × Node)) → List Toml
  | [] => []
  | fields :: rest => .table (sortFields (finishFields fields)) :: finishTables rest

end

end Node

end SymbolSearch.Toml
