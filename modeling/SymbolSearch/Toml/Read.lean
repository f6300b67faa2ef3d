import SymbolSearch.Toml.Basic
import SymbolSearch.Toml.Scalars

/-!
# Reading TOML

* `Toml.readKey` and `Toml.readValue` read keys and values.
* `Toml.Statement` is what a line of a document says, and `Toml.readStatements` reads them all.
* `Toml.read` is the table that a document stands for, if it is well-formed.
-/

namespace SymbolSearch.Toml

/-- Skips blanks within a line. -/
def skipBlanks (cs : List Char) : List Char := cs.dropWhile fun c => c = ' ' || c = '\t'

/-- Skips a comment, if one begins here. The result is `none` if it holds a character that no
    comment may hold. -/
def skipComment : List Char → Option (List Char)
  | '#' :: rest =>
    match rest.dropWhile isPlainChar with
    | [] => some []
    | rest => (lineEnd? rest).map fun _ => rest
  | rest => some rest

/-- Skips blanks, comments and line ends. -/
def skipLines : Nat → List Char → Option (List Char)
  | 0, _ => none
  | limit + 1, cs => do
    let rest ← skipComment (skipBlanks cs)
    match lineEnd? rest with
    | some rest => skipLines limit rest
    | none => some rest

/-- Whether the character may stand in a key without quotes. -/
def isKeyChar (c : Char) : Bool := c.isAlphanum || c = '_' || c = '-'

/-- Reads one part of a key. -/
def readKeyPart (limit : Nat) : List Char → Option (String × List Char)
  | [] => none
  | c :: rest =>
    if c = '"' || c = '\'' then
      (readLine c limit [] rest).map fun (text, rest) => (String.ofList text, rest)
    else
      let cs := c :: rest
      match cs.takeWhile isKeyChar with
      | [] => none
      | name => some (String.ofList name, cs.dropWhile isKeyChar)

/-- Reads a key: parts with dots between them, and blanks around them. -/
def readKey : Nat → List Char → Option (List String × List Char)
  | 0, _ => none
  | limit + 1, cs => do
    let (part, rest) ← readKeyPart (limit + 1) (skipBlanks cs)
    match skipBlanks rest with
    | '.' :: rest =>
      let (others, rest) ← readKey limit rest
      return (part :: others, rest)
    | rest => return ([part], rest)

/-- Whether the character may stand in a value without quotes. -/
def isScalarChar (c : Char) : Bool := isKeyChar c || c = '+' || c = '.' || c = ':'

/-- Whether the characters look like a date; a blank and a time may follow it. -/
def looksLikeDate (cs : List Char) : Bool :=
  match cs with
  | [a, b, c, d, '-', e, f, '-', g, h] => [a, b, c, d, e, f, g, h].all Char.isDigit
  | _ => false

/-- Cuts a value without quotes off. -/
def cutScalar (cs : List Char) : List Char × List Char :=
  let word := cs.takeWhile isScalarChar
  let rest := cs.dropWhile isScalarChar
  match rest with
  | ' ' :: c :: others =>
    if looksLikeDate word && c.isDigit then
      let time := (c :: others).takeWhile isScalarChar
      (word ++ ' ' :: time, (c :: others).dropWhile isScalarChar)
    else (word, rest)
  | _ => (word, rest)

/-- The value of a spelling without quotes. -/
def scalar? (cs : List Char) : Option Toml :=
  if cs = "true".toList then some (.boolean true)
  else if cs = "false".toList then some (.boolean false)
  else
    match integer? cs, float? cs, moment? cs with
    | some value, _, _ => some (.integer value)
    | none, some spelling, _ => some (.float spelling)
    | none, none, some spelling => some (.moment spelling)
    | none, none, none => none

/-- The number of levels that arrays and tables between braces may nest. -/
def maxDepth : Nat := 80

mutual

/-- Reads a value. `depth` counts the levels that may still be opened, and `limit` bounds the
    steps. -/
def readValue (limit depth : Nat) (cs : List Char) : Option (Toml × List Char) :=
  match limit, cs with
  | 0, _ => none
  | _, [] => none
  | limit + 1, c :: rest =>
    if c = '"' || c = '\'' then
      (readString c limit rest).map fun (text, rest) => (.string (String.ofList text), rest)
    else if c = '[' then
      match depth with
      | 0 => none
      | depth + 1 => readItems limit depth [] rest
    else if c = '\x7b' then
      match depth with
      | 0 => none
      | depth + 1 => readPairs limit depth [] rest
    else
      let (word, rest) := cutScalar (c :: rest)
      (scalar? word).map (·, rest)
  termination_by structural limit

/-- Reads the items of an array, behind its bracket or a comma; `done` holds those before, in
    reverse. -/
def readItems (limit depth : Nat) (done : List Toml) (cs : List Char) :
    Option (Toml × List Char) :=
  match limit with
  | 0 => none
  | limit + 1 => do
    match ← skipLines (limit + 1) cs with
    | ']' :: rest => return (.array done.reverse, rest)
    | cs =>
      let (item, rest) ← readValue limit depth cs
      match ← skipLines (limit + 1) rest with
      | ',' :: rest => readItems limit depth (item :: done) rest
      | ']' :: rest => return (.array (item :: done).reverse, rest)
      | _ => none
  termination_by structural limit

/-- Reads the keys and values of a table between braces, behind its brace or a comma; `done` is
    the table so far. -/
def readPairs (limit depth : Nat) (done : Node.Fields) (cs : List Char) :
    Option (Toml × List Char) :=
  match limit with
  | 0 => none
  | limit + 1 => do
    match ← skipLines (limit + 1) cs with
    | '\x7d' :: rest => return ((Node.table .header done).toToml, rest)
    | cs =>
      let (key, rest) ← readKey (limit + 1) cs
      match rest with
      | '=' :: rest =>
        let (value, rest) ← readValue limit depth (skipBlanks rest)
        let done ← Node.addValue [] key value done
        match ← skipLines (limit + 1) rest with
        | ',' :: rest => readPairs limit depth done rest
        | '\x7d' :: rest => return ((Node.table .header done).toToml, rest)
        | _ => none
      | _ => none
  termination_by structural limit

end

/-- What a line of a document says. -/
inductive Statement where
  | table (path : List String)
  | element (path : List String)
  | value (key : List String) (value : Toml)

/-- Reads a header behind its first bracket. -/
def readHeader (limit : Nat) (cs : List Char) : Option (Statement × List Char) := do
  match cs with
  | '[' :: rest =>
    let (path, rest) ← readKey limit rest
    match rest with
    | ']' :: ']' :: rest => return (.element path, rest)
    | _ => none
  | cs =>
    let (path, rest) ← readKey limit cs
    match rest with
    | ']' :: rest => return (.table path, rest)
    | _ => none

/-- Reads a key and its value. -/
def readPair (limit : Nat) (cs : List Char) : Option (Statement × List Char) := do
  let (key, rest) ← readKey limit cs
  match rest with
  | '=' :: rest =>
    let (value, rest) ← readValue limit maxDepth (skipBlanks rest)
    return (.value key value, rest)
  | _ => none

/-- Reads a line that says something, up to its end. -/
def readStatement (limit : Nat) (cs : List Char) : Option (Statement × List Char) := do
  let (statement, rest) ← match cs with
    | '[' :: rest => readHeader limit rest
    | cs => readPair limit cs
  match ← skipComment (skipBlanks rest) with
  | [] => return (statement, [])
  | rest => return (statement, ← lineEnd? rest)

/-- Reads all lines of a document. -/
def readStatements (limit : Nat) : Nat → List Char → Option (List Statement)
  | 0, _ => none
  | lines + 1, cs => do
    match ← skipLines limit cs with
    | [] => return []
    | cs =>
      let (statement, rest) ← readStatement limit cs
      return statement :: (← readStatements limit lines rest)

/-- The table that statements put together; keys belong to the table of the header before them. -/
def assemble : List String → Node.Fields → List Statement → Option Node.Fields
  | _, document, [] => some document
  | _, document, .table path :: rest => do assemble path (← Node.addTable path document) rest
  | _, document, .element path :: rest => do assemble path (← Node.addElement path document) rest
  | current, document, .value key value :: rest => do
    assemble current (← Node.addValue current key value document) rest

/-- The table that a document stands for, if it is well-formed. A byte order mark in front of it is
    skipped. -/
def read (text : String) : Option Fields := do
  let cs := match text.toList with
    | '\ufeff' :: rest => rest
    | cs => cs
  let limit := 2 * cs.length + 2
  let document ← assemble [] [] (← readStatements limit limit cs)
  match (Node.table .header document).toToml with
  | .table fields => return fields
  | _ => none

end SymbolSearch.Toml
