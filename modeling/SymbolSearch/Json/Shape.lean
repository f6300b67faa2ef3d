import SymbolSearch.Json.Read

/-!
# Reading JSON of a known shape

What is not of interest in a text is skipped, and need not be as well-formed as what is read:
numbers may have any size, halves of surrogate pairs may stand alone, and values may nest to any
depth.

* `Json.skipValue` skips one value.
* `Json.readTolerant` reads a whole text as a tree, with `Json.unreadable` in the place of what can
  be skipped but not read. A decoder that looks at such a part refuses it.

A text that must spell a value of a known shape can be wrong in two ways: it is no JSON, or it is
JSON of another shape. Which of the two is reported is what a reader finds first who goes through
the text once.

* `Shape` is what a text is to spell; a record may hold further fields, which are skipped.
* `Shape.readText` reads a whole text, without the further fields.
-/

namespace SymbolSearch.Json

/-! ### Skipping -/

/-- What is ahead after a part that was skipped. -/
abbrev Skipping := Option (List Char)

/-- Skips the rest of a string. Halves of surrogate pairs may stand alone. -/
def skipString : List Char → Skipping
  | [] => none
  | '"' :: rest => some rest
  | '\\' :: 'u' :: a :: b :: c :: d :: rest =>
    match hexUnit? a b c d with
    | some _ => skipString rest
    | none => none
  | '\\' :: c :: rest =>
    match plainEscape? c with
    | some _ => skipString rest
    | none => none
  | c :: rest => if c.toNat < 0x20 ∨ c = '\\' then none else skipString rest

/-- Skips one or more digits. -/
def skipDigits (cs : List Char) : Skipping :=
  match cs with
  | c :: _ => if c.isDigit then some (cs.dropWhile Char.isDigit) else none
  | [] => none

/-- Skips an exponent, if there is one. -/
def skipExponent (cs : List Char) : Skipping :=
  match cs with
  | c :: rest =>
    if c = 'e' ∨ c = 'E' then
      match rest with
      | '+' :: rest => skipDigits rest
      | '-' :: rest => skipDigits rest
      | _ => skipDigits rest
    else some cs
  | [] => some []

/-- Skips a fraction and an exponent, if there are any. -/
def skipFraction (cs : List Char) : Skipping :=
  match cs with
  | '.' :: rest => (skipDigits rest).bind skipExponent
  | _ => skipExponent cs

/-- Skips a number of any size, after its sign. -/
def skipNumber (cs : List Char) : Skipping :=
  match cs with
  | '0' :: rest =>
    match rest with
    | c :: _ => if c.isDigit then none else skipFraction rest
    | [] => some []
  | _ => (skipDigits cs).bind skipFraction

/-- Skips what is inside brackets: items, or fields with their names. -/
def skipMembers (skipItem : List Char → Skipping) (hasNames : Bool) (closing : Char) :
    Nat → List Char → Skipping
  | 0, _ => none
  | fuel + 1, cs =>
    let item : Skipping :=
      if hasNames then
        match skipGaps cs with
        | '"' :: rest =>
          match (skipString rest).map skipGaps with
          | some (':' :: rest) => skipItem (skipGaps rest)
          | _ => none
        | _ => none
      else skipItem (skipGaps cs)
    match item.map skipGaps with
    | some (c :: rest) =>
      if c = ',' then skipMembers skipItem hasNames closing fuel rest
      else if c = closing then some rest
      else none
    | _ => none

/-- Skips a value that starts at the first character. -/
def skipValue (limit : Nat) : Nat → List Char → Skipping
  | 0, _ => none
  | depth + 1, cs =>
    match cs with
    | 'n' :: 'u' :: 'l' :: 'l' :: rest => some rest
    | 't' :: 'r' :: 'u' :: 'e' :: rest => some rest
    | 'f' :: 'a' :: 'l' :: 's' :: 'e' :: rest => some rest
    | '"' :: rest => skipString rest
    | '-' :: rest => skipNumber rest
    | '[' :: rest =>
      match skipGaps rest with
      | ']' :: rest => some rest
      | rest => skipMembers (skipValue limit depth) false ']' limit rest
    | '\x7b' :: rest =>
      match skipGaps rest with
      | '\x7d' :: rest => some rest
      | rest => skipMembers (skipValue limit depth) true '\x7d' limit rest
    | rest => skipNumber rest

/-! ### Reading around what cannot be read -/

/-- Skips a value that cannot be read. -/
def skipOver (cs : List Char) : Reading Json :=
  (skipValue (cs.length + 1) (cs.length + 1) cs).map (unreadable, ·)

/-- Reads a value that starts at the first character; what is nested deeper than `depth` levels is
    skipped. -/
def readAround (limit : Nat) : Nat → List Char → Reading Json
  | depth, cs =>
    match cs with
    | 'n' :: 'u' :: 'l' :: 'l' :: rest => some (.null, rest)
    | 't' :: 'r' :: 'u' :: 'e' :: rest => some (.bool true, rest)
    | 'f' :: 'a' :: 'l' :: 's' :: 'e' :: rest => some (.bool false, rest)
    | '"' :: rest =>
      match readStringFrom [] rest with
      | some (text, rest) => some (.string text, rest)
      | none => skipOver cs
    | '[' :: rest =>
      match depth with
      | 0 => skipOver cs
      | depth + 1 =>
        match skipGaps rest with
        | ']' :: rest => some (.array [], rest)
        | rest => readItems (readAround limit depth) [] limit rest
    | '\x7b' :: rest =>
      match depth with
      | 0 => skipOver cs
      | depth + 1 =>
        match skipGaps rest with
        | '\x7d' :: rest => some (.object [], rest)
        | rest =>
          match readFields (readAround limit depth) [] limit rest with
          | some found => some found
          | none => skipOver cs
    | rest =>
      match readNumber rest with
      | some (value, rest) => some (.number value, rest)
      | none => skipOver cs

/-- Reads a whole text, blanks around the value allowed, around what can only be skipped. -/
def readTolerant (text : String) : Option Json :=
  let cs := text.toList
  match readAround (cs.length + 1) maxDepth (skipGaps cs) with
  | some (value, rest) => if (skipGaps rest).isEmpty then some value else none
  | none => none

end SymbolSearch.Json

namespace SymbolSearch

/-! ### Shapes -/

/-- Why a text does not spell a value of a shape. -/
inductive ShapeFault where
  /-- The text is no JSON. -/
  | malformed
  /-- There is another value than the shape asks for. -/
  | misfit
  deriving DecidableEq, Repr

/-- What a text is to spell. -/
inductive Shape where
  | text
  | flag
  /-- A number that fits 32 bits. -/
  | word
  | listOf (item : Shape)
  /-- Named fields in order, each with whether it must be there. -/
  | record (fields : List (String × Bool × Shape))

namespace Shape

open Json (skipGaps)

/-- What a reader of a shape finds: a value and the characters after it, or a fault. -/
abbrev Found := Except ShapeFault (Json × List Char)

/-- The fault of a text that has another value ahead than was asked for. -/
def faultAt (cs : List Char) : ShapeFault :=
  match cs with
  | 'n' :: 'u' :: 'l' :: 'l' :: _ => .misfit
  | 't' :: 'r' :: 'u' :: 'e' :: _ => .misfit
  | 'f' :: 'a' :: 'l' :: 's' :: 'e' :: _ => .misfit
  | '[' :: _ => .misfit
  | '\x7b' :: _ => .misfit
  | '"' :: rest => if (Json.readStringFrom [] rest).isSome then .misfit else .malformed
  | cs => if (Json.readNumber cs).isSome then .misfit else .malformed

/-- Reads a string. -/
def readString (cs : List Char) : Found :=
  match cs with
  | '"' :: rest =>
    match Json.readStringFrom [] rest with
    | some (found, rest) => .ok (.string found, rest)
    | none => .error .malformed
  | _ => .error (faultAt cs)

/-- Reads a truth value. -/
def readFlag (cs : List Char) : Found :=
  match cs with
  | 't' :: 'r' :: 'u' :: 'e' :: rest => .ok (.bool true, rest)
  | 'f' :: 'a' :: 'l' :: 's' :: 'e' :: rest => .ok (.bool false, rest)
  | _ => .error (faultAt cs)

/-- Reads a number that fits 32 bits. -/
def readWord (cs : List Char) : Found :=
  match Json.readNumber cs with
  | some (value, rest) =>
    if ((Json.number value).natBelow? UInt32.size).isSome then .ok (.number value, rest)
    else .error .misfit
  | none => .error (faultAt cs)

/-- Reads the items of a list from the first one on; `done` holds those before in reverse. -/
def readItems (readItem : List Char → Found) (done : List Json) : Nat → List Char → Found
  | 0, _ => .error .malformed
  | fuel + 1, cs => do
    let (item, rest) ← readItem (skipGaps cs)
    match skipGaps rest with
    | ',' :: rest => readItems readItem (item :: done) fuel rest
    | ']' :: rest => .ok (.array (item :: done).reverse, rest)
    | _ => .error .malformed

/-- Reads the fields of a record that come in order, without names. -/
def readInOrder (readField : Shape → List Char → Found) (isFirst : Bool)
    (done : List (String × Json)) : List (String × Bool × Shape) → List Char → Found
  | [], cs =>
    match skipGaps cs with
    | ']' :: rest => .ok (.object done.reverse, rest)
    | _ => .error .malformed
  | (name, needed, shape) :: fields, cs =>
    match skipGaps cs with
    | ']' :: rest =>
      if needed then .error .misfit
      else readInOrder readField isFirst done fields (']' :: rest)
    | ahead =>
      let start? := match isFirst, ahead with
        | true, ahead => some ahead
        | false, ',' :: rest => some (skipGaps rest)
        | false, _ => none
      match start? with
      | none => .error .malformed
      | some start => do
        let (value, rest) ← readField shape start
        readInOrder readField false ((name, value) :: done) fields rest

/-- Reads the named fields of a record from the first one on. -/
def readFields (readField : Shape → List Char → Found) (fields : List (String × Bool × Shape))
    (done : List (String × Json)) : Nat → List Char → Found
  | 0, _ => .error .malformed
  | fuel + 1, cs =>
    match skipGaps cs with
    | '"' :: rest =>
      match Json.readStringFrom [] rest with
      | none => .error .malformed
      | some (name, rest) => do
        if (done.lookup name).isSome then throw .misfit
        let start ← match skipGaps rest with
          | ':' :: rest => .ok (skipGaps rest)
          | _ => .error .malformed
        let (done, rest) ← match fields.lookup name with
          | some (_, shape) => do
            let (value, rest) ← readField shape start
            pure ((name, value) :: done, rest)
          | none =>
            match Json.skipValue (start.length + 1) (start.length + 1) start with
            | some rest => pure (done, rest)
            | none => throw .malformed
        match skipGaps rest with
        | ',' :: rest => readFields readField fields done fuel rest
        | '\x7d' :: rest => finish done rest
        | _ => .error .malformed
    | _ => .error .malformed
where
  /-- The end of the record: every field must be there that has to. -/
  finish (done : List (String × Json)) (rest : List Char) : Found :=
    if fields.all fun (name, needed, _) => !needed || (done.lookup name).isSome then
      .ok (.object done.reverse, rest)
    else .error .misfit

/-- Reads a value of a shape that nests less than `depth` levels and starts at the first
    character; nothing in it has more than `limit` members. -/
def readValue (limit : Nat) : Nat → Shape → List Char → Found
  | 0, _, cs => .error (faultAt cs)
  | depth + 1, shape, cs =>
    match shape with
    | .text => readString cs
    | .flag => readFlag cs
    | .word => readWord cs
    | .listOf item =>
      match cs with
      | '[' :: rest =>
        match skipGaps rest with
        | ']' :: rest => .ok (.array [], rest)
        | rest => readItems (readValue limit depth item) [] limit rest
      | _ => .error (faultAt cs)
    | .record fields =>
      match cs with
      | '[' :: rest => readInOrder (readValue limit depth) true [] fields rest
      | '\x7b' :: rest =>
        match skipGaps rest with
        | '\x7d' :: rest => readFields.finish fields [] rest
        | rest => readFields (readValue limit depth) fields [] limit rest
      | _ => .error (faultAt cs)

/-- Reads a whole text, blanks around the value allowed. -/
def readText (shape : Shape) (source : String) : Except ShapeFault Json :=
  let cs := source.toList
  match readValue (cs.length + 1) Json.maxDepth shape (skipGaps cs) with
  | .ok (value, rest) => if (skipGaps rest).isEmpty then .ok value else .error .malformed
  | .error fault => .error fault

end Shape

end SymbolSearch
