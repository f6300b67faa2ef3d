import SymbolSearch.Json.Basic

/-!
# Reading JSON

A reader takes the characters ahead and gives a value with the characters after it, or refuses.

* `Json.readTree` reads a whole text as a tree with the fields as they were written.
* `Json.read` reads a whole text as a canonical value.

Values may nest `maxDepth` levels deep. A number with neither fraction nor exponent that fits
64 bits is an integer; any other number is a double, and one too large for a double is refused.
-/

namespace SymbolSearch.Json

/-- The number of levels that arrays and objects may nest. -/
def maxDepth : Nat := 127

/-- What a reader finds: a value and the characters after it. -/
abbrev Reading (α : Type) := Option (α × List Char)

/-- Whether the character is one of the four blanks of the format. -/
def isGap (c : Char) : Bool := c == ' ' || c == '\n' || c == '\t' || c == '\r'

/-- The characters after any blanks. -/
def skipGaps (cs : List Char) : List Char := cs.dropWhile isGap

/-! ### Numbers -/

/-- Ten to the given power, as a double. -/
def powerOfTen (n : Nat) : Float := Float.ofScientific 1 false n

/-- The greatest power of ten that is a double. -/
def maxPower : Nat := 308

/-- The double nearest to `significand` scaled by `10 ^ exponent`, one multiplication or division
    by a power of ten at a time; too large a number is refused. -/
def scaled : Nat → Float → Int → Option Float
  | 0, value, _ => some value
  | fuel + 1, value, exponent =>
    if exponent.natAbs ≤ maxPower then
      if 0 ≤ exponent then
        let result := value * powerOfTen exponent.natAbs
        if result.isInf then none else some result
      else some (value / powerOfTen exponent.natAbs)
    else if value == 0.0 then some value
    else if 0 ≤ exponent then none
    else scaled fuel (value / powerOfTen maxPower) (exponent + maxPower)

/-- The double that a sign, a significand and a decimal exponent stand for. -/
def toDouble (negative : Bool) (significand : Nat) (exponent : Int) : Option JsonNumber :=
  (scaled 4 significand.toUInt64.toFloat exponent).map fun value =>
    .double (if negative then -value else value).toBits

/-- The value of a decimal digit. -/
def digitValue (c : Char) : Nat := c.toNat - '0'.toNat

/-- Reads digits into `significand` while it stays below `2 ^ 64`; the count is of the digits
    read. -/
def readDigits (significand count : Nat) : List Char → Nat × Nat × List Char
  | [] => (significand, count, [])
  | c :: rest =>
    if c.isDigit && significand * 10 + digitValue c < UInt64.size then
      readDigits (significand * 10 + digitValue c) (count + 1) rest
    else (significand, count, c :: rest)

/-- Reads the digits of an exponent; above `2 ^ 31` they are only skipped. -/
def readExponentDigits (value : Nat) : List Char → Nat × Bool × List Char
  | [] => (value, true, [])
  | c :: rest =>
    if c.isDigit then
      if value * 10 + digitValue c < Nat.pow 2 31 then
        readExponentDigits (value * 10 + digitValue c) rest
      else (value, false, (c :: rest).dropWhile Char.isDigit)
    else (value, true, c :: rest)

/-- Keeps an exponent within 32 bits. -/
def clampExponent (e : Int) : Int := max Int32.minValue.toInt (min Int32.maxValue.toInt e)

/-- Reads what follows the letter of an exponent. -/
def readExponent (negative : Bool) (significand : Nat) (exponent : Int) (cs : List Char) :
    Reading JsonNumber :=
  let (down, cs) := match cs with
    | '+' :: rest => (false, rest)
    | '-' :: rest => (true, rest)
    | rest => (false, rest)
  match cs with
  | [] => none
  | c :: _ =>
    if !c.isDigit then none
    else
      let (power, fits, rest) := readExponentDigits 0 cs
      if fits then
        let total := clampExponent (if down then exponent - power else exponent + power)
        (toDouble negative significand total).map (·, rest)
      else if significand ≠ 0 && !down then none
      else (toDouble negative 0 0).map (·, rest)

/-- Reads an exponent, if there is one, after a significand that makes the number a double. -/
def readScale (negative : Bool) (significand : Nat) (exponent : Int) (cs : List Char) :
    Reading JsonNumber :=
  match cs with
  | 'e' :: rest => readExponent negative significand exponent rest
  | 'E' :: rest => readExponent negative significand exponent rest
  | rest => (toDouble negative significand exponent).map (·, rest)

/-- Reads the digits after the point; those that no longer fit are skipped. -/
def readFraction (negative : Bool) (significand : Nat) (exponent : Int) (cs : List Char) :
    Reading JsonNumber :=
  let (significand, count, rest) := readDigits significand 0 cs
  match rest with
  | c :: _ =>
    if c.isDigit then
      readScale negative significand (exponent - count) (rest.dropWhile Char.isDigit)
    else if count = 0 then none
    else readScale negative significand (exponent - count) rest
  | [] => if count = 0 then none else readScale negative significand (exponent - count) []

/-- Reads what follows the integer digits of a number. -/
def readTail (negative : Bool) (significand : Nat) (cs : List Char) : Reading JsonNumber :=
  match cs with
  | '.' :: rest => readFraction negative significand 0 rest
  | 'e' :: rest => readExponent negative significand 0 rest
  | 'E' :: rest => readExponent negative significand 0 rest
  | rest =>
    if !negative then some (.int significand, rest)
    else if significand = 0 || Nat.pow 2 63 < significand then
      some (.double (-significand.toUInt64.toFloat).toBits, rest)
    else some (.int (-significand), rest)

/-- Reads the integer digits that no longer fit, and what follows them. -/
def readLong (negative : Bool) (significand : Nat) (cs : List Char) : Reading JsonNumber :=
  let extra := (cs.takeWhile Char.isDigit).length
  match cs.dropWhile Char.isDigit with
  | '.' :: rest => readFraction negative significand extra rest
  | rest => readScale negative significand extra rest

/-- Reads a number after its sign. -/
def readUnsigned (negative : Bool) (cs : List Char) : Reading JsonNumber :=
  match cs with
  | '0' :: rest =>
    match rest with
    | c :: _ => if c.isDigit then none else readTail negative 0 rest
    | [] => readTail negative 0 []
  | c :: _ =>
    if !c.isDigit then none
    else
      let (significand, _, rest) := readDigits 0 0 cs
      match rest with
      | d :: _ =>
        if d.isDigit then readLong negative significand rest
        else readTail negative significand rest
      | [] => readTail negative significand []
  | [] => none

/-- Reads a number. -/
def readNumber : List Char → Reading JsonNumber
  | '-' :: rest => readUnsigned true rest
  | cs => readUnsigned false cs

/-! ### Strings -/

/-- The value of a hexadecimal digit. -/
def hexValue? (c : Char) : Option Nat :=
  if '0' ≤ c ∧ c ≤ '9' then some (c.toNat - '0'.toNat)
  else if 'a' ≤ c ∧ c ≤ 'f' then some (c.toNat - 'a'.toNat + 10)
  else if 'A' ≤ c ∧ c ≤ 'F' then some (c.toNat - 'A'.toNat + 10)
  else none

/-- The number that four hexadecimal digits stand for. -/
def hexUnit? (a b c d : Char) : Option Nat := do
  let a ← hexValue? a
  let b ← hexValue? b
  let c ← hexValue? c
  let d ← hexValue? d
  return a * 4096 + b * 256 + c * 16 + d

/-- The character of a one-letter escape. -/
def plainEscape? (c : Char) : Option Char :=
  if c = '"' then some '"'
  else if c = '\\' then some '\\'
  else if c = '/' then some '/'
  else if c = 'b' then some '\x08'
  else if c = 'f' then some '\x0c'
  else if c = 'n' then some '\n'
  else if c = 'r' then some '\r'
  else if c = 't' then some '\t'
  else none

/-- Reads a string after its opening quote; `done` holds what was read in reverse. Halves of a
    surrogate pair must stand together, and control characters must be escaped. -/
def readStringFrom (done : List Char) : List Char → Reading String
  | [] => none
  | '"' :: rest => some (String.ofList done.reverse, rest)
  | '\\' :: 'u' :: a :: b :: c :: d :: rest =>
    match hexUnit? a b c d with
    | none => none
    | some unit =>
      if unit < 0xd800 ∨ 0xdfff < unit then readStringFrom (Char.ofNat unit :: done) rest
      else if 0xdc00 ≤ unit then none
      else match rest with
        | '\\' :: 'u' :: e :: f :: g :: h :: rest =>
          match hexUnit? e f g h with
          | none => none
          | some low =>
            if 0xdc00 ≤ low ∧ low ≤ 0xdfff then
              let code := 0x10000 + (unit - 0xd800) * 0x400 + (low - 0xdc00)
              readStringFrom (Char.ofNat code :: done) rest
            else none
        | _ => none
  | '\\' :: c :: rest =>
    match plainEscape? c with
    | some plain => readStringFrom (plain :: done) rest
    | none => none
  | c :: rest => if c.toNat < 0x20 ∨ c = '\\' then none else readStringFrom (c :: done) rest

/-! ### Values -/

/-- Reads the items of an array from the first one on, each with `readItem`; `done` holds the
    items before in reverse. -/
def readItems (readItem : List Char → Reading Json) (done : List Json) :
    Nat → List Char → Reading Json
  | 0, _ => none
  | fuel + 1, cs =>
    match readItem (skipGaps cs) with
    | none => none
    | some (item, rest) =>
      match skipGaps rest with
      | ',' :: rest => readItems readItem (item :: done) fuel rest
      | ']' :: rest => some (.array (item :: done).reverse, rest)
      | _ => none

/-- Reads the fields of an object from the first one on, each value with `readItem`. -/
def readFields (readItem : List Char → Reading Json) (done : List (String × Json)) :
    Nat → List Char → Reading Json
  | 0, _ => none
  | fuel + 1, cs =>
    match skipGaps cs with
    | '"' :: rest =>
      match readStringFrom [] rest with
      | none => none
      | some (name, rest) =>
        match skipGaps rest with
        | ':' :: rest =>
          match readItem (skipGaps rest) with
          | none => none
          | some (value, rest) =>
            match skipGaps rest with
            | ',' :: rest => readFields readItem ((name, value) :: done) fuel rest
            | '\x7d' :: rest => some (.object ((name, value) :: done).reverse, rest)
            | _ => none
        | _ => none
    | _ => none

/-- Reads a value that starts at the first character and nests at most `depth` levels; no array
    or object has more than `limit` members. -/
def readValue (limit : Nat) : Nat → List Char → Reading Json
  | depth, cs =>
    match cs with
    | 'n' :: 'u' :: 'l' :: 'l' :: rest => some (.null, rest)
    | 't' :: 'r' :: 'u' :: 'e' :: rest => some (.bool true, rest)
    | 'f' :: 'a' :: 'l' :: 's' :: 'e' :: rest => some (.bool false, rest)
    | '"' :: rest => (readStringFrom [] rest).map fun (text, rest) => (.string text, rest)
    | '[' :: rest =>
      match depth with
      | 0 => none
      | depth + 1 =>
        match skipGaps rest with
        | ']' :: rest => some (.array [], rest)
        | rest => readItems (readValue limit depth) [] limit rest
    | '\x7b' :: rest =>
      match depth with
      | 0 => none
      | depth + 1 =>
        match skipGaps rest with
        | '\x7d' :: rest => some (.object [], rest)
        | rest => readFields (readValue limit depth) [] limit rest
    | rest => (readNumber rest).map fun (value, rest) => (.number value, rest)

/-- Reads a whole text, blanks around the value allowed, as a tree. -/
def readTree (text : String) : Option Json :=
  let cs := text.toList
  match readValue (cs.length + 1) maxDepth (skipGaps cs) with
  | some (value, rest) => if (skipGaps rest).isEmpty then some value else none
  | none => none

/-- Reads a whole text as a canonical value. -/
def read (text : String) : Option Json := (readTree text).map canonical

end SymbolSearch.Json
