import SymbolSearch.Json.Basic

/-!
# Writing JSON

A double is written with the fewest significant digits that still identify it.

* `Double` is the exact value `mantissa * 2 ^ exponent` of a finite, positive double.
* `Double.shortest` tries one digit, two digits, and so on; on each decimal grid only the two
  neighbours of the value can lie in the interval of reals that round to it.
* `Json.compact` is the form on the wire: no blanks, fields in the order of the tree.
* `Json.pretty` is the form for readers: two blanks of indentation for each level.
-/

namespace SymbolSearch.Decimal

/-! ### The shortest decimal that reads back -/

/-- A finite, positive double, exactly: `mantissa * 2 ^ exponent`. -/
structure Double where
  mantissa : Nat
  exponent : Int
  /-- Whether the double below is only half as far away as the double above. -/
  atPowerOfTwo : Bool

/-- Digits `digits * 10 ^ exponent`. -/
structure Digits where
  digits : Nat
  exponent : Int
  deriving DecidableEq, Repr

namespace Double

/-- The double with the given bits, its sign dropped. -/
def ofBits (bits : UInt64) : Double :=
  let field : Nat := (bits.toNat / Nat.pow 2 52) % Nat.pow 2 11
  let fraction : Nat := bits.toNat % Nat.pow 2 52
  if field = 0 then ⟨fraction, -1074, false⟩
  else ⟨fraction + Nat.pow 2 52, (field : Int) - 1075, fraction == 0 && field > 1⟩

/-- The value in quarters of the unit `2 ^ exponent`, with both ends of the interval of reals
    that round to it. -/
def quarters (d : Double) : Nat × Nat × Nat :=
  (4 * d.mantissa - (if d.atPowerOfTwo then 1 else 2), 4 * d.mantissa, 4 * d.mantissa + 2)

/-- The fraction `num / den` that `x` quarters stand for. -/
def scale (d : Double) (x : Nat) : Nat × Nat :=
  let e := d.exponent - 2
  if 0 ≤ e then (x * Nat.pow 2 e.toNat, 1) else (x, Nat.pow 2 (-e).toNat)

/-- The exponent of the leading decimal digit of `num / den`, both positive. -/
def leadingExponent (num den : Nat) : Int :=
  let guess : Int := (Nat.toDigits 10 num).length - (Nat.toDigits 10 den).length
  let reaches (k : Int) : Bool :=
    if 0 ≤ k then den * Nat.pow 10 k.toNat ≤ num else den ≤ num * Nat.pow 10 (-k).toNat
  if reaches guess then guess else guess - 1

/-- The candidate with `count` digits that lies in the interval, if one of the two does; of two
    the nearer, of two equally near the even one. -/
def onGrid (d : Double) (count : Nat) : Option Digits :=
  let (low, value, high) := d.quarters
  let (num, den) := d.scale value
  let unit := leadingExponent num den - count + 1
  -- Everything is compared after division by `10 ^ unit`.
  let (mul, div) := if 0 ≤ unit then (1, Nat.pow 10 unit.toNat) else (Nat.pow 10 (-unit).toNat, 1)
  let lowNum := (d.scale low).1 * mul
  let valueNum := num * mul
  let highNum := (d.scale high).1 * mul
  let bottom := den * div
  let below := valueNum / bottom
  let closed := d.mantissa % 2 == 0
  let inside (n : Nat) : Bool :=
    if closed then lowNum ≤ n * bottom && n * bottom ≤ highNum
    else lowNum < n * bottom && n * bottom < highNum
  let twice := 2 * (valueNum - below * bottom)
  let nearer : Nat :=
    if twice < bottom then below
    else if bottom < twice then below + 1
    else if below % 2 = 0 then below else below + 1
  let farther : Nat := if nearer = below then below + 1 else below
  if inside nearer then some ⟨nearer, unit⟩
  else if inside farther then some ⟨farther, unit⟩
  else none

/-- Moves the zeros at the end of the digits into the exponent. -/
def stripZeros : Nat → Digits → Digits
  | 0, x => x
  | fuel + 1, x =>
    if x.digits ≠ 0 ∧ x.digits % 10 = 0 then stripZeros fuel ⟨x.digits / 10, x.exponent + 1⟩
    else x

/-- The fewest digits that read back as the double. -/
def shortest (d : Double) : Digits :=
  match (List.range 17).findSome? fun k => d.onGrid (k + 1) with
  | some found => stripZeros 20 found
  | none => ⟨d.mantissa, d.exponent⟩

end Double

end SymbolSearch.Decimal

namespace SymbolSearch.Json

/-! ### Writing -/

open Decimal

/-- The escape of a control character. -/
def controlEscape (c : Char) : List Char :=
  if c = '\x08' then ['\\', 'b']
  else if c = '\t' then ['\\', 't']
  else if c = '\n' then ['\\', 'n']
  else if c = '\x0c' then ['\\', 'f']
  else if c = '\r' then ['\\', 'r']
  else
    let digits := Nat.toDigits 16 c.toNat
    ['\\', 'u'] ++ List.replicate (4 - digits.length) '0' ++ digits

/-- One character inside a string: quotes, backslashes and control characters are escaped. -/
def escape (c : Char) : List Char :=
  if c = '"' then ['\\', '"']
  else if c = '\\' then ['\\', '\\']
  else if c.toNat < 0x20 then controlEscape c
  else [c]

/-- A string between quotes. -/
def writeString (text : String) : List Char :=
  '"' :: text.toList.flatMap escape ++ ['"']

/-- The digits of a double: positional while the point stays within the first sixteen digits
    or after at most four leading zeros, else with an exponent. -/
def writeDigits (x : Digits) : List Char :=
  let digits := Nat.toDigits 10 x.digits
  let count : Int := digits.length
  let point := count + x.exponent
  if 0 ≤ x.exponent && point ≤ 16 then
    digits ++ List.replicate x.exponent.toNat '0' ++ ['.', '0']
  else if 0 < point && point ≤ 16 then
    digits.take point.toNat ++ '.' :: digits.drop point.toNat
  else if -5 < point && point ≤ 0 then
    ['0', '.'] ++ List.replicate (-point).toNat '0' ++ digits
  else
    let power := (toString (point - 1)).toList
    match digits with
    | [d] => d :: 'e' :: power
    | d :: rest => d :: '.' :: rest ++ 'e' :: power
    | [] => []

/-- The text of a finite double. -/
def writeDouble (bits : UInt64) : List Char :=
  let sign := if bits.toNat ≥ Nat.pow 2 63 then ['-'] else []
  if bits.toNat % Nat.pow 2 63 = 0 then sign ++ ['0', '.', '0']
  else sign ++ writeDigits (Double.ofBits bits).shortest

/-- The decimal text of an integer. -/
def writeInt (value : Int) : List Char :=
  if value < 0 then '-' :: Nat.toDigits 10 value.natAbs else Nat.toDigits 10 value.natAbs

/-- The text of a number. -/
def writeNumber : JsonNumber → List Char
  | .int value => writeInt value
  | .double bits => writeDouble bits

mutual

/-- The compact text of a value. -/
def write : Json → List Char
  | .null => ['n', 'u', 'l', 'l']
  | .bool true => ['t', 'r', 'u', 'e']
  | .bool false => ['f', 'a', 'l', 's', 'e']
  | .number value => writeNumber value
  | .string text => writeString text
  | .array [] => ['[', ']']
  | .array (item :: rest) => '[' :: write item ++ writeItems rest
  | .object [] => ['\x7b', '\x7d']
  | .object ((name, value) :: rest) =>
    '\x7b' :: writeString name ++ ':' :: write value ++ writeFields rest

/-- The items after the first, and the closing bracket. -/
def writeItems : List Json → List Char
  | [] => [']']
  | item :: rest => ',' :: write item ++ writeItems rest

/-- The fields after the first, and the closing brace. -/
def writeFields : List (String × Json) → List Char
  | [] => ['\x7d']
  | (name, value) :: rest =>
    ',' :: writeString name ++ ':' :: write value ++ writeFields rest

end

/-- The compact text of a value. -/
def compact (json : Json) : String := String.ofList (write json)

/-- A line break followed by the indentation of a level. -/
def lineBreak (level : Nat) : List Char := '\n' :: List.replicate (2 * level) ' '

mutual

/-- The indented text of a value at the given level. -/
def writeIndented (level : Nat) : Json → List Char
  | .array [] => ['[', ']']
  | .array (item :: rest) =>
    '[' :: lineBreak (level + 1) ++ writeIndented (level + 1) item ++ indentedItems level rest
  | .object [] => ['\x7b', '\x7d']
  | .object ((name, value) :: rest) =>
    '\x7b' :: lineBreak (level + 1) ++ writeString name ++ ':' :: ' ' ::
      writeIndented (level + 1) value ++ indentedFields level rest
  | other => write other

/-- The items after the first, each on lines of its own. -/
def indentedItems (level : Nat) : List Json → List Char
  | [] => lineBreak level ++ [']']
  | item :: rest =>
    ',' :: lineBreak (level + 1) ++ writeIndented (level + 1) item ++ indentedItems level rest

/-- The fields after the first, each on lines of its own. -/
def indentedFields (level : Nat) : List (String × Json) → List Char
  | [] => lineBreak level ++ ['\x7d']
  | (name, value) :: rest =>
    ',' :: lineBreak (level + 1) ++ writeString name ++ ':' :: ' ' ::
      writeIndented (level + 1) value ++ indentedFields level rest

end

/-- The indented text of a value. -/
def pretty (json : Json) : String := String.ofList (writeIndented 0 json)

end SymbolSearch.Json
