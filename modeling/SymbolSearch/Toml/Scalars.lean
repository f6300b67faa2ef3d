import SymbolSearch.Toml.Basic

/-!
# Numbers, dates and strings in TOML

* `Toml.integer?` reads the spelling of an integer: decimal with or without sign, or with a prefix
  in base 16, 8 or 2. Single underscores may stand between digits.
* `Toml.float?` reads the spelling of a number with a fraction or an exponent, or of one that is
  infinite or no number at all; one that no double comes near is refused.
* `Toml.moment?` reads a date, a time of day, or both with or without an offset from UTC, and gives
  its usual spelling: a capital T between date and time, a capital Z for no offset, and no zeros at
  the end of a fraction.
* `Toml.readString` reads a string in any of the four forms: between double quotes with escapes, or
  between single quotes without, on one line between single marks or on many between triple ones.

The characters of a reader start behind the opening quote.
-/

namespace SymbolSearch.Toml

/-! ### Numbers -/

/-- The value of a digit in bases up to 16. -/
def digitValue? (base : Nat) (c : Char) : Option Nat :=
  let value :=
    if '0' ≤ c && c ≤ '9' then some (c.toNat - '0'.toNat)
    else if 'a' ≤ c && c ≤ 'f' then some (c.toNat - 'a'.toNat + 10)
    else if 'A' ≤ c && c ≤ 'F' then some (c.toNat - 'A'.toNat + 10)
    else none
  value.filter (· < base)

/-- The values of the digits, between which single underscores may stand. -/
def digits? (base : Nat) : List Char → Option (List Nat)
  | [] => none
  | [c] => do return [← digitValue? base c]
  | c :: '_' :: rest => do return (← digitValue? base c) :: (← digits? base rest)
  | c :: rest => do return (← digitValue? base c) :: (← digits? base rest)

/-- The number with the given digits, the most significant first. -/
def ofDigits (base : Nat) (digits : List Nat) : Nat :=
  digits.foldl (fun value digit => value * base + digit) 0

/-- Cuts a sign off; the first part says whether it is a minus. -/
def signOf : List Char → Bool × List Char
  | '-' :: rest => (true, rest)
  | '+' :: rest => (false, rest)
  | rest => (false, rest)

/-- The digits of a whole number without sign, which have no zero in front. -/
def wholeDigits? (cs : List Char) : Option (List Nat) := do
  let digits ← digits? 10 cs
  match digits with
  | 0 :: _ :: _ => none
  | digits => some digits

/-- The bounds of integers: those of 128 bits, with a sign below zero. -/
def inIntegerBounds (value : Int) : Bool :=
  -((Nat.pow 2 127 : Nat) : Int) ≤ value && value < ((Nat.pow 2 128 : Nat) : Int)

/-- Reads the spelling of an integer. -/
def integer? (cs : List Char) : Option Int := do
  let value ← match cs with
    | '0' :: 'x' :: rest => (digits? 16 rest).map fun digits => (ofDigits 16 digits : Int)
    | '0' :: 'o' :: rest => (digits? 8 rest).map fun digits => (ofDigits 8 digits : Int)
    | '0' :: 'b' :: rest => (digits? 2 rest).map fun digits => (ofDigits 2 digits : Int)
    | cs =>
      let (negative, rest) := signOf cs
      (wholeDigits? rest).map fun digits =>
        if negative then -(ofDigits 10 digits : Int) else ofDigits 10 digits
  if inIntegerBounds value then some value else none

/-- Whether `significand` scaled by `10 ^ exponent` lies so high that no double is near: at or
    above the middle between the greatest double and the next power of two. -/
def exceedsDoubles (significand : Nat) (exponent : Int) : Bool :=
  let bound := Nat.pow 2 1024 - Nat.pow 2 970
  let size := (Nat.toDigits 10 significand).length
  if significand = 0 then false
  else if exponent + size > 400 then true
  else if exponent + size < 300 then false
  else if 0 ≤ exponent then bound ≤ significand * Nat.pow 10 exponent.toNat
  else bound * Nat.pow 10 exponent.natAbs ≤ significand

/-- Cuts characters in front of the first one that passes a test. -/
def cutBefore (stops : Char → Bool) (cs : List Char) : List Char × List Char :=
  (cs.takeWhile (!stops ·), cs.dropWhile (!stops ·))

/-- Reads the spelling of a float, without its sign. -/
def isFloat (cs : List Char) : Bool :=
  if cs = "inf".toList || cs = "nan".toList then true
  else
    let (mantissa, power) := cutBefore (fun c => c = 'e' || c = 'E') cs
    let (whole, fraction) := cutBefore (· = '.') mantissa
    let read := do
      let wholeDigits ← wholeDigits? whole
      let fractionDigits ← match fraction with
        | [] => some []
        | _ :: rest => digits? 10 rest
      let exponent ← match power with
        | [] => if fraction.isEmpty then none else some 0
        | _ :: rest =>
          let (negative, rest) := signOf rest
          (digits? 10 rest).map fun digits =>
            if negative then -(ofDigits 10 digits : Int) else ofDigits 10 digits
      return (ofDigits 10 (wholeDigits ++ fractionDigits), exponent - fractionDigits.length)
    match read with
    | some (significand, exponent) => !exceedsDoubles significand exponent
    | none => false

/-- Reads the spelling of a float. -/
def float? (cs : List Char) : Option String :=
  if isFloat (signOf cs).2 then some (String.ofList cs) else none

/-! ### Dates and times -/

/-- Reads a number of exactly `width` digits that lies between two bounds. -/
def fixedDigits (width low high : Nat) (cs : List Char) : Option (Nat × List Char) := do
  let digits := cs.take width
  if digits.length = width ∧ digits.all Char.isDigit then
    let value := ofDigits 10 (digits.map fun c => c.toNat - '0'.toNat)
    if low ≤ value ∧ value ≤ high then some (value, cs.drop width) else none
  else none

/-- Reads one given character. -/
def expectChar (expected : Char) : List Char → Option (List Char)
  | c :: rest => if c = expected then some rest else none
  | [] => none

/-- The number of days of a month. -/
def daysIn (year month : Nat) : Nat :=
  if month = 2 then
    (if year % 4 = 0 && (year % 100 ≠ 0 || year % 400 = 0) then 29 else 28)
  else if [4, 6, 9, 11].contains month then 30
  else 31

/-- A number in decimal, with zeros in front up to `width` digits. -/
def padded (width n : Nat) : List Char :=
  let digits := Nat.toDigits 10 n
  List.replicate (width - digits.length) '0' ++ digits

/-- Reads a date. -/
def datePart (cs : List Char) : Option (List Char × List Char) := do
  let (year, cs) ← fixedDigits 4 0 9999 cs
  let (month, cs) ← fixedDigits 2 1 12 (← expectChar '-' cs)
  let (day, cs) ← fixedDigits 2 1 (daysIn year month) (← expectChar '-' cs)
  return (padded 4 year ++ '-' :: padded 2 month ++ '-' :: padded 2 day, cs)

/-- The digits of a fraction of a second as far as they count, without zeros at the end. -/
def fractionText (digits : List Char) : List Char :=
  match ((digits.take 9).reverse.dropWhile (· = '0')).reverse with
  | [] => ['0']
  | kept => kept

/-- Reads the seconds of a time, if it has any. -/
def secondsPart : List Char → Option (List Char × List Char)
  | ':' :: cs => do
    let (second, cs) ← fixedDigits 2 0 60 cs
    let text := ':' :: padded 2 second
    match cs with
    | '.' :: rest =>
      let digits := rest.takeWhile Char.isDigit
      if digits.isEmpty then none
      else return (text ++ '.' :: fractionText digits, rest.dropWhile Char.isDigit)
    | cs => return (text, cs)
  | cs => some ([], cs)

/-- Reads a time of day. -/
def timePart (cs : List Char) : Option (List Char × List Char) := do
  let (hour, cs) ← fixedDigits 2 0 23 cs
  let (minute, cs) ← fixedDigits 2 0 59 (← expectChar ':' cs)
  let (seconds, cs) ← secondsPart cs
  return (padded 2 hour ++ ':' :: padded 2 minute ++ seconds, cs)

/-- Reads an offset from UTC, if there is one. -/
def offsetPart : List Char → Option (List Char × List Char)
  | [] => some ([], [])
  | c :: cs =>
    if c = 'Z' || c = 'z' then some (['Z'], cs)
    else if c = '+' || c = '-' then do
      let (hour, cs) ← fixedDigits 2 0 23 cs
      let (minute, cs) ← fixedDigits 2 0 59 (← expectChar ':' cs)
      return (c :: padded 2 hour ++ ':' :: padded 2 minute, cs)
    else none

/-- Reads what follows a date: nothing, or a time of day with or without an offset. -/
def afterDate : List Char → Option (List Char)
  | [] => some []
  | c :: cs =>
    if c = 'T' || c = 't' || c = ' ' then do
      let (time, cs) ← timePart cs
      let (offset, cs) ← offsetPart cs
      if cs.isEmpty then return 'T' :: time ++ offset else none
    else none

/-- Reads a moment. -/
def moment? (cs : List Char) : Option String :=
  match datePart cs with
  | some (date, rest) => (afterDate rest).map fun text => String.ofList (date ++ text)
  | none =>
    match timePart cs with
    | some (time, []) => some (String.ofList time)
    | _ => none

/-! ### Strings -/

/-- What a reader of a text finds: its characters and what follows. -/
abbrev TextReading := Option (List Char × List Char)

/-- Whether the character may stand in a string or a comment as it is. -/
def isPlainChar (c : Char) : Bool := c = '\t' || (0x20 ≤ c.toNat && c.toNat ≠ 0x7f)

/-- The character that exactly `width` hexadecimal digits stand for. -/
def hexChar (width : Nat) (cs : List Char) : Option (Char × List Char) := do
  let digits := cs.take width
  if digits.length ≠ width then none
  else
    let values ← digits.mapM (digitValue? 16)
    let code := ofDigits 16 values
    if h : code.isValidChar then some (Char.ofNatAux code h, cs.drop width) else none

/-- Reads an escape, from the character after the backslash. -/
def readEscape : List Char → Option (Char × List Char)
  | [] => none
  | c :: rest =>
    match c with
    | 'b' => some ('\x08', rest)
    | 't' => some ('\t', rest)
    | 'n' => some ('\n', rest)
    | 'f' => some ('\x0c', rest)
    | 'r' => some ('\r', rest)
    | 'e' => some ('\x1b', rest)
    | '"' => some ('"', rest)
    | '\\' => some ('\\', rest)
    | 'x' => hexChar 2 rest
    | 'u' => hexChar 4 rest
    | 'U' => hexChar 8 rest
    | _ => none

/-- Reads a string on one line up to the quote; `done` holds its characters in reverse. -/
def readLine (quote : Char) : Nat → List Char → List Char → TextReading
  | 0, _, _ => none
  | _ + 1, _, [] => none
  | limit + 1, done, c :: rest =>
    if c = quote then some (done.reverse, rest)
    else if c = '\\' && quote = '"' then do
      let (escaped, rest) ← readEscape rest
      readLine quote limit (escaped :: done) rest
    else if isPlainChar c then readLine quote limit (c :: done) rest
    else none

/-- Cuts a line end off. -/
def lineEnd? : List Char → Option (List Char)
  | '\n' :: rest => some rest
  | '\r' :: '\n' :: rest => some rest
  | _ => none

/-- Whether the character is a blank, a line feed or a carriage return. -/
def isSpace (c : Char) : Bool := c = ' ' || c = '\t' || c = '\n' || c = '\r'

/-- Skips blanks and line ends after a backslash at the end of a line. -/
def skipFold (cs : List Char) : Option (List Char) := do
  let rest ← lineEnd? (cs.dropWhile fun c => c = ' ' || c = '\t')
  return rest.dropWhile isSpace

/-- Reads a string on many lines up to three quotes; as many as two more before them belong to the
    string. `done` holds its characters in reverse. -/
def readLines (quote : Char) : Nat → List Char → List Char → TextReading
  | 0, _, _ => none
  | _ + 1, _, [] => none
  | limit + 1, done, c :: rest =>
    if c = quote then
      let more := (rest.takeWhile (· = quote)).length
      if more < 2 then readLines quote limit (c :: done) rest
      else if more ≤ 4 then
        some ((List.replicate (more - 2) quote ++ done).reverse, rest.drop more)
      else none
    else if c = '\\' && quote = '"' then
      match readEscape rest with
      | some (escaped, rest) => readLines quote limit (escaped :: done) rest
      | none =>
        match skipFold rest with
        | some rest => readLines quote limit done rest
        | none => none
    else if c = '\n' then readLines quote limit (c :: done) rest
    else if c = '\r' then
      match rest with
      | '\n' :: rest => readLines quote limit ('\n' :: c :: done) rest
      | _ => none
    else if isPlainChar c then readLines quote limit (c :: done) rest
    else none

/-- Reads a string behind its first quote. A line end right behind three quotes is skipped. -/
def readString (quote : Char) (limit : Nat) (cs : List Char) : TextReading :=
  match cs with
  | a :: b :: rest =>
    if a = quote && b = quote then readLines quote limit [] ((lineEnd? rest).getD rest)
    else readLine quote limit [] cs
  | cs => readLine quote limit [] cs

end SymbolSearch.Toml
