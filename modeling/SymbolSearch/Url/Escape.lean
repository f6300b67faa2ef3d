/-!
# Escapes in URLs

A byte that may not stand for itself in a part of a URL is written as a percent sign and two
digits. Which characters have to be escaped depends on the part.

* `Url.escape` writes characters with escapes, and `Url.unescape` gives the bytes of a text with
  escapes.
-/

namespace SymbolSearch.Url

/-! ### What is escaped where -/

/-- Control characters and all characters outside ASCII. -/
def escapedAlways (c : Char) : Bool := c.toNat < 0x20 || 0x7f ≤ c.toNat

/-- What is escaped in a fragment. -/
def escapedInFragment (c : Char) : Bool := escapedAlways c || c ∈ [' ', '"', '<', '>', '`']

/-- What is escaped in a path. -/
def escapedInPath (c : Char) : Bool := escapedInFragment c || c ∈ ['#', '?', '\x7b', '\x7d']

/-- What is escaped in the name of a file that becomes a part of a path. -/
def escapedInName (c : Char) : Bool := escapedInPath c || c ∈ ['/', '%', '\\']

/-- What is escaped in a user or a password. -/
def escapedInUser (c : Char) : Bool :=
  escapedInPath c || c ∈ ['/', ':', ';', '=', '@', '[', '\\', ']', '^', '|']

/-- What is escaped in a query; in one of a special scheme, single quotation marks are, too. -/
def escapedInQuery (isSpecial : Bool) (c : Char) : Bool :=
  escapedAlways c || c ∈ [' ', '"', '#', '<', '>'] || (isSpecial && c = '\'')

/-! ### Escaping -/

/-- A byte as a percent sign and two digits. -/
def percentByte (byte : UInt8) : List Char :=
  let digit (n : Nat) : Char := Char.ofNat (if n < 10 then n + '0'.toNat else n - 10 + 'A'.toNat)
  ['%', digit (byte.toNat / 16), digit (byte.toNat % 16)]

/-- A character as the escapes of its bytes. -/
def percentChar (c : Char) : List Char := (String.singleton c).toUTF8.toList.flatMap percentByte

/-- Characters with escapes for those that need them. -/
def escape (isEscaped : Char → Bool) (cs : List Char) : List Char :=
  cs.flatMap fun c => if isEscaped c then percentChar c else [c]

/-- The value of a hexadecimal digit. -/
def hexDigit? (c : Char) : Option Nat :=
  if '0' ≤ c && c ≤ '9' then some (c.toNat - '0'.toNat)
  else if 'a' ≤ c && c ≤ 'f' then some (c.toNat - 'a'.toNat + 10)
  else if 'A' ≤ c && c ≤ 'F' then some (c.toNat - 'A'.toNat + 10)
  else none

/-- The bytes of a text with escapes. A percent sign without two digits stands for itself. -/
def unescape : List Char → List UInt8
  | [] => []
  | '%' :: a :: b :: rest =>
    match hexDigit? a, hexDigit? b with
    | some high, some low => (high * 16 + low).toUInt8 :: unescape rest
    | _, _ => '%'.toNat.toUInt8 :: unescape (a :: b :: rest)
  | c :: rest => (String.singleton c).toUTF8.toList ++ unescape rest

end SymbolSearch.Url
