import SymbolSearch.Text.Property

/-!
# Quoted text in messages

Messages show a name between quotes, with every character that a reader could not see spelt out.

* `quoted` is the form of a text, between double quotes.
* `quotedChar` is the form of one character, between single quotes.
-/

namespace SymbolSearch.Text

/-- The hexadecimal digits of a number, most significant first. -/
def hexDigits (n : Nat) : List Char := Nat.toDigits 16 n

/-- The spelling of one character inside quotes of the given kind. -/
def escapeChar (quote : Char) (c : Char) : List Char :=
  if c = '\x00' then ['\\', '0']
  else if c = '\t' then ['\\', 't']
  else if c = '\r' then ['\\', 'r']
  else if c = '\n' then ['\\', 'n']
  else if c = '\\' || c = quote then ['\\', c]
  else if c.toNat < 0x7f && 0x20 ≤ c.toNat then [c]
  else if Property.graphemeExtend.contains c || Property.unprintable.contains c then
    ['\\', 'u', '\x7b'] ++ hexDigits c.toNat ++ ['\x7d']
  else [c]

/-- A text between double quotes. -/
def quoted (text : String) : String :=
  String.ofList ('"' :: text.toList.flatMap (escapeChar '"') ++ ['"'])

/-- A character between single quotes. -/
def quotedChar (c : Char) : String :=
  String.ofList ('\'' :: escapeChar '\'' c ++ ['\''])

end SymbolSearch.Text
