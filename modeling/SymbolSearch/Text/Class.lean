import SymbolSearch.Text.Property

/-!
# Character classes

The classes of characters that the formats and the text scan speak of, and the cuts of a text
that they define.

* `isBlank` is the Unicode property White_Space, which decides what `trim` removes.
* `isAlphanumeric` and `isWord` decide which characters belong to identifiers and words.
-/

namespace SymbolSearch.Text

/-- Whether the character has the Unicode property White_Space. -/
def isBlank (c : Char) : Bool :=
  let n := c.toNat
  (9 ≤ n && n ≤ 13) || n == 0x20 || n == 0x85 || n == 0xa0 || n == 0x1680
    || (0x2000 ≤ n && n ≤ 0x200a) || n == 0x2028 || n == 0x2029 || n == 0x202f || n == 0x205f
    || n == 0x3000

/-- Whether the character is alphabetic or a number, in any script. -/
def isAlphanumeric (c : Char) : Bool :=
  if c.toNat < 128 then c.isAlphanum
  else Property.alphabetic.contains c || Property.numeric.contains c

/-- Whether the character belongs to words: letters, marks, digits, connectors and joiners. -/
def isWord (c : Char) : Bool :=
  if c.toNat < 128 then c.isAlphanum || c == '_'
  else Property.alphabetic.contains c || Property.wordContinuation.contains c

/-- The characters left when blanks are removed from both ends. -/
def trimChars (cs : List Char) : List Char :=
  ((cs.dropWhile isBlank).reverse.dropWhile isBlank).reverse

/-- The text without the blanks at its ends. -/
def trim (text : String) : String := String.ofList (trimChars text.toList)

/-- The text with its ASCII capitals made small. -/
def asciiLower (text : String) : String := String.ofList (text.toList.map Char.toLower)

/-- Whether two texts differ at most in the case of ASCII letters. -/
def eqIgnoringAsciiCase (a b : String) : Bool := asciiLower a == asciiLower b

/-- Whether `part` occurs in `whole` as consecutive characters. -/
def occursIn (part : List Char) : List Char → Bool
  | [] => part.isEmpty
  | c :: rest => part.isPrefixOf (c :: rest) || occursIn part rest

/-- The number of UTF-16 units of a character. -/
def charUnits (c : Char) : Nat := if c.toNat < 0x10000 then 1 else 2

/-- The number of UTF-16 units of a list of characters, which is how columns are counted. -/
def unitsOf (cs : List Char) : Nat := cs.foldl (fun units c => units + charUnits c) 0

/-- Cuts a text into lines at each line feed; a line loses one carriage return before its line
    feed, and no empty line follows the last line feed. There are no more lines than numbers of 32
    bits for them. -/
def linesOf (cs : List Char) : List (List Char) :=
  (go [] [] cs).take UInt32.size
where
  /-- `done` holds the finished lines and `line` the current one, both in reverse. -/
  go (done : List (List Char)) (line : List Char) : List Char → List (List Char)
    | [] => (if line.isEmpty then done else line.reverse :: done).reverse
    | '\n' :: rest =>
      go ((match line with | '\r' :: kept => kept | kept => kept).reverse :: done) [] rest
    | c :: rest => go done (c :: line) rest

end SymbolSearch.Text
