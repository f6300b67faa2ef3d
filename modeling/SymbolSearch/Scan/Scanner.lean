import SymbolSearch.Files.Uri
import SymbolSearch.Files.Walk
import SymbolSearch.Settings
import SymbolSearch.Symbol
import SymbolSearch.Text.Class
import SymbolSearch.Text.Lower
import SymbolSearch.Text.Pattern

/-!
# The text scan

What a line that declares a symbol looks like, language by language.

* `Language.ofId` is the language that a server's language name stands for.
* `Language.rules` are the forms of its declarations; the first one that a line has decides, and
  its named piece is the symbol's name.

Finds symbols and references in the text of files, when no server can tell.

* `identifierAt?` is the identifier that a column touches; `offsetOf` is the number of characters
  before a column, where columns count UTF-16 units.
* `Scanner.document` lists the symbols that the lines of one document declare.
* `Scanner.workspace` lists those of all files below the root whose names contain a text.
* `Scanner.references` lists where the identifier at a position occurs as a word.
-/

namespace SymbolSearch

/-! ### Declarations by language -/

open Text (Pattern)

/-- A language whose declarations the text scan knows. -/
inductive Language where
  | rust | python | typescript | go | java
  /-- Any other language. -/
  | other
  deriving DecidableEq, Repr

/-- A form of declarations, with the kind of symbol that it declares. -/
structure DeclarationRule where
  pattern : Pattern Char
  kind : SymbolKind

namespace DeclarationRule

/-- The given text. -/
def text (word : String) : Pattern Char := .exactly word.toList

/-- One of the given words. -/
def oneOf (words : List String) : Pattern Char := .choice (words.map text)

/-- Any number of blanks. -/
def blanks : Pattern Char := .many true (.one Text.isBlank)

/-- One blank or more. -/
def gap : Pattern Char := .repeated (.one Text.isBlank)

/-- A word and the gap after it. -/
def spaced (word : String) : Pattern Char := .seq (text word) gap

/-- A word and the gap after it, if they are there. -/
def modifier (word : String) : Pattern Char := .optional (spaced word)

/-- Any number of the words, each with the gap after it. -/
def modifiers (words : List String) : Pattern Char := .many true (.seq (oneOf words) gap)

/-- Whether the character is an ASCII letter or an underscore. -/
def isNameStart (c : Char) : Bool := c.isAlpha || c = '_'

/-- The declared name, from its first character and those that go on with it. -/
def nameOf (start rest : Char → Bool) : Pattern Char :=
  .named (.seq (.one start) (.many true (.one rest)))

/-- A name of ASCII letters, digits and underscores. -/
def asciiName : Pattern Char := nameOf isNameStart fun c => c.isAlphanum || c = '_'

/-- A name that starts with an ASCII letter or an underscore and goes on as words do. -/
def wordName : Pattern Char := nameOf isNameStart Text.isWord

/-- A name of word characters and dollar signs. -/
def dollarName : Pattern Char :=
  nameOf (fun c => isNameStart c || c = '$') fun c => Text.isWord c || c = '$'

/-- A line that starts with the given patterns, one after the other. -/
def line (patterns : List (Pattern Char)) : Pattern Char := .sequence (.atStart :: patterns)

/-- A line that starts with the given patterns after any blanks. -/
def indented (patterns : List (Pattern Char)) : Pattern Char := line (blanks :: patterns)

end DeclarationRule

namespace Language

open DeclarationRule

/-- The language that a server's language name stands for. -/
def ofId (id : String) : Language :=
  if id = "rust" then .rust
  else if id = "python" then .python
  else if ["typescript", "javascript", "typescriptreact", "javascriptreact"].contains id then
    .typescript
  else if id = "go" then .go
  else if id = "java" then .java
  else .other

/-- Anything between round brackets. -/
def bracketed : Pattern Char :=
  .sequence [text "(", .many true (.one (· ≠ ')')), text ")"]

/-- A visibility and the gap after it, if they are there. -/
def visibility : Pattern Char := .optional (.sequence [text "pub", .optional bracketed, gap])

/-- A calling convention between quotation marks and the gaps around it, if they are there. -/
def convention : Pattern Char :=
  .optional (.sequence [text "extern", gap, text "\"", .many true (.one (· ≠ '"')), text "\"", gap])

/-- The forms of declarations in Rust. -/
def rustRules : List DeclarationRule := [
  ⟨indented [visibility, modifier "default", modifier "const", modifier "async",
    modifier "unsafe", convention, spaced "fn", asciiName], .function⟩,
  ⟨indented [visibility, spaced "struct", asciiName], .struct⟩,
  ⟨indented [visibility, spaced "enum", asciiName], .enum⟩,
  ⟨indented [visibility, modifier "unsafe", spaced "trait", asciiName], .interface⟩,
  ⟨indented [visibility, spaced "type", asciiName], .typeParameter⟩,
  ⟨indented [visibility, spaced "mod", asciiName], .moduleUnit⟩,
  ⟨indented [visibility, oneOf ["const", "static"], gap, modifier "mut", asciiName, blanks,
    text ":"], .constant⟩,
  ⟨indented [text "macro_rules!", blanks, asciiName], .function⟩]

/-- A constant of a Python module: a name of capitals, with or without a type. -/
def capitalName : Pattern Char :=
  nameOf Char.isUpper fun c => c.isUpper || c.isDigit || c = '_'

/-- The forms of declarations in Python. -/
def pythonRules : List DeclarationRule := [
  ⟨indented [spaced "class", wordName], .classType⟩,
  ⟨line [gap, modifier "async", spaced "def", wordName], .method⟩,
  ⟨line [modifier "async", spaced "def", wordName], .function⟩,
  ⟨line [capitalName, blanks, .optional (.seq (text ":") (.repeated (.one (· ≠ '=')))),
    text "="], .constant⟩]

/-- The forms of declarations in TypeScript and JavaScript. -/
def typescriptRules : List DeclarationRule := [
  ⟨indented [modifier "export", modifier "default", modifier "async", text "function",
    .optional (text "*"), gap, dollarName], .function⟩,
  ⟨indented [modifier "export", modifier "default", modifier "abstract", spaced "class",
    dollarName], .classType⟩,
  ⟨indented [modifier "export", spaced "interface", dollarName], .interface⟩,
  ⟨indented [modifier "export", spaced "type", dollarName, blanks,
    .optional (.sequence [text "<", .many true (.one (· ≠ '=')), text ">"]), blanks,
    text "="], .typeParameter⟩,
  ⟨indented [modifier "export", modifier "const", spaced "enum", dollarName], .enum⟩,
  ⟨indented [modifier "export", spaced "const", dollarName], .constant⟩,
  ⟨indented [modifier "export", oneOf ["let", "var"], gap, dollarName], .variable⟩]

/-- The forms of declarations in Go. -/
def goRules : List DeclarationRule := [
  ⟨line [spaced "func", bracketed, blanks, wordName], .method⟩,
  ⟨line [spaced "func", wordName], .function⟩,
  ⟨line [spaced "type", wordName, gap, text "struct", .wordEdge], .struct⟩,
  ⟨line [spaced "type", wordName, gap, text "interface", .wordEdge], .interface⟩,
  ⟨line [spaced "type", wordName], .classType⟩,
  ⟨line [spaced "const", wordName], .constant⟩,
  ⟨line [spaced "var", wordName], .variable⟩]

/-- Whether the character may stand in the written type of a Java method's result. -/
def isTypeCharacter (c : Char) : Bool :=
  Text.isWord c || Text.isBlank c || ['<', '>', '[', ']', ',', '.', '?'].contains c

/-- The modifiers that all Java declarations may have. -/
def javaModifiers : List String := ["public", "private", "protected", "static"]

/-- The forms of declarations in Java. -/
def javaRules : List DeclarationRule := [
  ⟨indented [modifiers (javaModifiers ++ ["final", "abstract", "sealed"]), spaced "class",
    wordName], .classType⟩,
  ⟨indented [modifiers javaModifiers, .optional (text "@"), spaced "interface", wordName],
    .interface⟩,
  ⟨indented [modifiers javaModifiers, spaced "enum", wordName], .enum⟩,
  ⟨indented [modifiers javaModifiers, spaced "record", wordName], .struct⟩,
  ⟨indented [.repeated (.seq (oneOf (javaModifiers ++
      ["final", "abstract", "synchronized", "native", "default"])) gap),
    .seq (.one isTypeCharacter) (.many false (.one isTypeCharacter)), gap, wordName, blanks,
    text "("], .method⟩]

/-- The forms of declarations that many languages share; they may stand anywhere in a line. -/
def otherRules : List DeclarationRule := [
  ⟨.sequence [.wordEdge, oneOf ["function", "func", "fn", "def", "sub", "proc"], gap, wordName],
    .function⟩,
  ⟨.sequence [.wordEdge, oneOf ["class", "struct", "interface", "trait", "enum", "module"], gap,
    wordName], .classType⟩]

/-- The forms of declarations in a language; the first one that a line has decides. -/
def rules : Language → List DeclarationRule
  | .rust => rustRules
  | .python => pythonRules
  | .typescript => typescriptRules
  | .go => goRules
  | .java => javaRules
  | .other => otherRules

end Language

end SymbolSearch

namespace SymbolSearch

/-! ### Scanning -/

open Text (Pattern)

/-! ### Identifiers in lines -/

/-- The number of characters before a column. A column inside a character belongs to the place
    after it, and one behind the line to its end. -/
def offsetOf (line : List Char) (column : Nat) : Nat :=
  go 0 line
where
  /-- `units` is the number of UTF-16 units before the remaining characters. -/
  go (units : Nat) : List Char → Nat
    | [] => 0
    | c :: rest => if column ≤ units then 0 else 1 + go (units + Text.charUnits c) rest

/-- Whether the character belongs to identifiers. -/
def isIdentifierChar (c : Char) : Bool := Text.isAlphanumeric c || c = '_' || c = '$'

/-- The identifier that contains a column or ends there, if there is one; what starts with an
    ASCII digit is none. -/
def identifierAt? (line : List Char) (column : Nat) : Option (List Char) :=
  let offset := offsetOf line column
  let before := ((line.take offset).reverse.takeWhile isIdentifierChar).reverse
  let found := before ++ (line.drop offset).takeWhile isIdentifierChar
  match found with
  | [] => none
  | first :: _ => if first.isDigit then none else some found

/-! ### Scanning -/

/-- A text scan of the files below a directory. -/
structure Scanner where
  root : Path
  language : Language
  /-- The extensions of the files, in small letters and without dots in front. -/
  extensions : List String
  limits : ScanLimits

namespace Scanner

/-- An extension as it is compared: in small letters and without dots in front. -/
def normalExtension (extension : String) : String :=
  Text.asciiLower (String.ofList (extension.toList.dropWhile (· = '.')))

/-- The scan for a server's language name and the extensions of its files. -/
def ofServer (root : Path) (languageId : String) (extensions : List String)
    (limits : ScanLimits) : Scanner :=
  ⟨root, Language.ofId languageId, extensions.map normalExtension, limits⟩

/-- Whether the scan looks at files with this path. -/
def handles (scanner : Scanner) (path : Path) : Bool :=
  match path.extension? with
  | some extension => scanner.extensions.any fun wanted => Text.eqIgnoringAsciiCase wanted extension
  | none => false

/-- The files that the scan looks at, in path order. -/
def files (scanner : Scanner) (tree : Tree) : List Tree.Found :=
  ((tree.filesBelow scanner.root).filter fun file =>
    scanner.handles file.path && file.content.size ≤ scanner.limits.fileBytes).take
    scanner.limits.files

/-- The range of the characters from `start` up to `stop` of a line. -/
def rangeIn (number : Nat) (line : List Char) (start stop : Nat) : Range :=
  .onLine (UInt32.ofNat number) (UInt32.ofNat (Text.unitsOf (line.take start)))
    (UInt32.ofNat (Text.unitsOf ((line.take stop).drop start)))

/-- The symbol that a line declares. -/
def declaration? (rules : List DeclarationRule) (uri : String) (number : Nat) (line : List Char) :
    Option SymbolRecord :=
  rules.findSome? fun rule => do
    let (start, stop) ← rule.pattern.find? line
    let name := String.ofList ((line.take stop).drop start)
    return { name, kind := rule.kind, location := ⟨uri, rangeIn number line start stop⟩ }

/-- The symbols that the lines of a text declare, one a line at most. -/
def symbolsIn (scanner : Scanner) (path : Path) (text : String) : List SymbolRecord :=
  match fileUri? path with
  | none => []
  | some uri =>
    let rules := scanner.language.rules
    (Text.linesOf text.toList).zipIdx.filterMap fun (line, number) =>
      declaration? rules uri number line

/-- The symbols of one document; none if it cannot be read. -/
def document (scanner : Scanner) (tree : Tree) (path : Path) : List SymbolRecord :=
  match tree.readText path with
  | .ok text => scanner.symbolsIn path text
  | .error _ => []

/-- The symbols of all files that the scan looks at. -/
def everything (scanner : Scanner) (tree : Tree) : List SymbolRecord :=
  (scanner.files tree).flatMap fun file => scanner.document tree file.path

/-- Whether a name contains a text, whatever the case of their letters. -/
def nameContains (part name : String) : Bool :=
  Text.occursIn (Text.lowerText part).toList (Text.lowerText name).toList

/-- The symbols below the root whose names contain a text. -/
def workspace (scanner : Scanner) (tree : Tree) (query : String) : List SymbolRecord :=
  (scanner.everything tree).filter fun symbol => nameContains query symbol.name

/-- Where the identifier occurs as a word. -/
def wordPattern (identifier : List Char) : Pattern Char :=
  .named (.sequence [.wordEdge, .exactly identifier, .wordEdge])

/-- The ranges of a text where the identifier occurs as a word. -/
def occurrences (identifier : List Char) (text : String) : List Range :=
  (Text.linesOf text.toList).zipIdx.flatMap fun (line, number) =>
    ((wordPattern identifier).findAll line).map fun (start, stop) =>
      rangeIn number line start stop

/-- The identifier at a position of a document. -/
def identifierIn? (text : String) (position : Position) : Option (List Char) := do
  let line ← (Text.linesOf text.toList)[position.line.toNat]?
  identifierAt? line position.character.toNat

/-- Where the identifier at a position occurs as a word, in the files that the scan looks at.
    Without `declarations`, the places that declare it are left out. -/
def references (scanner : Scanner) (tree : Tree) (path : Path) (position : Position)
    (declarations : Bool) : List Location :=
  match (tree.readText path).toOption.bind (identifierIn? · position) with
  | none => []
  | some identifier =>
    let name := String.ofList identifier
    (scanner.files tree).flatMap fun file =>
      match Text.decodeStrict file.content, fileUri? file.path with
      | some text, some uri =>
        let found := occurrences identifier text
        let leftOut :=
          if declarations then []
          else
            ((scanner.symbolsIn file.path text).filter (·.name = name)).map (·.location.range)
        (found.filter fun range => !leftOut.contains range).map (⟨uri, ·⟩)
      | _, _ => []

end Scanner

end SymbolSearch
