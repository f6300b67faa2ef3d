import SymbolSearch.Files.Glob
import SymbolSearch.Files.Tree

/-!
# The files below a directory

The rules of ignore files, and which entries of a file tree they hide.

* `IgnoreRule.parse?` reads one line of an ignore file.
* `IgnoreRules.verdict?` is what the rules of one file say about a path below its directory: the
  last rule that admits the path decides.
* `IgnoreRules.hides` is what all files of a tree say about an entry: files of the first kind that
  say anything come first, and among them the one nearest to the entry.
* `Tree.filesBelow` lists the files below a directory in path order, without those that ignore
  files hide and without those in directories that hold what tools made.
-/

namespace SymbolSearch

/-! ### Ignore files -/

/-- One line of an ignore file. -/
structure IgnoreRule where
  glob : Glob
  /-- Whether the rule keeps what it admits, instead of hiding it. -/
  keeps : Bool
  /-- Whether the rule is about directories only. -/
  directoriesOnly : Bool

namespace IgnoreRule

/-- Whether the characters end with a backslash and a space. -/
def endsInKeptSpace (cs : List Char) : Bool := [' ', '\\'].isPrefixOf cs.reverse

/-- The line as it counts: without the blanks at its end, unless a backslash keeps them. -/
def lineText (cs : List Char) : List Char :=
  if endsInKeptSpace cs then cs else (cs.reverse.dropWhile Text.isBlank).reverse

/-- The slash and the backslash before it that mark a rule about directories, removed. -/
def withoutLastSlash (cs : List Char) : List Char :=
  match cs.reverse with
  | '/' :: '\\' :: before => before.reverse
  | '/' :: before => before.reverse
  | _ => cs

/-- The glob for a rule. A rule without a slash is about names in any directory, and one that ends
    with a slash and two stars is about what lies below, not the directory itself. -/
def globText (anchored : Bool) (cs : List Char) : List Char :=
  let anywhere := !anchored && !cs.contains '/' && cs ≠ ['*', '*']
  let spread := if anywhere then ['*', '*', '/'] ++ cs else cs
  if ['*', '*', '/'].isPrefixOf spread.reverse then spread ++ ['/', '*'] else spread

/-- Reads one line of an ignore file. Comments, empty lines and malformed globs are no rules. -/
def parse? (line : List Char) : Option IgnoreRule :=
  if line.head? = some '#' then none
  else
    match lineText line with
    | [] => none
    | text =>
      let (keeps, anchored, body) :=
        match text with
        | '\\' :: '!' :: rest => (false, false, '!' :: rest)
        | '\\' :: '#' :: rest => (false, false, '#' :: rest)
        | '!' :: '/' :: rest => (true, true, rest)
        | '!' :: rest => (true, false, rest)
        | '/' :: rest => (false, true, rest)
        | rest => (false, false, rest)
      let directoriesOnly := body.getLast? = some '/'
      let body := if directoriesOnly then withoutLastSlash body else body
      (Glob.parse? (String.ofList (globText anchored body))).map (⟨·, keeps, directoriesOnly⟩)

end IgnoreRule

/-- Cuts bytes into lines at each line feed, without the line feeds. -/
def byteLines (bytes : List UInt8) : List (List UInt8) :=
  go [] [] bytes
where
  /-- `done` holds the finished lines and `line` the current one, both in reverse. -/
  go (done : List (List UInt8)) (line : List UInt8) : List UInt8 → List (List UInt8)
    | [] => (if line.isEmpty then done else line.reverse :: done).reverse
    | 0x0a :: rest =>
      go ((match line with | 0x0d :: kept => kept | kept => kept).reverse :: done) [] rest
    | byte :: rest => go done (byte :: line) rest

namespace IgnoreRule

/-- Reads the rules of an ignore file, up to the first line that is not UTF-8. Byte order marks in
    front of the file are skipped. -/
def parseFile (content : ByteArray) : List IgnoreRule :=
  let texts := (byteLines content.toList).map fun line => Text.decodeStrict ⟨line.toArray⟩
  let lines := (texts.takeWhile Option.isSome).map fun text => (text.getD "").toList
  match lines with
  | [] => []
  | first :: others =>
    (first.dropWhile (· = '\ufeff') :: others).filterMap parse?

/-- What rules say about a relative path: whether the last one that admits it hides it. -/
def verdict? (rules : List IgnoreRule) (path : String) (directory : Bool) : Option Bool :=
  (rules.reverse.find? fun rule =>
    (!rule.directoriesOnly || directory) && rule.glob.admits path).map fun rule => !rule.keeps

end IgnoreRule

/-- The rules of all ignore files of a kind, each with the names of the directory they are for. -/
abbrev RuleTable := List (List String × List IgnoreRule)

/-- The rules of a file tree, by the kind of their files; earlier kinds outweigh later ones. -/
structure IgnoreRules where
  tables : List RuleTable

namespace IgnoreRules

/-- The places of ignore files in the directories they are for, the weightiest first. -/
def places : List Path := [".ignore", ".gitignore", ".git/info/exclude"]

/-- The rules that hold below a directory, in the directories that lead to it and below it. -/
def ofTree (tree : Tree) (root : List String) : IgnoreRules :=
  let directories := [] :: tree.entries.filterMap fun (names, entry) =>
    match entry with
    | .directory => if names.isPrefixOf root || root.isPrefixOf names then some names else none
    | _ => none
  ⟨places.map fun place => directories.filterMap fun names =>
    match tree.readBytes ((Path.ofParts names).join place) with
    | .ok content => some (names, IgnoreRule.parseFile content)
    | .error _ => none⟩

/-- What the rules of one kind say about the entry with the given names: the nearest directory
    whose rules say anything decides. -/
def tableVerdict? (table : RuleTable) (names : List String) (directory : Bool) : Option Bool :=
  (List.range names.length).reverse.findSome? fun depth => do
    let rules ← table.lookup (names.take depth)
    IgnoreRule.verdict? rules ("/".intercalate (names.drop depth)) directory

/-- Whether the rules hide the entry with the given names. -/
def hides (rules : IgnoreRules) (names : List String) (directory : Bool) : Bool :=
  (rules.tables.findSome? fun table => tableVerdict? table names directory).getD false

end IgnoreRules

/-! ### The files below a directory -/

/-- The names of directories that hold what tools made, not what people wrote. -/
def builtDirectories : List String :=
  [".git", "target", "node_modules", "dist", "build", "out", "__pycache__", ".venv", "vendor"]

namespace Tree

/-- A file that was found, with the path that led to it. -/
structure Found where
  path : Path
  content : ByteArray

/-- Whether an entry is left out itself, wherever it is. -/
def leavesOut (rules : IgnoreRules) (names : List String) (entry : Entry) : Bool :=
  match entry with
  | .directory =>
    names.getLast?.any (builtDirectories.contains ·) || rules.hides names true
  | _ => rules.hides names false

/-- The entries below a directory in path order, under the names that lead to them from there. -/
def entriesBelow (tree : Tree) (root : List String) : List (List String × Entry) :=
  let below := tree.entries.filterMap fun (names, entry) =>
    if root.isPrefixOf names && names.length > root.length then
      some (names.drop root.length, entry)
    else none
  below.mergeSort fun a b => !Path.partsBefore b.1 a.1

/-- The files below the directory that a path leads to, in path order. An entry is reached only if
    neither it nor a directory above it is left out. If the path is that of a file, that is the
    only one, and if it leads nowhere there are none. -/
def filesBelow (tree : Tree) (path : Path) : List Found :=
  match tree.resolve path with
  | .error _ => []
  | .ok root =>
    match tree.entry? root with
    | some (.file content _) => [⟨path, content⟩]
    | some .directory =>
      let rules := IgnoreRules.ofTree tree root
      let entries := tree.entriesBelow root
      let leftOut := entries.filterMap fun (names, entry) =>
        if leavesOut rules (root ++ names) entry then some names else none
      let kept := entries.filter fun (names, _) => !leftOut.any (·.isPrefixOf names)
      kept.filterMap fun (names, entry) =>
        match entry with
        | .file content _ => some ⟨path.join ("/".intercalate names), content⟩
        | _ => none
    | _ => []

end Tree

end SymbolSearch
