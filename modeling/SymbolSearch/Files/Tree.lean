import SymbolSearch.Text.Class
import SymbolSearch.Text.Utf8

/-!
# Paths and file trees

A path is a text whose parts are separated by slashes.

* `Path.parts` are the parts that matter: no empty ones, and no dots but one in front.
* `Path.compare` orders paths part by part.
* `Path.extension?` is what follows the last dot of a file's name.

A file tree is the list of its entries, each under the names that lead to it from the root.

* `Tree.resolve` follows a path, its upward steps and its links to an entry.
* `Tree.readBytes` and `Tree.readText` give the content of a file.
* `Tree.write` and `Tree.remove` change the tree; `Tree.write` makes the directories it needs.
* `FileError.message` words what can go wrong.
-/

namespace SymbolSearch

/-! ### Paths -/

/-- A path as it was written. -/
abbrev Path := String

namespace Path

/-- Cuts characters at every slash. -/
def cut (cs : List Char) : List (List Char) :=
  go [] [] cs
where
  /-- `done` holds the finished pieces and `piece` the current one, both in reverse. -/
  go (done : List (List Char)) (piece : List Char) : List Char → List (List Char)
    | [] => (piece.reverse :: done).reverse
    | '/' :: rest => go (piece.reverse :: done) [] rest
    | c :: rest => go done (c :: piece) rest

/-- Whether the path starts at the root. -/
def isAbsolute (path : Path) : Bool := path.toList.head? == some '/'

/-- The parts of the path. A dot in front of a relative path is one of them. -/
def parts (path : Path) : List String :=
  let pieces := (cut path.toList).map String.ofList
  let kept := pieces.filter fun piece => piece ≠ "" && piece ≠ "."
  if pieces.head? = some "." then "." :: kept else kept

/-- The absolute path with the given parts. -/
def ofParts (parts : List String) : Path :=
  "/" ++ "/".intercalate parts

/-- The path `other`, taken from `path` if it does not start at the root. -/
def join (path other : Path) : Path :=
  if other.isAbsolute then other
  else if path = "" || path.toList.getLast? = some '/' then path ++ other
  else path ++ "/" ++ other

/-- The last part of the path, unless it leads upwards. -/
def fileName? (path : Path) : Option String :=
  match path.parts.getLast? with
  | some name => if name = ".." || name = "." then none else some name
  | none => none

/-- The extension of a file's name. -/
def nameExtension? (name : String) : Option String :=
  let reversed := name.toList.reverse
  let extension := reversed.takeWhile (· ≠ '.')
  match reversed.dropWhile (· ≠ '.') with
  | '.' :: _ :: _ => some (String.ofList extension.reverse)
  | _ => none

/-- What follows the last dot of the file's name, if that dot is not its first character. -/
def extension? (path : Path) : Option String := path.fileName?.bind nameExtension?

/-- Whether both paths have the same parts. -/
def same (a b : Path) : Bool := a.isAbsolute == b.isAbsolute && a.parts == b.parts

/-- Whether the parts of `path` begin with those of `root`. -/
def startsWith (path root : Path) : Bool :=
  path.isAbsolute == root.isAbsolute && root.parts.isPrefixOf path.parts

/-- Whether parts come before other parts, part by part. -/
def partsBefore : List String → List String → Bool
  | [], [] => false
  | [], _ :: _ => true
  | _ :: _, [] => false
  | a :: as, b :: bs => a < b || (a == b && partsBefore as bs)

/-- Whether a path comes before another, part by part. -/
def before (a b : Path) : Bool := partsBefore a.parts b.parts

end Path

/-! ### File trees -/

/-- Why a path leads to nothing that can be used as asked. -/
inductive FileError where
  | notFound
  | denied
  | notDirectory
  | isDirectory
  | nameTooLong
  | tooManyLinks
  | notText
  | zeroByte
  deriving DecidableEq, Repr

/-- The wording of a file error. -/
def FileError.message : FileError → String
  | .notFound => "No such file or directory (os error 2)"
  | .denied => "Permission denied (os error 13)"
  | .notDirectory => "Not a directory (os error 20)"
  | .isDirectory => "Is a directory (os error 21)"
  | .nameTooLong => "File name too long (os error 36)"
  | .tooManyLinks => "Too many levels of symbolic links (os error 40)"
  | .notText => "stream did not contain valid UTF-8"
  | .zeroByte => "file name contained an unexpected NUL byte"

/-- What a name of a file tree stands for. -/
inductive Entry where
  | directory
  | file (content : ByteArray) (executable : Bool)
  | link (target : Path)

/-- The entries of a file tree, under the names that lead to them. -/
structure Tree where
  entries : List (List String × Entry) := []

namespace Tree

/-- What the given names lead to, without following links. -/
def entry? (tree : Tree) (names : List String) : Option Entry :=
  if names = [] then some .directory else tree.entries.lookup names

/-- The longest name of an entry, in bytes. -/
def maxNameBytes : Nat := 255

/-- The longest path, in bytes. -/
def maxPathBytes : Nat := 4095

/-- The number of links that one path may lead through. -/
def maxLinks : Nat := 40

/-- The steps that a path takes: a name, or a dot, or two dots for a step upwards. A slash at the
    end asks for a directory, as a dot does. -/
def stepsOf (path : Path) : List String :=
  let pieces := (Path.cut path.toList).map String.ofList
  let steps := pieces.filter (· ≠ "")
  if steps ≠ [] && pieces.getLast? = some "" then steps ++ ["."] else steps

/-- Takes steps from the directory that `done` leads to. With `followLast`, a link at the end of the
    path is followed too. Behind a link, `follow` goes on from a directory with the steps that are
    left. -/
def walk (tree : Tree) (followLast : Bool)
    (follow : List String → List String → Except FileError (List String)) (done : List String) :
    List String → Except FileError (List String)
  | [] => .ok done
  | step :: rest =>
    if step = "." then tree.walk followLast follow done rest
    else if step = ".." then tree.walk followLast follow done.dropLast rest
    else if step.utf8ByteSize > maxNameBytes then .error .nameTooLong
    else
      match tree.entry? (done ++ [step]) with
      | none => .error .notFound
      | some .directory => tree.walk followLast follow (done ++ [step]) rest
      | some (.file _ _) => if rest = [] then .ok (done ++ [step]) else .error .notDirectory
      | some (.link target) =>
        if rest = [] && !followLast then .ok (done ++ [step])
        else if target = "" then .error .notFound
        else follow (if target.isAbsolute then [] else done) (stepsOf target ++ rest)

/-- Follows steps from the directory that `done` leads to, through at most `links` links. -/
def follow (tree : Tree) (followLast : Bool) :
    (links : Nat) → (done steps : List String) → Except FileError (List String)
  | 0 => tree.walk followLast fun _ _ => .error .tooManyLinks
  | links + 1 => tree.walk followLast (tree.follow followLast links)

/-- The names of the entry that the steps of an absolute path lead to. -/
def resolveWith (tree : Tree) (followLast : Bool) (path : Path) : Except FileError (List String) :=
  if path.toList.contains '\x00' then .error .zeroByte
  else if path.utf8ByteSize > maxPathBytes then .error .nameTooLong
  else if path.isAbsolute then tree.follow followLast maxLinks [] (stepsOf path)
  else .error .notFound

/-- The names of the entry that an absolute path leads to, with every link followed. -/
def resolve (tree : Tree) (path : Path) : Except FileError (List String) :=
  tree.resolveWith true path

/-- The path without links, dots and upward steps that leads to the same entry. -/
def canonical (tree : Tree) (path : Path) : Except FileError Path := do
  return Path.ofParts (← tree.resolve path)

/-- The entry that a path leads to, which is no link. -/
def target (tree : Tree) (path : Path) : Except FileError Entry := do
  match tree.entry? (← tree.resolve path) with
  | some entry => .ok entry
  | none => .error .notFound

/-- Whether a path leads to a directory. -/
def isDirectory (tree : Tree) (path : Path) : Bool :=
  match tree.target path with
  | .ok .directory => true
  | _ => false

/-- Whether a path leads to a file. -/
def isFile (tree : Tree) (path : Path) : Bool :=
  match tree.target path with
  | .ok (.file _ _) => true
  | _ => false

/-- The content of the file that a path leads to. -/
def readBytes (tree : Tree) (path : Path) : Except FileError ByteArray := do
  match ← tree.target path with
  | .file content _ => .ok content
  | _ => .error .isDirectory

/-- The content of the file that a path leads to, which must be UTF-8. -/
def readText (tree : Tree) (path : Path) : Except FileError String := do
  match Text.decodeStrict (← tree.readBytes path) with
  | some text => .ok text
  | none => .error .notText

/-- The names of a directory's entries in ascending order, with the entries. -/
def children (tree : Tree) (names : List String) : List (String × Entry) :=
  let found := tree.entries.filterMap fun (key, entry) =>
    match key.getLast? with
    | some name => if key.dropLast = names then some (name, entry) else none
    | none => none
  found.mergeSort fun a b => a.1 ≤ b.1

/-- Puts an entry under names, in place of what was there. -/
def put (tree : Tree) (names : List String) (entry : Entry) : Tree :=
  if names = [] then tree
  else if (tree.entries.lookup names).isSome then
    ⟨tree.entries.map fun (key, old) => if key = names then (key, entry) else (key, old)⟩
  else ⟨tree.entries ++ [(names, entry)]⟩

/-- Makes the directory at `names`, and those above it, where there is nothing yet. -/
def makeDirectory (tree : Tree) (names : List String) : Tree :=
  (List.range names.length).foldl (fun tree i =>
    let names := names.take (i + 1)
    if (tree.entry? names).isSome then tree else tree.put names .directory) tree

/-- The names that a new entry at a path gets: its directory's, made as far as need be, and its
    own; links on the way are followed. -/
def place (tree : Tree) (path : Path) : Tree × List String :=
  (stepsOf path).foldl (fun (tree, names) step =>
    if step = "." then (tree, names)
    else if step = ".." then (tree, names.dropLast)
    else
      let here := names ++ [step]
      let tree := if names = [] then tree else tree.makeDirectory names
      match tree.entry? here with
      | some (.link _) => (tree, ((tree.resolve (Path.ofParts here)).toOption).getD here)
      | _ => (tree, here)) (tree, [])

/-- Writes an entry at an absolute path. A link at its end is written through when it leads
    somewhere, and a directory stays as it is. -/
def write (tree : Tree) (path : Path) (entry : Entry) : Tree :=
  if !path.isAbsolute then tree
  else
    let (tree, names) := tree.place path
    match entry, tree.entry? names with
    | .directory, _ => tree.makeDirectory names
    | _, some .directory => tree
    | _, _ => tree.put names entry

/-- Removes what an absolute path names, with all that lies below it; a link is removed itself. -/
def remove (tree : Tree) (path : Path) : Tree :=
  match tree.resolveWith false path with
  | .ok [] => tree
  | .ok names => ⟨tree.entries.filter fun (key, _) => !names.isPrefixOf key⟩
  | .error _ => tree

end Tree

end SymbolSearch
