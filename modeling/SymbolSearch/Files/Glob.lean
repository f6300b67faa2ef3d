import SymbolSearch.Text.Pattern

/-!
# Globs

Patterns for relative paths, as lists of path names are described in ignore files.

* `?` is one byte and `*` any number of bytes of one name; `[…]` is one byte of a set.
* `**` between slashes is any number of names, `**/` in front any directory, and `/**` at the end
  everything below a directory; elsewhere two stars are as good as one.
* `{…,…}` is one of the pieces between the commas, and a backslash takes away the meaning of the
  character after it.
* `Glob.parse?` reads a glob and `Glob.admits` matches one with a path.
-/

namespace SymbolSearch

open Text (Pattern)

/-- The pattern of bytes that a glob stands for. -/
structure Glob where
  pattern : Pattern UInt8

namespace Glob

/-- One piece of a glob. -/
inductive Piece where
  /-- A piece that stands for itself wherever it is. -/
  | plain (pattern : Pattern UInt8)
  /-- Two stars and a slash in front. -/
  | anyDirectory
  /-- A slash and two stars at the end. -/
  | anyContent
  /-- Two stars between slashes. -/
  | anyNames

/-- The byte of a slash. -/
def slash : UInt8 := 0x2f

/-- Any number of bytes, slashes included. -/
def anyBytes : Pattern UInt8 := .many true (.one fun _ => true)

/-- The given characters, in UTF-8. -/
def spelled (cs : List Char) : Pattern UInt8 :=
  .exactly (String.ofList cs).toUTF8.toList

/-- One byte of a name. -/
def nameByte : Pattern UInt8 := .one (· ≠ slash)

/-- What a piece stands for. -/
def Piece.pattern : Piece → Pattern UInt8
  | .plain pattern => pattern
  | .anyDirectory => .either (.optional (.one (· = slash))) (.seq anyBytes (.one (· = slash)))
  | .anyContent => .seq (.one (· = slash)) anyBytes
  | .anyNames =>
    .either (.one (· = slash))
      (.seq (.one (· = slash)) (.seq anyBytes (.one (· = slash))))

/-- What pieces stand for, one after the other. -/
def patternOf (pieces : List Piece) : Pattern UInt8 := .sequence (pieces.map Piece.pattern)

/-- A choice whose pieces are being read. -/
structure OpenChoice where
  /-- The pieces before the choice, in reverse. -/
  outer : List Piece
  /-- The branches that have been read, in reverse, each in reverse. -/
  branches : List (List Piece)

/-- What has been read of a glob. -/
structure Reading where
  /-- The pieces of the innermost list, in reverse. -/
  pieces : List Piece := []
  /-- The choices that are still open, the innermost one first. -/
  choices : List OpenChoice := []

/-- Adds a piece. -/
def Reading.push (reading : Reading) (piece : Piece) : Reading :=
  { reading with pieces := piece :: reading.pieces }

/-- Any number of bytes of one name. -/
def star : Piece := .plain (.many true nameByte)

/-- The bytes of the class that a range of characters spells: every byte of its ends, and what
    lies between the last byte of the lower end and the first of the upper. -/
def rangeHas (low high : Char) (byte : UInt8) : Bool :=
  let lows := (String.singleton low).toUTF8.toList
  let highs := (String.singleton high).toUTF8.toList
  lows.contains byte || (low ≠ high && (highs.contains byte ||
    (lows.getLast?.any (· ≤ byte) && highs.head?.any (byte ≤ ·))))

/-- Adds a character to the ranges of a class, as the end of the last range if one is open. The
    result is `none` if that range would be upside down. -/
def extend (ranges : List (Char × Char)) (inRange : Bool) (c : Char) :
    Option (List (Char × Char)) :=
  match inRange, ranges with
  | true, (low, _) :: others => if c < low then none else some ((low, c) :: others)
  | _, ranges => some ((c, c) :: ranges)

/-- What a reader of a class finds. -/
inductive ClassReading where
  | closed (ranges : List (Char × Char)) (rest : List Char)
  | upsideDown
  | unclosed

/-- Reads the ranges of a class up to its closing bracket; `ranges` are those before, the last one
    first. A bracket or a hyphen in front stands for itself, and so does a hyphen at the end. -/
def readClass (ranges : List (Char × Char)) (first inRange : Bool) : List Char → ClassReading
  | [] => .unclosed
  | ']' :: rest =>
    if first then readClass [(']', ']')] false false rest
    else .closed (if inRange then ('-', '-') :: ranges else ranges) rest
  | '-' :: rest =>
    if first then readClass [('-', '-')] false false rest
    else if inRange then
      match extend ranges true '-' with
      | some ranges => readClass ranges false false rest
      | none => .upsideDown
    else readClass ranges false true rest
  | c :: rest =>
    match extend ranges inRange c with
    | some ranges => readClass ranges false false rest
    | none => .upsideDown

/-- What follows a class is shorter than the class and what follows it. -/
theorem readClass_rest_lt (cs : List Char) :
    ∀ (ranges : List (Char × Char)) (first inRange : Bool) {found : List (Char × Char)}
      {rest : List Char}, readClass ranges first inRange cs = .closed found rest →
      rest.length < cs.length := by
  induction cs with
  | nil => intro _ _ _ _ _ h; simp [readClass] at h
  | cons c cs ih =>
    intro ranges first inRange found rest h
    unfold readClass at h
    split at h <;> grind

/-- Adds two stars. `previous` is the character before them, and `next` what follows; the result
    says whether the slash that follows belongs to them. -/
def Reading.pushStars (reading : Reading) (previous : Option Char) (next : Option Char) :
    Reading × Bool :=
  let twoStars := ((reading.push star).push star, false)
  let beforeSlash := next = some '/'
  match reading.pieces with
  | [] =>
    if next = none || beforeSlash then (reading.push .anyDirectory, beforeSlash) else twoStars
  | last :: pieces =>
    let atEnd := next = none ||
      (!reading.choices.isEmpty && (next = some ',' || next = some '\x7d'))
    if previous = some '/' && (atEnd || beforeSlash) then
      let piece := match last with
        | .anyDirectory => .anyDirectory
        | .anyContent => .anyContent
        | _ => if atEnd then .anyContent else .anyNames
      ({ reading with pieces := piece :: pieces }, !atEnd)
    else twoStars

/-- The choice between branches; empty branches do not count. -/
def choiceOf (branches : List (List Piece)) : Pattern UInt8 :=
  .choice ((branches.filter fun pieces => !pieces.isEmpty).reverse.map fun pieces =>
    patternOf pieces.reverse)

/-- Reads the pieces of a glob. The result is `none` if a choice is not closed or not opened, a
    range is upside down, or a backslash ends the glob. -/
def readPieces (previous : Option Char) (reading : Reading) : List Char → Option (List Piece)
  | [] => if reading.choices.isEmpty then some reading.pieces.reverse else none
  | '?' :: rest => readPieces (some '?') (reading.push (.plain nameByte)) rest
  | '*' :: '*' :: rest =>
    let (reading, takesSlash) := reading.pushStars previous rest.head?
    match takesSlash, rest with
    | true, c :: rest => readPieces (some c) reading rest
    | _, rest => readPieces (some '*') reading rest
  | '*' :: rest => readPieces (some '*') (reading.push star) rest
  | '\\' :: c :: rest => readPieces (some c) (reading.push (.plain (spelled [c]))) rest
  | ['\\'] => none
  | '\x7b' :: rest =>
    readPieces (some '\x7b') ⟨[], ⟨reading.pieces, []⟩ :: reading.choices⟩ rest
  | '\x7d' :: rest =>
    match reading.choices with
    | [] => none
    | choice :: choices =>
      let piece := .plain (choiceOf (reading.pieces :: choice.branches))
      readPieces (some '\x7d') ⟨piece :: choice.outer, choices⟩ rest
  | ',' :: rest =>
    match reading.choices with
    | [] => readPieces (some ',') (reading.push (.plain (spelled [',']))) rest
    | choice :: choices =>
      readPieces (some ',')
        ⟨[], { choice with branches := reading.pieces :: choice.branches } :: choices⟩ rest
  | '[' :: rest =>
    let negated := rest.head? = some '!' || rest.head? = some '^'
    match _closed : readClass [] true false (if negated then rest.tail else rest) with
    | .closed ranges after =>
      let inClass := fun byte => ranges.any fun (low, high) => rangeHas low high byte
      readPieces (some ']') (reading.push (.plain (.one fun byte => inClass byte != negated)))
        after
    | .upsideDown => none
    | .unclosed => readPieces (some '[') (reading.push (.plain (spelled ['[']))) rest
  | c :: rest => readPieces (some c) (reading.push (.plain (spelled [c]))) rest
termination_by cs => cs.length
decreasing_by
  all_goals simp_wf
  all_goals try omega
  have := readClass_rest_lt _ _ _ _ _closed
  grind

/-- Reads a glob, if it is well-formed. -/
def parse? (text : String) : Option Glob := do
  let pieces ← readPieces none {} text.toList
  match pieces with
  | [.anyDirectory] => return ⟨anyBytes⟩
  | pieces => return ⟨patternOf pieces⟩

/-- Whether the glob admits a relative path. -/
def admits (glob : Glob) (path : String) : Bool := glob.pattern.matchesAll path.toUTF8.toList

end Glob
end SymbolSearch
