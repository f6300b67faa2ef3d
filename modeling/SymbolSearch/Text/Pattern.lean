import SymbolSearch.Text.Class

/-!
# Patterns

Patterns over lists of symbols, with the leftmost match that prefers earlier choices.

* `Pattern.run` matches a pattern at a place and hands every place where it can end to a
  continuation, the preferred one first, until one of them is accepted.
* `Pattern.matchesAll` says whether a pattern matches a whole list.
* `Pattern.find?` is the part that the named piece of the leftmost match covers.
* `Pattern.findAll` lists the matches that do not overlap, from left to right.
-/

namespace SymbolSearch.Text

/-- What may stand in a list of symbols. -/
inductive Pattern (σ : Type) where
  /-- The empty list. -/
  | nothing
  /-- One symbol that passes a test. -/
  | one (test : σ → Bool)
  /-- A place between two symbols that pass a test together; a missing one is `none`. -/
  | between (test : Option σ → Option σ → Bool)
  | seq (first second : Pattern σ)
  /-- The first pattern, or else the second. -/
  | either (first second : Pattern σ)
  /-- The pattern any number of times, as often as possible if `greedy`, else as seldom. -/
  | many (greedy : Bool) (body : Pattern σ)
  /-- The piece whose place is reported. -/
  | named (body : Pattern σ)

/-- A place in a list of symbols. -/
structure Cursor (σ : Type) where
  /-- The symbol before the place. -/
  before : Option σ
  /-- The symbols after the place. -/
  rest : List σ
  /-- The number of symbols before the place. -/
  position : Nat
  /-- Where the named piece of the match starts and ends. -/
  piece : Option (Nat × Nat) := none

namespace Pattern
variable {σ α : Type}

/-- Matches `body` repeatedly, at most `fuel` times; each time it must move on. -/
def repeatBody (body : Cursor σ → (Cursor σ → Option α) → Option α) (greedy : Bool) :
    Nat → Cursor σ → (Cursor σ → Option α) → Option α
  | 0, cursor, next => next cursor
  | fuel + 1, cursor, next =>
    let again := fun (_ : Unit) => body cursor fun after =>
      if cursor.position < after.position then repeatBody body greedy fuel after next else none
    if greedy then
      match again () with
      | some result => some result
      | none => next cursor
    else
      match next cursor with
      | some result => some result
      | none => again ()

/-- Matches the pattern at a place. The result is that of the first place, in order of
    preference, that `next` accepts as the end of the match. -/
def run : Pattern σ → Cursor σ → (Cursor σ → Option α) → Option α
  | .nothing, cursor, next => next cursor
  | .one test, cursor, next =>
    match cursor.rest with
    | [] => none
    | symbol :: rest =>
      if test symbol then next ⟨some symbol, rest, cursor.position + 1, cursor.piece⟩ else none
  | .between test, cursor, next =>
    if test cursor.before cursor.rest.head? then next cursor else none
  | .seq first second, cursor, next => first.run cursor fun middle => second.run middle next
  | .either first second, cursor, next =>
    match first.run cursor next with
    | some result => some result
    | none => second.run cursor next
  | .many greedy body, cursor, next =>
    repeatBody (fun cursor next => body.run cursor next) greedy cursor.rest.length cursor next
  | .named body, cursor, next =>
    body.run cursor fun after =>
      next { after with piece := some (cursor.position, after.position) }

/-- The piece that the match at a place reports. -/
def pieceAt? (pattern : Pattern σ) (cursor : Cursor σ) : Option (Nat × Nat) :=
  pattern.run cursor fun after => after.piece

/-- Whether the pattern matches the whole list. -/
def matchesAll (pattern : Pattern σ) (symbols : List σ) : Bool :=
  (pattern.run ⟨none, symbols, 0, none⟩ fun after =>
    if after.rest.isEmpty then some () else none).isSome

/-- The piece of the leftmost match at or after a place. -/
def findFrom? (pattern : Pattern σ) (before : Option σ) (position : Nat) :
    List σ → Option (Nat × Nat)
  | [] => pattern.pieceAt? ⟨before, [], position, none⟩
  | symbol :: rest =>
    match pattern.pieceAt? ⟨before, symbol :: rest, position, none⟩ with
    | some piece => some piece
    | none => pattern.findFrom? (some symbol) (position + 1) rest

/-- The piece of the leftmost match: where it starts and where it ends. -/
def find? (pattern : Pattern σ) (symbols : List σ) : Option (Nat × Nat) :=
  pattern.findFrom? none 0 symbols

/-- The pieces of the matches at or after a place that start at `free` or later. -/
def findAllFrom (pattern : Pattern σ) (before : Option σ) (position free : Nat) :
    List σ → List (Nat × Nat)
  | [] => []
  | symbol :: rest =>
    let found :=
      if position < free then none
      else pattern.pieceAt? ⟨before, symbol :: rest, position, none⟩
    match found with
    | some (start, stop) =>
      (start, stop) :: pattern.findAllFrom (some symbol) (position + 1) stop rest
    | none => pattern.findAllFrom (some symbol) (position + 1) free rest

/-- The pieces of the matches from left to right, none of them overlapping, for a pattern that
    is all one piece and matches no empty list. -/
def findAll (pattern : Pattern σ) (symbols : List σ) : List (Nat × Nat) :=
  pattern.findAllFrom none 0 0 symbols

/-! ### Ways to write patterns -/

/-- The patterns one after the other. -/
def sequence (patterns : List (Pattern σ)) : Pattern σ := patterns.foldr .seq .nothing

/-- The first of the patterns that leads to a match; an empty choice matches the empty list. -/
def choice : List (Pattern σ) → Pattern σ
  | [] => .nothing
  | [last] => last
  | first :: others => .either first (choice others)

/-- The pattern, if it is there. -/
def optional (pattern : Pattern σ) : Pattern σ := .either pattern .nothing

/-- The pattern once or more. -/
def repeated (pattern : Pattern σ) : Pattern σ := .seq pattern (.many true pattern)

/-- The given symbols. -/
def exactly [DecidableEq σ] (symbols : List σ) : Pattern σ :=
  sequence (symbols.map fun symbol => .one (· = symbol))

/-- The start of the list. -/
def atStart : Pattern σ := .between fun before _ => before.isNone

/-- The edge of a word. -/
def wordEdge : Pattern Char :=
  .between fun before after => before.any isWord != after.any isWord

end Pattern
end SymbolSearch.Text
