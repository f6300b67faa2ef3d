/-!
# Operations that wait

An operation that has to wait is at one of finitely many kinds of points. A step takes it from a
point to the next place where it may have to wait, and changes what it shares with others.

* `Progress` is what a step comes to, and `Stepped` the shared state with it.
* `runUntilBlocked` steps an operation until it has to wait or has finished.
* `stepFirst` steps the first of several operations that can move.
-/

namespace SymbolSearch

/-- What a step of an operation comes to. -/
inductive Progress (π ρ : Type) where
  /-- The operation has to wait where it is. -/
  | blocked
  | moved (point : π)
  | finished (result : ρ)

/-- A shared state and what a step of an operation on it comes to. -/
abbrev Stepped (σ π ρ : Type) := σ × Progress π ρ

/-- The same progress with other points and results. -/
def Progress.map {π π' ρ ρ' : Type} (onPoint : π → π') (onResult : ρ → ρ') :
    Progress π ρ → Progress π' ρ'
  | .blocked => .blocked
  | .moved point => .moved (onPoint point)
  | .finished result => .finished (onResult result)

/-- The same step with other points and results. -/
def Stepped.map {σ π π' ρ ρ' : Type} (onPoint : π → π') (onResult : ρ → ρ')
    (stepped : Stepped σ π ρ) : Stepped σ π' ρ' :=
  (stepped.1, stepped.2.map onPoint onResult)

/-- Where an operation stands: at a point, or at its end. -/
inductive Standing (π ρ : Type) where
  | waiting (point : π)
  | ended (result : ρ)

/-- Steps an operation until it has to wait or has finished, at most `limit` times. The last part
    says whether it has moved at all. -/
def runUntilBlocked {σ π ρ : Type} (step : π → σ → Stepped σ π ρ) :
    Nat → π → σ → Bool → σ × Standing π ρ × Bool
  | 0, point, state, hasMoved => (state, .waiting point, hasMoved)
  | limit + 1, point, state, hasMoved =>
    match step point state with
    | (state, .blocked) => (state, .waiting point, hasMoved)
    | (state, .moved point) => runUntilBlocked step limit point state true
    | (state, .finished result) => (state, .ended result, true)

/-- Steps the first of several operations that can move; nothing if none can. -/
def stepFirst {σ π ρ : Type} (step : π → σ → Stepped σ π ρ) :
    List (Standing π ρ) → σ → Option (σ × List (Standing π ρ))
  | [], _ => none
  | .ended result :: others, state =>
    (stepFirst step others state).map fun (state, others) => (state, .ended result :: others)
  | .waiting point :: others, state =>
    match step point state with
    | (state, .moved point) => some (state, .waiting point :: others)
    | (state, .finished result) => some (state, .ended result :: others)
    | (_, .blocked) =>
      (stepFirst step others state).map fun (state, others) => (state, .waiting point :: others)

/-- The results of operations, once all have ended. -/
def Standing.results? {π ρ : Type} : List (Standing π ρ) → Option (List ρ)
  | [] => some []
  | .ended result :: others => (results? others).map (result :: ·)
  | .waiting _ :: _ => none

/-- The points of the operations that have not ended. -/
def Standing.points {π ρ : Type} (standings : List (Standing π ρ)) : List π :=
  standings.filterMap fun standing =>
    match standing with
    | .waiting point => some point
    | .ended _ => none

/-- The earlier of two times, if there is any. -/
def earlier? (a b : Option Nat) : Option Nat :=
  match a, b with
  | some a, some b => some (min a b)
  | some a, none => some a
  | none, b => b

/-- The earliest of some times, if there is any. -/
def earliest? (times : List (Option Nat)) : Option Nat := times.foldl earlier? none

end SymbolSearch
