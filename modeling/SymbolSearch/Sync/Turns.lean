/-!
# Taking turns

A guard that one holder has at a time, in the order in which they asked.

* `Turns.join` asks for the guard, `Turns.holds` says whose turn it is, and `Turns.leave` gives the
  guard up, or the place in the line; a guard that is given up goes to the first in line.
-/

namespace SymbolSearch

/-- What one who asks for a guard or for room in a queue is known by. -/
abbrev Ticket := Nat

/-- A guard that one holder has at a time. -/
structure Turns where
  holder : Option Ticket := none
  /-- Those who wait, the first in line first. -/
  waiting : List Ticket := []
  /-- The ticket that the next one gets. -/
  next : Ticket := 0
  deriving DecidableEq, Repr

namespace Turns

/-- Asks for the guard. -/
def join (turns : Turns) : Ticket × Turns :=
  let ticket := turns.next
  match turns.holder with
  | none => (ticket, { turns with holder := some ticket, next := ticket + 1 })
  | some _ => (ticket, { turns with waiting := turns.waiting ++ [ticket], next := ticket + 1 })

/-- Whether it is the turn of a ticket. -/
def holds (turns : Turns) (ticket : Ticket) : Bool := turns.holder == some ticket

/-- Gives up the guard or the place in the line. -/
def leave (turns : Turns) (ticket : Ticket) : Turns :=
  if turns.holds ticket then
    match turns.waiting with
    | [] => { turns with holder := none }
    | first :: others => { turns with holder := some first, waiting := others }
  else { turns with waiting := turns.waiting.erase ticket }

end Turns
end SymbolSearch
