import SymbolSearch.Time.Duration

/-!
# The restart gate

* `RestartGate.acquire` grants a restart if the cooldown since the last one is over and the
  budget is not spent; the cooldown is looked at first.
* `RestartGate.force` clears the budget and starts a new cooldown.
-/

namespace SymbolSearch

/-- A budget of restarts with a cooldown between them. -/
structure RestartGate where
  budget : Nat
  cooldown : Duration
  restarts : Nat := 0
  last : Option Instant := none
  deriving Repr, DecidableEq

/-- What the gate says to a restart. -/
inductive GateDecision where
  | allowed (attempt : Nat)
  | coolingDown (remaining : Duration)
  | exhausted
  deriving Repr, DecidableEq

namespace RestartGate

/-- The time that is left of the cooldown, if any. A time before the last restart counts as the
    time of that restart. -/
def coolingFor? (gate : RestartGate) (now : Instant) : Option Duration :=
  gate.last.bind fun last =>
    if now - last < gate.cooldown then some (gate.cooldown - (now - last)) else none

/-- Asks for a restart. -/
def acquire (gate : RestartGate) (now : Instant) : GateDecision × RestartGate :=
  match gate.coolingFor? now with
  | some remaining => (.coolingDown remaining, gate)
  | none =>
    if gate.budget ≤ gate.restarts then (.exhausted, gate)
    else
      (.allowed (gate.restarts + 1), { gate with restarts := gate.restarts + 1, last := some now })

/-- Clears the budget and starts a new cooldown. -/
def force (gate : RestartGate) (now : Instant) : RestartGate :=
  { gate with restarts := 0, last := some now }

end RestartGate
end SymbolSearch
