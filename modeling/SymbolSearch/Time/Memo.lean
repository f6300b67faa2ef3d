import SymbolSearch.Time.Duration

/-!
# A memo that forgets

* `Memo` keeps values under keys for a fixed time after each was put in.
* `Memo.get` drops every value whose time is over before it looks.
-/

namespace SymbolSearch

/-- Values under keys, each with the time at which it is forgotten. -/
structure Memo (κ ν : Type) where
  lifetime : Duration
  entries : List (κ × ν × Instant) := []

namespace Memo

variable {κ ν : Type} [DecidableEq κ]

/-- Drops what is to be forgotten by now. -/
def purge (memo : Memo κ ν) (now : Instant) : Memo κ ν :=
  { memo with entries := memo.entries.filter fun entry => now < entry.2.2 }

/-- The value under a key, and the memo without what is to be forgotten by now. -/
def get (memo : Memo κ ν) (now : Instant) (key : κ) : Option ν × Memo κ ν :=
  let memo := memo.purge now
  ((memo.entries.find? fun entry => entry.1 = key).map fun entry => entry.2.1, memo)

/-- Puts a value under a key, in place of any value there. -/
def insert (memo : Memo κ ν) (now : Instant) (key : κ) (value : ν) : Memo κ ν :=
  { memo with entries :=
      (key, value, now + memo.lifetime) :: memo.entries.filter fun entry => entry.1 ≠ key }

/-- Forgets everything. -/
def clear (memo : Memo κ ν) : Memo κ ν := { memo with entries := [] }

end Memo
end SymbolSearch
