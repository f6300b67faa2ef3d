/-!
# Broadcasts

A broadcast keeps the last few items for receivers that each read at their own pace.

* `Broadcast.send` adds an item, if anyone listens.
* `Broadcast.receive` gives a receiver its next item, or the number of those that it missed.
-/

namespace SymbolSearch

/-- The items that receivers have yet to read. -/
structure Broadcast (α : Type) where
  /-- The number of items that are no longer kept. -/
  dropped : Nat := 0
  items : List α := []
  receivers : Nat := 0

/-- What a receiver gets. -/
inductive Reception (α : Type) where
  | got (item : α)
  | lagged (missed : Nat)

namespace Broadcast

/-- The number of items that are kept. -/
def capacity : Nat := 16

variable {α : Type}

/-- The place behind the last item, where new receivers start. -/
def tail (broadcast : Broadcast α) : Nat := broadcast.dropped + broadcast.items.length

/-- Adds an item; without receivers it is lost. -/
def send (broadcast : Broadcast α) (item : α) : Broadcast α :=
  if broadcast.receivers = 0 then broadcast
  else if broadcast.items.length < capacity then
    { broadcast with items := broadcast.items ++ [item] }
  else
    { broadcast with
      dropped := broadcast.dropped + 1
      items := broadcast.items.drop 1 ++ [item] }

/-- Adds a receiver, which starts at the given place. -/
def subscribe (broadcast : Broadcast α) : Broadcast α × Nat :=
  ({ broadcast with receivers := broadcast.receivers + 1 }, broadcast.tail)

/-- Ends a receiver. -/
def unsubscribe (broadcast : Broadcast α) : Broadcast α :=
  { broadcast with receivers := broadcast.receivers - 1 }

/-- What a receiver at a place gets, and its next place; nothing if it has read everything. -/
def receive (broadcast : Broadcast α) (place : Nat) : Option (Reception α × Nat) :=
  if place < broadcast.dropped then
    some (.lagged (broadcast.dropped - place), broadcast.dropped)
  else (broadcast.items[place - broadcast.dropped]?).map fun item => (.got item, place + 1)

end Broadcast
end SymbolSearch
