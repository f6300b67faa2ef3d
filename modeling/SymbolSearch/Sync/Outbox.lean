import SymbolSearch.Sync.Turns

/-!
# Outboxes

A queue with room for a fixed number of items, from any number of senders to one receiver.

* `Outbox.offer` puts an item in, or gives the sender a place in the line for room.
* `Outbox.claim` puts an item in once room has been given to the sender.
* `Outbox.take` takes the first item out, and gives its room to the first in line.
* `Outbox.close` is the end of the receiver, and `Outbox.release` that of one sender.
-/

namespace SymbolSearch

/-- A queue from senders to one receiver. -/
structure Outbox (α : Type) where
  /-- The items, the first one to be taken first. -/
  items : List α := []
  /-- The senders who wait for room. -/
  waiting : List Ticket := []
  /-- The senders to whom room was given that they have not used yet. -/
  granted : List Ticket := []
  next : Ticket := 0
  /-- Whether there still is a receiver. -/
  isOpen : Bool := true
  /-- The number of senders. -/
  senders : Nat

/-- How far a sender has come with an item. -/
inductive Sending where
  | sent
  | refused
  | waits (ticket : Ticket)
  deriving DecidableEq, Repr

namespace Outbox

/-- The number of items for which there is room. -/
def capacity : Nat := 64

variable {α : Type}

/-- Puts an item in if there is room, or else joins the line. -/
def offer (outbox : Outbox α) (item : α) : Outbox α × Sending :=
  if !outbox.isOpen then (outbox, .refused)
  else if outbox.items.length + outbox.granted.length < capacity then
    ({ outbox with items := outbox.items ++ [item] }, .sent)
  else
    ({ outbox with waiting := outbox.waiting ++ [outbox.next], next := outbox.next + 1 },
      .waits outbox.next)

/-- Puts an item in if room has been given to the ticket. Without a receiver no room helps. -/
def claim (outbox : Outbox α) (ticket : Ticket) (item : α) : Outbox α × Sending :=
  if !outbox.isOpen then (outbox, .refused)
  else if outbox.granted.contains ticket then
    ({ outbox with granted := outbox.granted.erase ticket, items := outbox.items ++ [item] }, .sent)
  else (outbox, .waits ticket)

/-- Gives room for one item to the first in line. -/
def grant (outbox : Outbox α) : Outbox α :=
  match outbox.waiting with
  | [] => outbox
  | first :: others =>
    { outbox with waiting := others, granted := outbox.granted ++ [first] }

/-- Gives up the place in the line, or the room that was given. -/
def abandon (outbox : Outbox α) (ticket : Ticket) : Outbox α :=
  if outbox.granted.contains ticket then
    { outbox with granted := outbox.granted.erase ticket }.grant
  else { outbox with waiting := outbox.waiting.erase ticket }

/-- Takes the first item out. -/
def take (outbox : Outbox α) : Outbox α × Option α :=
  match outbox.items with
  | [] => (outbox, none)
  | first :: others => ({ outbox with items := others }.grant, some first)

/-- Ends the receiver; what is in the queue is lost. -/
def close (outbox : Outbox α) : Outbox α :=
  { outbox with items := [], waiting := [], isOpen := false }

/-- Adds a sender. -/
def retain (outbox : Outbox α) : Outbox α := { outbox with senders := outbox.senders + 1 }

/-- Ends a sender. -/
def release (outbox : Outbox α) : Outbox α := { outbox with senders := outbox.senders - 1 }

end Outbox
end SymbolSearch
