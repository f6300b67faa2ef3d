import SymbolSearch.Cache.Basic
import SymbolSearch.Session.Task

/-!
# Resetting and closing sessions of the cache

* `RevivePoint.step` resets the session of one workspace, if there is one.
* `DisconnectPoint.step` closes the sessions of a workspace, or all of them, one after the other.
-/

namespace SymbolSearch

/-- Where resetting a session stands. -/
inductive RevivePoint where
  | entering (entry : EntryPoint)
  | resetting (hold : Hold) (adapter : AdapterId) (guardPoint : GuardPoint)

namespace RevivePoint

/-- What steps of resetting a session come to. -/
abbrev Revived := Stepped Cache RevivePoint (Except CacheError Bool)

/-- Goes on from a step of the reset itself. -/
def afterReset (hold : Hold) (adapter : AdapterId) : Stepped Cache GuardPoint Bool → Revived
  | (cache, .blocked) => (cache, .blocked)
  | (cache, .moved guardPoint) => (cache, .moved (.resetting hold adapter guardPoint))
  | (cache, .finished changed) => (cache.leaveHold hold, .finished (.ok changed))

/-- One step of resetting a session. The files are there only when the step may use them. -/
def step (files : Option Tree) (point : RevivePoint) (cache : Cache) : Revived :=
  match point with
  | .entering entry =>
    match entry.step files cache with
    | (cache, .blocked) => (cache, .blocked)
    | (cache, .moved entry) => (cache, .moved (.entering entry))
    | (cache, .finished (.error error)) => (cache, .finished (.error error))
    | (cache, .finished (.ok hold)) =>
      match (cache.slotAt hold.slot).adapter with
      | none => (cache.leaveHold hold, .finished (.ok false))
      | some adapter =>
        afterReset hold adapter ((cache.updateAdapter adapter Adapter.invalidate).stepSession
          adapter (Session.stepReset .asking))
  | .resetting hold adapter guardPoint =>
    afterReset hold adapter (cache.stepSession adapter (Session.stepReset guardPoint))

/-- Whether the request waits for the files. -/
def wantsFiles : RevivePoint → Bool
  | .entering entry => entry.wantsFiles
  | _ => false

/-- Gives a request up where it stands. -/
def cancel (point : RevivePoint) (cache : Cache) : Cache :=
  match point with
  | .entering entry => entry.cancel cache
  | .resetting hold adapter guardPoint =>
    (cache.updateSession adapter (SessionTask.reset guardPoint).cancel).leaveHold hold

end RevivePoint

/-- Where closing sessions stands. -/
inductive DisconnectPoint where
  | starting
  /-- The root of the workspace is looked up among the files. -/
  | finding (workspace : Path)
  | working (rest : List (CacheKey × SlotId)) (closed : Nat)
  | queued (key : CacheKey) (slot : SlotId) (ticket : Ticket) (rest : List (CacheKey × SlotId))
    (closed : Nat)
  | stopping (key : CacheKey) (slot : SlotId) (ticket : Ticket) (rest : List (CacheKey × SlotId))
    (closed : Nat) (adapter : AdapterId) (stop : StopPoint)

namespace DisconnectPoint

/-- What steps of closing sessions come to: the number of those that were closed. -/
abbrev Disconnected := Stepped Cache DisconnectPoint Nat

/-- Takes hold of slots, to close their sessions one after the other. -/
def gather (cache : Cache) (chosen : List (CacheKey × SlotId)) : Disconnected :=
  (chosen.foldl (fun cache (_, slot) =>
      cache.updateSlot slot fun found => { found with holders := found.holders + 1 }) cache,
    .moved (.working chosen 0))

/-- The end of what is done with one slot. -/
def release (key : CacheKey) (slot : SlotId) (ticket : Ticket) (rest : List (CacheKey × SlotId))
    (closed : Nat) (cache : Cache) : Disconnected :=
  (((cache.unmapSlot key slot).leaveSlot slot ticket).dropSlot slot, .moved (.working rest closed))

/-- Goes on from a step of closing one session. -/
def afterStop (key : CacheKey) (slot : SlotId) (ticket : Ticket)
    (rest : List (CacheKey × SlotId)) (closed : Nat) (adapter : AdapterId) :
    Stepped Cache StopPoint Unit → Disconnected
  | (cache, .blocked) => (cache, .blocked)
  | (cache, .moved stop) => (cache, .moved (.stopping key slot ticket rest closed adapter stop))
  | (cache, .finished ()) => release key slot ticket rest (closed + 1) cache

/-- One step of closing sessions. The files are there only when the step may use them. -/
def step (now : Instant) (files : Option Tree) (point : DisconnectPoint) (cache : Cache) :
    Disconnected :=
  match point with
  | .starting => gather cache cache.mapped
  | .finding workspace =>
    match files with
    | none => (cache, .blocked)
    | some tree =>
      let root := ((tree.canonical workspace).toOption).getD workspace
      gather cache (cache.mapped.filter fun (key, _) => key.root.same root)
  | .working [] closed => (cache, .finished closed)
  | .working ((key, slot) :: rest) closed =>
    let (ticket, cache) := cache.joinSlot slot
    (cache, .moved (.queued key slot ticket rest closed))
  | .queued key slot ticket rest closed =>
    if (cache.slotAt slot).turns.holds ticket then
      match cache.emptySlot slot with
      | (none, cache) => release key slot ticket rest closed cache
      | (some adapter, cache) =>
        afterStop key slot ticket rest closed adapter
          (cache.stepSession adapter (StopPoint.step now .asking))
    else (cache, .blocked)
  | .stopping key slot ticket rest closed adapter stop =>
    afterStop key slot ticket rest closed adapter (cache.stepSession adapter (stop.step now))

/-- Whether the operation waits for the files. -/
def wantsFiles : DisconnectPoint → Bool
  | .finding _ => true
  | _ => false

/-- The time at which the operation goes on by itself. -/
def deadline? : DisconnectPoint → Option Instant
  | .stopping _ _ _ _ _ _ stop => stop.deadline?
  | _ => none

/-- The slots that were gathered are given up. -/
def dropAll (slots : List (CacheKey × SlotId)) (cache : Cache) : Cache :=
  slots.foldl (fun cache (_, slot) => cache.dropSlot slot) cache

/-- Gives the operation up where it stands. -/
def cancel (point : DisconnectPoint) (cache : Cache) : Cache :=
  match point with
  | .starting => cache
  | .finding _ => cache
  | .working rest _ => dropAll rest cache
  | .queued _ slot ticket rest _ =>
    dropAll rest ((cache.leaveSlot slot ticket).dropSlot slot)
  | .stopping _ slot ticket rest _ adapter stop =>
    dropAll rest (((cache.updateSession adapter stop.cancel).leaveSlot slot ticket).dropSlot slot)

end DisconnectPoint
end SymbolSearch
