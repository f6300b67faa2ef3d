import SymbolSearch.Cache.Basic
import SymbolSearch.Session.Task

/-!
# Getting a session that takes requests

* `ReconnectPoint.step` gets the adapter of a workspace with a session that takes requests. A
  start that fails is tried again a few times; then the session is closed and leaves the cache.
-/

namespace SymbolSearch

/-- One attempt to start a session. -/
structure Attempt where
  hold : Hold
  /-- The number of attempts that failed before. -/
  failed : Nat
  adapter : AdapterId
  /-- The restarts of the session before this attempt. -/
  restarts : Nat

/-- Where getting a session stands. -/
inductive ReconnectPoint where
  | entering (entry : EntryPoint)
  | trying (attempt : Attempt) (ensure : EnsurePoint)
  | checking (attempt : Attempt) (guardPoint : GuardPoint)
  | pausing (hold : Hold) (failed : Nat) (resume : Instant)
  /-- The session is closed before the error is reported. -/
  | evicting (hold : Hold) (adapter : AdapterId) (stop : StopPoint) (error : CacheError)

namespace ReconnectPoint

/-- What steps of getting a session come to. -/
abbrev Reconnected := Stepped Cache ReconnectPoint (Except CacheError AdapterId)

/-- The error is reported, and the empty slot leaves the table. -/
def giveUp (hold : Hold) (error : CacheError) (cache : Cache) : Reconnected :=
  ((cache.unmapSlot hold.key hold.slot).leaveHold hold, .finished (.error error))

/-- Goes on from a step of closing the session. -/
def afterStop (hold : Hold) (adapter : AdapterId) (error : CacheError) :
    Stepped Cache StopPoint Unit → Reconnected
  | (cache, .blocked) => (cache, .blocked)
  | (cache, .moved stop) => (cache, .moved (.evicting hold adapter stop error))
  | (cache, .finished ()) => giveUp hold error cache

/-- The session leaves its slot and is closed. -/
def evict (now : Instant) (hold : Hold) (error : CacheError) (cache : Cache) : Reconnected :=
  match cache.emptySlot hold.slot with
  | (none, cache) => giveUp hold error cache
  | (some adapter, cache) =>
    afterStop hold adapter error (cache.stepSession adapter (StopPoint.step now .asking))

/-- An attempt has failed. -/
def afterFailure (now : Instant) (attempt : Attempt) (cache : Cache) : Reconnected :=
  let failed := attempt.failed + 1
  if max cache.settings.cache.reconnectAttempts 1 ≤ failed then
    evict now attempt.hold (.reconnectFailed attempt.hold.key.ecosystem failed) cache
  else
    (cache, .moved (.pausing attempt.hold failed (now + cache.settings.cache.reconnectDelay)))

/-- The session takes requests, and its server runs. Answers from before a restart are
    forgotten. -/
def succeed (attempt : Attempt) (cache : Cache) : Reconnected :=
  let restarts := ((cache.session? attempt.adapter).map (·.restarts)).getD attempt.restarts
  let cache :=
    if restarts = attempt.restarts then cache
    else cache.updateAdapter attempt.adapter Adapter.invalidate
  (cache.leaveHold attempt.hold, .finished (.ok attempt.adapter))

/-- Goes on from a step of looking whether the server runs. -/
def afterCheck (now : Instant) (attempt : Attempt) :
    Stepped Cache GuardPoint Bool → Reconnected
  | (cache, .blocked) => (cache, .blocked)
  | (cache, .moved guardPoint) => (cache, .moved (.checking attempt guardPoint))
  | (cache, .finished true) => succeed attempt cache
  | (cache, .finished false) => afterFailure now attempt cache

/-- Goes on from a step of bringing the session up. -/
def afterEnsure (now : Instant) (attempt : Attempt) :
    Stepped Cache EnsurePoint (Except SessionError Unit) → Reconnected
  | (cache, .blocked) => (cache, .blocked)
  | (cache, .moved ensure) => (cache, .moved (.trying attempt ensure))
  | (cache, .finished (.ok ())) =>
    afterCheck now attempt (cache.stepSession attempt.adapter (Session.stepAlive .asking))
  | (cache, .finished (.error error)) =>
    let reported := CacheError.session attempt.hold.key.ecosystem error
    if reported.isPermanent then
      (cache.leaveHold attempt.hold, .finished (.error reported))
    else if error.isConfiguration then evict now attempt.hold reported cache
    else afterFailure now attempt cache

/-- An attempt begins. -/
def begin (now : Instant) (hold : Hold) (failed : Nat) (cache : Cache) : Reconnected :=
  let (adapter, cache) := cache.adapterIn hold.key hold.server hold.slot
  let restarts := ((cache.session? adapter).map (·.restarts)).getD 0
  afterEnsure now ⟨hold, failed, adapter, restarts⟩
    (cache.stepSession adapter (EnsurePoint.step now .asking))

/-- One step of getting a session. The files are there only when the step may use them. -/
def step (now : Instant) (files : Option Tree) (point : ReconnectPoint) (cache : Cache) :
    Reconnected :=
  match point with
  | .entering entry =>
    match entry.step files cache with
    | (cache, .blocked) => (cache, .blocked)
    | (cache, .moved entry) => (cache, .moved (.entering entry))
    | (cache, .finished (.error error)) => (cache, .finished (.error error))
    | (cache, .finished (.ok hold)) => begin now hold 0 cache
  | .trying attempt ensure =>
    afterEnsure now attempt (cache.stepSession attempt.adapter (ensure.step now))
  | .checking attempt guardPoint =>
    afterCheck now attempt (cache.stepSession attempt.adapter (Session.stepAlive guardPoint))
  | .pausing hold failed resume =>
    if resume ≤ now then begin now hold failed cache else (cache, .blocked)
  | .evicting hold adapter stop error =>
    afterStop hold adapter error (cache.stepSession adapter (stop.step now))

/-- Whether the request waits for the files. -/
def wantsFiles : ReconnectPoint → Bool
  | .entering entry => entry.wantsFiles
  | _ => false

/-- The time at which the request goes on by itself. -/
def deadline? : ReconnectPoint → Option Instant
  | .trying _ ensure => ensure.deadline?
  | .pausing _ _ resume => some resume
  | .evicting _ _ stop _ => stop.deadline?
  | _ => none

/-- Gives a request up where it stands. -/
def cancel (point : ReconnectPoint) (cache : Cache) : Cache :=
  match point with
  | .entering entry => entry.cancel cache
  | .trying attempt ensure =>
    (cache.updateSession attempt.adapter ensure.cancel).leaveHold attempt.hold
  | .checking attempt guardPoint =>
    (cache.updateSession attempt.adapter (SessionTask.checkAlive guardPoint).cancel).leaveHold
      attempt.hold
  | .pausing hold _ _ => cache.leaveHold hold
  | .evicting hold adapter stop _ => (cache.updateSession adapter stop.cancel).leaveHold hold

end ReconnectPoint
end SymbolSearch
