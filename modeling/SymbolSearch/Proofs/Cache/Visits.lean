import Mathlib.Logic.Relation
import SymbolSearch.Proofs.Cache.Course

/-!
# Visits to the slots

Whatever an operation does with a cache, it does in small moves: it takes slots, waits for the guard
of one, works with the adapter there, takes it out and closes it, and leaves.

* `VisitMove` — one move, and `VisitMoves` any number of them.
* `VisitMoves.leaveHold`, `VisitMoves.release`, `VisitMoves.adapterIn`, `VisitMoves.empty` — moves
  that belong together.

`ReconnectMoves` says once what a step of getting a session can do, and `ReconnectPoint.step_moves`
that it does nothing else.
-/

namespace SymbolSearch

/-- A cache with one of its operations. `taken` is the key whose slot was emptied on the way. -/
structure Visit where
  cache : Cache
  stance : Stance
  taken : Option CacheKey

namespace Cache

/-- The cache after one more operation has a slot. -/
def takeSlot (cache : Cache) (id : SlotId) : Cache :=
  cache.updateSlot id fun slot => { slot with holders := slot.holders + 1 }

/-- The cache with a new slot for a key, which one operation has. -/
def openSlot (cache : Cache) (key : CacheKey) : Cache :=
  { cache with
    slots := cache.slots ++ [{ holders := 1 }]
    mapped := cache.mapped ++ [(key, cache.slots.length)] }

/-- The cache in which a key leads to no slot. -/
def unmap (cache : Cache) (key : CacheKey) : Cache :=
  { cache with mapped := cache.mapped.filter fun entry => entry.1 ≠ key }

end Cache

/-- One move. Whether an operation may leave while it closes a session depends on whether it may be
    given up. -/
inductive VisitMove (now : Instant) (mayDesert : Prop) : Visit → Visit → Prop where
  | touches (cache : Cache) (stance : Stance) (taken : Option CacheKey) (id : AdapterId)
      (change : Adapter → Adapter)
      (calm : ∀ adapter, cache.adapters[id]? = some adapter → adapter.Calm now (change adapter)) :
      VisitMove now mayDesert ⟨cache, stance, taken⟩ ⟨cache.updateAdapter id change, stance, taken⟩
  | opens (cache : Cache) (taken : Option CacheKey) (key : CacheKey)
      (fresh : cache.mapped.lookup key = none) :
      VisitMove now mayDesert ⟨cache, .has [], taken⟩
        ⟨cache.openSlot key, .has [(key, cache.slots.length)], taken⟩
  | takes (cache : Cache) (rest : List (CacheKey × SlotId)) (taken : Option CacheKey)
      (claim : CacheKey × SlotId) (mapped : claim ∈ cache.mapped) :
      VisitMove now mayDesert ⟨cache, .has rest, taken⟩
        ⟨cache.takeSlot claim.2, .has (rest ++ [claim]), taken⟩
  | approaches (cache : Cache) (rest : List (CacheKey × SlotId)) (taken : Option CacheKey)
      (claim : CacheKey × SlotId) :
      VisitMove now mayDesert ⟨cache, .has (claim :: rest), taken⟩
        ⟨(cache.joinSlot claim.2).2, .queued ⟨claim.1, claim.2, (cache.joinSlot claim.2).1⟩ rest,
          taken⟩
  | enters (cache : Cache) (seat : Seat) (rest : List (CacheKey × SlotId))
      (taken : Option CacheKey)
      (holds : (cache.slotAt seat.slot).turns.holder = some seat.ticket) :
      VisitMove now mayDesert ⟨cache, .queued seat rest, taken⟩
        ⟨cache, .inside seat rest .nothing, taken⟩
  | finds (cache : Cache) (seat : Seat) (rest : List (CacheKey × SlotId)) (taken : Option CacheKey)
      (adapter : AdapterId) (kept : (cache.slotAt seat.slot).adapter = some adapter) :
      VisitMove now mayDesert ⟨cache, .inside seat rest .nothing, taken⟩
        ⟨cache, .inside seat rest (.keeps adapter), taken⟩
  | makes (cache : Cache) (seat : Seat) (rest : List (CacheKey × SlotId)) (taken : Option CacheKey)
      (server : ServerConfig) (empty : (cache.slotAt seat.slot).adapter = none) :
      VisitMove now mayDesert ⟨cache, .inside seat rest .nothing, taken⟩
        ⟨(cache.adapterIn seat.key server seat.slot).2,
          .inside seat rest (.keeps cache.adapters.length), taken⟩
  | pauses (cache : Cache) (seat : Seat) (rest : List (CacheKey × SlotId))
      (taken : Option CacheKey) (adapter : AdapterId) :
      VisitMove now mayDesert ⟨cache, .inside seat rest (.keeps adapter), taken⟩
        ⟨cache, .inside seat rest .nothing, taken⟩
  | works (cache : Cache) (seat : Seat) (rest : List (CacheKey × SlotId)) (taken : Option CacheKey)
      (id : AdapterId) (change : Adapter → Adapter)
      (key : ∀ adapter, cache.adapters[id]? = some adapter → (change adapter).key = adapter.key) :
      VisitMove now mayDesert ⟨cache, .inside seat rest (.keeps id), taken⟩
        ⟨cache.updateAdapter id change, .inside seat rest (.keeps id), taken⟩
  | empties (cache : Cache) (seat : Seat) (rest : List (CacheKey × SlotId))
      (adapter : AdapterId) :
      VisitMove now mayDesert ⟨cache, .inside seat rest (.keeps adapter), none⟩
        ⟨(cache.emptySlot seat.slot).2, .inside seat rest (.closes adapter), some seat.key⟩
  | stops (cache : Cache) (seat : Seat) (rest : List (CacheKey × SlotId)) (taken : Option CacheKey)
      (id : AdapterId) (change : Adapter → Adapter)
      (key : ∀ adapter, cache.adapters[id]? = some adapter → (change adapter).key = adapter.key) :
      VisitMove now mayDesert ⟨cache, .inside seat rest (.closes id), taken⟩
        ⟨cache.updateAdapter id change, .inside seat rest (.closes id), taken⟩
  | closes (cache : Cache) (seat : Seat) (rest : List (CacheKey × SlotId))
      (taken : Option CacheKey) (id : AdapterId) (session : Session)
      (found : cache.session? id = some session) (closed : session.state = .closed) :
      VisitMove now mayDesert ⟨cache, .inside seat rest (.closes id), taken⟩
        ⟨cache, .inside seat rest .nothing, taken⟩
  | leaves (cache : Cache) (seat : Seat) (rest : List (CacheKey × SlotId))
      (taken : Option CacheKey) (work : Work) (done : mayDesert ∨ ∀ id, work ≠ .closes id) :
      VisitMove now mayDesert ⟨cache, .inside seat rest work, taken⟩
        ⟨cache.leaveSlot seat.slot seat.ticket, .has (seat.claim :: rest), taken⟩
  | turnsBack (cache : Cache) (seat : Seat) (rest : List (CacheKey × SlotId))
      (taken : Option CacheKey) :
      VisitMove now mayDesert ⟨cache, .queued seat rest, taken⟩
        ⟨cache.leaveSlot seat.slot seat.ticket, .has (seat.claim :: rest), taken⟩
  | drops (cache : Cache) (rest : List (CacheKey × SlotId)) (taken : Option CacheKey)
      (claim : CacheKey × SlotId) :
      VisitMove now mayDesert ⟨cache, .has (claim :: rest), taken⟩
        ⟨cache.dropSlot claim.2, .has rest, taken⟩
  | unmaps (cache : Cache) (stance : Stance) (taken : Option CacheKey) (key : CacheKey)
      (id : SlotId) (found : cache.mapped.lookup key = some id)
      (unused : (cache.slotAt id).holders = 0) (empty : (cache.slotAt id).adapter = none) :
      VisitMove now mayDesert ⟨cache, stance, taken⟩ ⟨cache.unmap key, stance, taken⟩

/-- Any number of moves. -/
abbrev VisitMoves (now : Instant) (mayDesert : Prop) :=
  Relation.ReflTransGen (VisitMove now mayDesert)

/-! ### Slots -/

namespace Cache

variable {cache : Cache} {id other : SlotId} {change : Slot → Slot}

theorem slotAt_updateSlot_self (h : id < cache.slots.length) (change : Slot → Slot) :
    (cache.updateSlot id change).slotAt id = change (cache.slotAt id) := by
  simp [slotAt, updateSlot, h]

theorem slotAt_updateSlot_of_ne (h : id ≠ other) (change : Slot → Slot) :
    (cache.updateSlot id change).slotAt other = cache.slotAt other := by
  simp [slotAt, updateSlot, h]

/-- A change that leaves the adapter alone. -/
theorem adapter_updateSlot (hchange : ∀ slot, (change slot).adapter = slot.adapter)
    (other : SlotId) :
    ((cache.updateSlot id change).slotAt other).adapter = (cache.slotAt other).adapter := by
  by_cases hid : id = other
  · subst hid
    cases hslot : cache.slots[id]? with
    | none => simp [slotAt, updateSlot, hslot]
    | some slot => simp [slotAt, updateSlot, hslot, hchange]
  · rw [slotAt_updateSlot_of_ne hid]

theorem lt_of_holders (h : (cache.slotAt id).holders ≠ 0) : id < cache.slots.length := by
  by_contra hle
  rw [slotAt, List.getElem?_eq_none (Nat.le_of_not_lt hle)] at h
  exact h rfl

theorem mem_mapped_of_lookup {key : CacheKey} (h : cache.mapped.lookup key = some id) :
    (key, id) ∈ cache.mapped := by
  obtain ⟨before, after, heq, -⟩ := List.lookup_eq_some_iff.mp h
  simp [heq]

/-- Nothing changes when an empty slot is emptied. -/
theorem emptySlot_of_none (h : (cache.slotAt id).adapter = none) :
    cache.emptySlot id = (none, cache) := by
  have hslots : (cache.slots.modify id fun slot => { slot with adapter := none }) = cache.slots := by
    refine List.ext_getElem? fun i => ?_
    rw [List.getElem?_modify]
    by_cases hi : id = i
    · subst hi
      rw [slotAt] at h
      cases hslot : cache.slots[id]? with
      | none => rfl
      | some slot =>
        rw [hslot] at h
        obtain ⟨turns, adapter, holders⟩ := slot
        obtain rfl : adapter = none := h
        simp
    · simp [hi]
  rw [emptySlot, h, updateSlot, hslots]

end Cache

/-! ### Sessions -/

namespace Cache

/-- A step of the session of an adapter, if there is such an adapter. -/
theorem stepSession_cases {π ρ : Type} (cache : Cache) (id : AdapterId)
    (step : Session → Stepped Session π ρ) :
    cache.stepSession id step = (cache, .blocked) ∨
      ∃ adapter, cache.adapters[id]? = some adapter ∧ cache.stepSession id step =
        (cache.updateAdapter id fun _ => { adapter with session := (step adapter.session).1 },
          (step adapter.session).2) := by
  rw [stepSession, stepAdapter]
  cases h : cache.adapters[id]? with
  | none => exact .inl rfl
  | some adapter => exact .inr ⟨adapter, rfl, rfl⟩

theorem session?_updateAdapter_self {cache : Cache} {id : AdapterId} {adapter : Adapter}
    (h : cache.adapters[id]? = some adapter) (change : Adapter → Adapter) :
    (cache.updateAdapter id change).session? id = some (change adapter).session := by
  simp [session?, updateAdapter, h]

end Cache

/-- A session that has been closed is closed. -/
theorem StopPoint.closed_of_finished {now : Instant} {point : StopPoint} {s : Session}
    (h : (point.step now s).2 = .finished ()) : (point.step now s).1.state = .closed := by
  have hmoves := point.step_moves now s
  generalize point.step now s = stepped at h hmoves
  cases hmoves with
  | leaves ticket holds closed => exact closed
  | finishes | drains => rfl
  | blocks | joins | parts | goesOn | takes => cases h

/-! ### Moves that belong together -/

namespace VisitMoves

variable {now : Instant} {mayDesert : Prop} {start : Visit} {cache : Cache} {seat : Seat}
  {rest : List (CacheKey × SlotId)} {taken : Option CacheKey} {work : Work} {id : AdapterId}

theorem leaveHold (h : VisitMoves now mayDesert start ⟨cache, .inside seat rest work, taken⟩)
    (hdone : mayDesert ∨ ∀ id, work ≠ .closes id) :
    VisitMoves now mayDesert start
      ⟨(cache.leaveSlot seat.slot seat.ticket).dropSlot seat.slot, .has rest, taken⟩ :=
  (h.tail (.leaves cache seat rest taken work hdone)).tail (.drops _ rest taken seat.claim)

/-- An empty slot that nobody else has leaves the table. -/
theorem release (h : VisitMoves now mayDesert start ⟨cache, .inside seat rest .nothing, taken⟩) :
    VisitMoves now mayDesert start
      ⟨((cache.unmapSlot seat.key seat.slot).leaveSlot seat.slot seat.ticket).dropSlot seat.slot,
        .has rest, taken⟩ := by
  have hleft := h.leaveHold (.inr (by rintro id ⟨⟩))
  by_cases hunmap : cache.mapped.lookup seat.key = some seat.slot ∧
      (cache.slotAt seat.slot).holders = 1 ∧ (cache.slotAt seat.slot).adapter = none
  · obtain ⟨hfound, hholders, hempty⟩ := hunmap
    have hlt : seat.slot < cache.slots.length := Cache.lt_of_holders (by rw [hholders]; simp)
    have hlt' : seat.slot < (cache.leaveSlot seat.slot seat.ticket).slots.length := by
      simpa [Cache.leaveSlot, Cache.updateSlot] using hlt
    have hslot : ((cache.leaveSlot seat.slot seat.ticket).dropSlot seat.slot).slotAt seat.slot =
        { cache.slotAt seat.slot with
          turns := (cache.slotAt seat.slot).turns.leave seat.ticket
          holders := (cache.slotAt seat.slot).holders - 1 } := by
      rw [Cache.dropSlot, Cache.slotAt_updateSlot_self hlt', Cache.leaveSlot,
        Cache.slotAt_updateSlot_self hlt]
    have hunused : (((cache.leaveSlot seat.slot seat.ticket).dropSlot seat.slot).slotAt
        seat.slot).holders = 0 := by rw [hslot, hholders]
    have hempty' : (((cache.leaveSlot seat.slot seat.ticket).dropSlot seat.slot).slotAt
        seat.slot).adapter = none := by rw [hslot, hempty]
    have hsame : ((cache.unmapSlot seat.key seat.slot).leaveSlot seat.slot seat.ticket).dropSlot
        seat.slot = ((cache.leaveSlot seat.slot seat.ticket).dropSlot seat.slot).unmap seat.key := by
      simp only [Cache.unmapSlot, hfound, hholders, hempty]
      rfl
    rw [hsame]
    exact hleft.tail (.unmaps _ (.has rest) taken seat.key seat.slot hfound hunused hempty')
  · have hsame : cache.unmapSlot seat.key seat.slot = cache := by
      rw [Cache.unmapSlot, if_neg]
      simpa [and_assoc] using hunmap
    rw [hsame]
    exact hleft

/-- The adapter in a slot, which is made if there is none. -/
theorem adapterIn (h : VisitMoves now mayDesert start ⟨cache, .inside seat rest .nothing, taken⟩)
    (server : ServerConfig) :
    VisitMoves now mayDesert start ⟨(cache.adapterIn seat.key server seat.slot).2,
      .inside seat rest (.keeps (cache.adapterIn seat.key server seat.slot).1), taken⟩ := by
  cases hslot : (cache.slotAt seat.slot).adapter with
  | none =>
    have hmakes := h.tail (.makes cache seat rest taken server hslot)
    have hid : (cache.adapterIn seat.key server seat.slot).1 = cache.adapters.length := by
      simp only [Cache.adapterIn, hslot]
    rw [hid]
    exact hmakes
  | some adapter =>
    have hsame : cache.adapterIn seat.key server seat.slot = (adapter, cache) := by
      simp only [Cache.adapterIn, hslot]
    rw [hsame]
    exact h.tail (.finds cache seat rest taken adapter hslot)

theorem stepSession {π ρ : Type} (step : Session → Stepped Session π ρ)
    (h : VisitMoves now mayDesert start ⟨cache, .inside seat rest (.keeps id), taken⟩) :
    VisitMoves now mayDesert start
      ⟨(cache.stepSession id step).1, .inside seat rest (.keeps id), taken⟩ := by
  rcases cache.stepSession_cases id step with hstep | ⟨adapter, hadapter, hstep⟩
  · rw [hstep]
    exact h
  · rw [hstep]
    refine h.tail (.works cache seat rest taken id _ fun found hfound => ?_)
    obtain rfl : adapter = found := Option.some.inj (hadapter.symm.trans hfound)
    rfl

theorem stopSession {π ρ : Type} (step : Session → Stepped Session π ρ)
    (h : VisitMoves now mayDesert start ⟨cache, .inside seat rest (.closes id), taken⟩) :
    VisitMoves now mayDesert start
      ⟨(cache.stepSession id step).1, .inside seat rest (.closes id), taken⟩ := by
  rcases cache.stepSession_cases id step with hstep | ⟨adapter, hadapter, hstep⟩
  · rw [hstep]
    exact h
  · rw [hstep]
    refine h.tail (.stops cache seat rest taken id _ fun found hfound => ?_)
    obtain rfl : adapter = found := Option.some.inj (hadapter.symm.trans hfound)
    rfl

/-- The adapter of a slot is taken out, and its session begins to be closed. -/
theorem empty (h : VisitMoves now mayDesert start ⟨cache, .inside seat rest .nothing, none⟩)
    (hslot : (cache.slotAt seat.slot).adapter = some id) :
    VisitMoves now mayDesert start
      ⟨(cache.emptySlot seat.slot).2, .inside seat rest (.closes id), some seat.key⟩ :=
  (h.tail (.finds cache seat rest none id hslot)).tail (.empties cache seat rest id)

end VisitMoves

/-- What the cache was made with stays as it is. -/
theorem VisitMoves.given {now : Instant} {mayDesert : Prop} {visit visit' : Visit}
    (hmoves : VisitMoves now mayDesert visit visit') :
    visit'.cache.settings = visit.cache.settings ∧ visit'.cache.servers = visit.cache.servers := by
  induction hmoves with
  | refl => exact ⟨rfl, rfl⟩
  | tail _ hmove ih =>
    obtain ⟨hsettings, hservers⟩ := ih
    cases hmove with
    | makes cache seat rest taken server empty =>
      simp only [Cache.adapterIn, empty]
      exact ⟨hsettings, hservers⟩
    | touches | opens | takes | approaches | enters | finds | pauses | works | empties | stops
    | closes | leaves | turnsBack | drops | unmaps => exact ⟨hsettings, hservers⟩

/-- A session that an operation of the cache has closed is closed. -/
theorem Cache.closed_of_finished {now : Instant} {cache : Cache} {id : AdapterId}
    {stop : StopPoint} (h : (cache.stepSession id (stop.step now)).2 = .finished ()) :
    ∃ session, (cache.stepSession id (stop.step now)).1.session? id = some session ∧
      session.state = .closed := by
  rcases cache.stepSession_cases id (stop.step now) with hstep | ⟨adapter, hadapter, hstep⟩
  · rw [hstep] at h
    cases h
  · rw [hstep] at h ⊢
    exact ⟨_, session?_updateAdapter_self hadapter _, StopPoint.closed_of_finished h⟩

/-! ### What getting a session can do -/

namespace ReconnectPoint

/-- The attempt that is being made. -/
def attempt? : ReconnectPoint → Option Attempt
  | .trying attempt _ | .checking attempt _ => some attempt
  | _ => none

end ReconnectPoint

/-- The number of attempts that one request has. -/
def SearchSettings.attempts (settings : SearchSettings) : Nat :=
  max settings.cache.reconnectAttempts 1

/-- Whether an error is one for which the session is evicted: the server cannot be launched at all,
    or all attempts have failed. -/
def Attempt.IsFinal (attempt : Attempt) (cache : Cache) (error : CacheError) : Prop :=
  (∃ command, error = .session attempt.hold.key.ecosystem (.commandNotFound command)) ∨
    cache.settings.attempts ≤ attempt.failed + 1 ∧
      error = .reconnectFailed attempt.hold.key.ecosystem (attempt.failed + 1)

open ReconnectPoint in
/-- What a step of getting a session can do. -/
inductive ReconnectMoves (now : Instant) (files : Option Tree) (cache : Cache) :
    ReconnectPoint → Reconnected → Prop where
  | blocks (point : ReconnectPoint) (m : Cache) : ReconnectMoves now files cache point (m, .blocked)
  | comes (entry entry' : EntryPoint) (m : Cache)
      (step : entry.step files cache = (m, .moved entry')) :
      ReconnectMoves now files cache (.entering entry) (m, .moved (.entering entry'))
  | refuses (entry : EntryPoint) (error : CacheError)
      (step : entry.step files cache = (cache, .finished (.error error))) :
      ReconnectMoves now files cache (.entering entry) (cache, .finished (.error error))
  | begins (point : ReconnectPoint) (hold : Hold) (failed : Nat) (m : Cache) (id : AdapterId)
      (s : Session) (ticket : Ticket)
      (ready : point = .entering (.queued hold) ∧ failed = 0 ∨
        ∃ resume, point = .pausing hold failed resume)
      (found : m.session? id = some s) :
      ReconnectMoves now files cache point
        (m, .moved (.trying ⟨hold, failed, id, s.restarts⟩ (.queued ticket)))
  | tries (attempt : Attempt) (ensure ensure' : EnsurePoint) (s : Session)
      (found : cache.session? attempt.adapter = some s)
      (step : (ensure.step now s).2 = .moved ensure') :
      ReconnectMoves now files cache (.trying attempt ensure)
        ((cache.stepSession attempt.adapter (ensure.step now)).1, .moved (.trying attempt ensure'))
  | checks (point : ReconnectPoint) (attempt : Attempt) (m : Cache) (s : Session) (ticket : Ticket)
      (trying : point.attempt? = some attempt) (found : m.session? attempt.adapter = some s)
      (accepts : s.state.acceptsRequests = true) :
      ReconnectMoves now files cache point (m, .moved (.checking attempt (.queued ticket)))
  | succeeds (attempt : Attempt) (ticket : Ticket) (s : Session)
      (found : cache.session? attempt.adapter = some s) (live : s.hasLiveConnection = true) :
      ReconnectMoves now files cache (.checking attempt (.queued ticket))
        (succeed attempt (cache.stepSession attempt.adapter (Session.stepAlive (.queued ticket))).1)
  | exhausts (attempt : Attempt) (ensure : EnsurePoint) (s : Session) (restarts : Nat)
      (found : cache.session? attempt.adapter = some s)
      (step : (ensure.step now s).2 = .finished (.error (.restartBudgetExhausted restarts))) :
      ReconnectMoves now files cache (.trying attempt ensure)
        ((cache.stepSession attempt.adapter (ensure.step now)).1.leaveHold attempt.hold,
          .finished (.error (.session attempt.hold.key.ecosystem
            (.restartBudgetExhausted restarts))))
  | pauses (point : ReconnectPoint) (attempt : Attempt) (m : Cache) (resume : Instant)
      (trying : point.attempt? = some attempt) (again : attempt.failed + 1 < cache.settings.attempts) :
      ReconnectMoves now files cache point
        (m, .moved (.pausing attempt.hold (attempt.failed + 1) resume))
  | evicts (point : ReconnectPoint) (attempt : Attempt) (m : Cache) (id : AdapterId)
      (stop : StopPoint) (error : CacheError) (trying : point.attempt? = some attempt)
      (taken : (cache.slotAt attempt.hold.slot).adapter = some id)
      (final : attempt.IsFinal cache error) :
      ReconnectMoves now files cache point (m, .moved (.evicting attempt.hold id stop error))
  | misses (point : ReconnectPoint) (attempt : Attempt) (m : Cache) (error : CacheError)
      (trying : point.attempt? = some attempt)
      (empty : (cache.slotAt attempt.hold.slot).adapter = none) :
      ReconnectMoves now files cache point (m, .finished (.error error))
  | stops (hold : Hold) (id : AdapterId) (stop stop' : StopPoint) (error : CacheError) (m : Cache) :
      ReconnectMoves now files cache (.evicting hold id stop error)
        (m, .moved (.evicting hold id stop' error))
  | ends (hold : Hold) (id : AdapterId) (stop : StopPoint) (error : CacheError) (s : Session)
      (found : (cache.stepSession id (stop.step now)).1.session? id = some s)
      (closed : s.state = .closed) :
      ReconnectMoves now files cache (.evicting hold id stop error)
        (giveUp hold error (cache.stepSession id (stop.step now)).1)

/-- The way to a slot ends at the slot or with a refusal, and nothing changes at its end. -/
theorem EntryPoint.finished_cases {files : Option Tree} {cache m : Cache} (entry : EntryPoint)
    {result : Except CacheError Hold} (h : entry.step files cache = (m, .finished result)) :
    m = cache ∧ ∀ hold, result = .ok hold → entry = .queued hold := by
  cases entry with
  | starting ecosystem workspace =>
    simp only [step] at h
    split at h
    next =>
      cases h
      exact ⟨rfl, by rintro _ ⟨⟩⟩
    next => cases h
  | finding ecosystem server workspace =>
    simp only [step] at h
    split at h
    next => cases h
    next =>
      split at h
      next =>
        cases h
        exact ⟨rfl, by rintro _ ⟨⟩⟩
      next => cases h
  | queued hold =>
    simp only [step] at h
    split at h
    next =>
      cases h
      exact ⟨rfl, by rintro _ ⟨⟩; rfl⟩
    next => cases h

namespace ReconnectPoint

variable {now : Instant} {files : Option Tree} {cache m : Cache} {point : ReconnectPoint}
  {attempt : Attempt}

/-- A step with a session changes nothing but adapters. -/
theorem stepSession_eq {π ρ : Type} (cache : Cache) (id : AdapterId)
    (step : Session → Stepped Session π ρ) :
    (cache.stepSession id step).1 =
      { cache with adapters := (cache.stepSession id step).1.adapters } := by
  rcases cache.stepSession_cases id step with hstep | ⟨adapter, -, hstep⟩
  · rw [hstep]
  · rw [hstep]
    rfl

theorem slotAt_stepSession {π ρ : Type} (cache : Cache) (id : AdapterId)
    (step : Session → Stepped Session π ρ) (slot : SlotId) :
    (cache.stepSession id step).1.slotAt slot = cache.slotAt slot := by
  rw [stepSession_eq]
  rfl

theorem settings_stepSession {π ρ : Type} (cache : Cache) (id : AdapterId)
    (step : Session → Stepped Session π ρ) :
    (cache.stepSession id step).1.settings = cache.settings := by
  rw [stepSession_eq]

theorem mapped_stepSession {π ρ : Type} (cache : Cache) (id : AdapterId)
    (step : Session → Stepped Session π ρ) :
    (cache.stepSession id step).1.mapped = cache.mapped := by
  rw [stepSession_eq]

theorem evict_moves (htrying : point.attempt? = some attempt)
    (hslot : m.slotAt attempt.hold.slot = cache.slotAt attempt.hold.slot) {error : CacheError}
    (hfinal : attempt.IsFinal cache error) :
    ReconnectMoves now files cache point (evict now attempt.hold error m) := by
  unfold evict
  cases hadapter : (m.slotAt attempt.hold.slot).adapter with
  | none =>
    rw [Cache.emptySlot_of_none hadapter]
    exact .misses point attempt _ error htrying (hslot ▸ hadapter)
  | some id =>
    have hempty : m.emptySlot attempt.hold.slot = (some id, (m.emptySlot attempt.hold.slot).2) :=
      Prod.ext hadapter rfl
    rw [hempty]
    dsimp only
    rcases (m.emptySlot attempt.hold.slot).2.stepSession_cases id (StopPoint.step now .asking) with
      hstep | ⟨adapter, -, hstep⟩
    · rw [hstep]
      exact .blocks point _
    · rw [hstep]
      exact .evicts point attempt _ id _ error htrying (hslot ▸ hadapter) hfinal

theorem afterFailure_moves (htrying : point.attempt? = some attempt)
    (hslot : m.slotAt attempt.hold.slot = cache.slotAt attempt.hold.slot)
    (hsettings : m.settings = cache.settings) :
    ReconnectMoves now files cache point (afterFailure now attempt m) := by
  have hattempts : max m.settings.cache.reconnectAttempts 1 = cache.settings.attempts := by
    rw [hsettings]
    rfl
  simp only [afterFailure, hattempts]
  split
  next hlast => exact evict_moves htrying hslot (.inr ⟨hlast, rfl⟩)
  next hagain => exact .pauses point attempt m _ htrying (Nat.lt_of_not_le hagain)

/-- A session is looked at only if it takes requests. -/
theorem afterAlive_moves (htrying : point.attempt? = some attempt)
    (hslot : m.slotAt attempt.hold.slot = cache.slotAt attempt.hold.slot)
    (hsettings : m.settings = cache.settings) :
    ReconnectMoves now files cache point (afterCheck now attempt
      (m.stepSession attempt.adapter (Session.stepAlive .asking))) := by
  rcases m.stepSession_cases attempt.adapter (Session.stepAlive .asking) with
    hstep | ⟨adapter, hadapter, hstep⟩
  · rw [hstep]
    exact .blocks point m
  · rw [hstep]
    by_cases haccepts : adapter.session.state.acceptsRequests = true
    · have halive : adapter.session.stepAlive .asking =
          ({ adapter.session with turns := adapter.session.turns.join.2 },
            .moved (.queued adapter.session.turns.join.1)) := if_pos haccepts
      rw [halive]
      exact .checks point attempt _ _ _ htrying (Cache.session?_updateAdapter_self hadapter _)
        haccepts
    · have halive : adapter.session.stepAlive .asking = (adapter.session, .finished false) :=
        if_neg haccepts
      rw [halive]
      exact afterFailure_moves htrying hslot hsettings

theorem afterEnsure_moves (ensure : EnsurePoint) :
    ReconnectMoves now files cache (.trying attempt ensure)
      (afterEnsure now attempt (cache.stepSession attempt.adapter (ensure.step now))) := by
  have hslot := slotAt_stepSession cache attempt.adapter (ensure.step now) attempt.hold.slot
  have hsettings := settings_stepSession cache attempt.adapter (ensure.step now)
  rcases cache.stepSession_cases attempt.adapter (ensure.step now) with
    hstep | ⟨adapter, hadapter, hstep⟩
  · rw [hstep]
    exact .blocks _ cache
  · have hfound : cache.session? attempt.adapter = some adapter.session := by
      rw [Cache.session?, hadapter]
      rfl
    have hsecond : (cache.stepSession attempt.adapter (ensure.step now)).2 =
        (ensure.step now adapter.session).2 := by rw [hstep]
    generalize hstepped : cache.stepSession attempt.adapter (ensure.step now) = stepped
      at hslot hsettings hsecond
    obtain ⟨m, progress⟩ := stepped
    have hm : m = (cache.stepSession attempt.adapter (ensure.step now)).1 := by rw [hstepped]
    dsimp only at hslot hsettings hsecond
    cases progress with
    | blocked => exact .blocks _ m
    | moved ensure' =>
      subst hm
      exact .tries attempt ensure ensure' adapter.session hfound hsecond.symm
    | finished result =>
      cases result with
      | ok => exact afterAlive_moves rfl hslot hsettings
      | error error =>
        simp only [afterEnsure]
        split
        next hpermanent =>
          obtain ⟨restarts, rfl⟩ : ∃ restarts, error = .restartBudgetExhausted restarts := by
            cases error with
            | restartBudgetExhausted restarts => exact ⟨restarts, rfl⟩
            | _ => cases hpermanent
          subst hm
          exact .exhausts attempt ensure adapter.session restarts hfound hsecond.symm
        next =>
          split
          next hconfiguration =>
            obtain ⟨command, rfl⟩ : ∃ command, error = .commandNotFound command := by
              cases error with
              | commandNotFound command => exact ⟨command, rfl⟩
              | _ => cases hconfiguration
            exact evict_moves rfl hslot (.inl ⟨command, rfl⟩)
          next => exact afterFailure_moves rfl hslot hsettings

theorem begin_moves (hold : Hold) (failed : Nat)
    (hready : point = .entering (.queued hold) ∧ failed = 0 ∨
      ∃ resume, point = .pausing hold failed resume) :
    ReconnectMoves now files cache point (begin now hold failed cache) := by
  simp only [begin]
  generalize cache.adapterIn hold.key hold.server hold.slot = made
  obtain ⟨id, m⟩ := made
  dsimp only
  rcases m.stepSession_cases id (EnsurePoint.step now .asking) with hstep | ⟨adapter, hadapter, hstep⟩
  · rw [hstep]
    exact .blocks point m
  · have hfound : m.session? id = some adapter.session := by
      rw [Cache.session?, hadapter]
      rfl
    rw [hstep, hfound]
    exact .begins point hold failed _ id
      { adapter.session with turns := adapter.session.turns.join.2 } _ hready
      (Cache.session?_updateAdapter_self hadapter _)

theorem checking_moves (guardPoint : GuardPoint) :
    ReconnectMoves now files cache (.checking attempt guardPoint) (afterCheck now attempt
      (cache.stepSession attempt.adapter (Session.stepAlive guardPoint))) := by
  cases guardPoint with
  | asking => exact afterAlive_moves rfl rfl rfl
  | queued ticket =>
    have hslot := slotAt_stepSession cache attempt.adapter
      (Session.stepAlive (.queued ticket)) attempt.hold.slot
    have hsettings := settings_stepSession cache attempt.adapter (Session.stepAlive (.queued ticket))
    rcases cache.stepSession_cases attempt.adapter (Session.stepAlive (.queued ticket)) with
      hstep | ⟨adapter, hadapter, hstep⟩
    · rw [hstep]
      exact .blocks _ cache
    · have hfound : cache.session? attempt.adapter = some adapter.session := by
        rw [Cache.session?, hadapter]
        rfl
      have hmoves := GuardPoint.step_moves (fun s => (s, s.hasLiveConnection)) (.queued ticket)
        adapter.session
      have hsecond : (cache.stepSession attempt.adapter (Session.stepAlive (.queued ticket))).2 =
          (GuardPoint.step (fun s => (s, s.hasLiveConnection)) (.queued ticket)
            adapter.session).2 := by
        rw [hstep]
        rfl
      generalize GuardPoint.step (fun s => (s, s.hasLiveConnection)) (.queued ticket)
        adapter.session = looked at hmoves hsecond
      generalize hstepped : cache.stepSession attempt.adapter (Session.stepAlive (.queued ticket)) =
        stepped at hslot hsettings hsecond
      obtain ⟨m, progress⟩ := stepped
      have hm : m = (cache.stepSession attempt.adapter (Session.stepAlive (.queued ticket))).1 := by
        rw [hstepped]
      dsimp only at hslot hsettings hsecond
      subst hsecond
      cases hmoves with
      | blocks => exact .blocks _ m
      | acts held holds =>
        cases halive : adapter.session.hasLiveConnection with
        | true =>
          subst hm
          exact .succeeds attempt ticket adapter.session hfound halive
        | false => exact afterFailure_moves rfl hslot hsettings

theorem step_moves (now : Instant) (files : Option Tree) (point : ReconnectPoint) (cache : Cache) :
    ReconnectMoves now files cache point (point.step now files cache) := by
  cases point with
  | entering entry =>
    simp only [step]
    generalize hentry : entry.step files cache = stepped
    obtain ⟨m, progress⟩ := stepped
    cases progress with
    | blocked => exact .blocks _ m
    | moved entry' => exact .comes entry entry' m hentry
    | finished result =>
      obtain ⟨rfl, hresult⟩ := entry.finished_cases hentry
      cases result with
      | error error => exact .refuses entry error hentry
      | ok hold =>
        obtain rfl := hresult hold rfl
        exact begin_moves hold 0 (.inl ⟨rfl, rfl⟩)
  | trying attempt ensure => exact afterEnsure_moves ensure
  | checking attempt guardPoint => exact checking_moves guardPoint
  | pausing hold failed resume =>
    simp only [step]
    split
    · exact begin_moves hold failed (.inr ⟨resume, rfl⟩)
    · exact .blocks _ cache
  | evicting hold id stop error =>
    simp only [step]
    have hclosed (h : (cache.stepSession id (stop.step now)).2 = .finished ()) :=
      Cache.closed_of_finished h
    generalize hstepped : cache.stepSession id (stop.step now) = stepped at hclosed
    obtain ⟨m, progress⟩ := stepped
    have hm : m = (cache.stepSession id (stop.step now)).1 := by rw [hstepped]
    cases progress with
    | blocked => exact .blocks _ m
    | moved stop' => exact .stops hold id stop stop' error m
    | finished =>
      obtain ⟨s, hfound, hstate⟩ := hclosed rfl
      subst hm
      exact .ends hold id stop error s hfound hstate

end ReconnectPoint

end SymbolSearch
