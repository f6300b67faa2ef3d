import SymbolSearch.Proofs.Cache.Moments

/-!
# Whoever parts with a slot

* `Cache.Deserted` — a key leads to an empty slot that no operation has.
* `CacheTask.vain?` — the key for which an operation finds that there is nothing to be reset.
* `CacheTask.not_deserted_of_parts` — everybody else who parts with a slot leaves an adapter there,
  or takes the slot out of the table, or somebody still has it.
-/

namespace SymbolSearch

/-- Whether a key leads to an empty slot that no operation has. -/
def Cache.Deserted (cache : Cache) (key : CacheKey) : Prop :=
  ∃ id, cache.mapped.lookup key = some id ∧ (cache.slotAt id).holders = 0 ∧
    (cache.slotAt id).adapter = none

/-- Whether a key leads to a slot that some operation has. -/
def Cache.Booked (cache : Cache) (key : CacheKey) (id : SlotId) : Prop :=
  cache.mapped.lookup key = some id ∧ (cache.slotAt id).holders ≠ 0

variable {cache m : Cache} {key : CacheKey} {id : SlotId} {a : AdapterId}

/-! ### Slots that are given up -/

namespace Cache

/-- A key is not deserted if there is an adapter in its slot. -/
theorem not_deserted_of_adapter (hlookup : cache.mapped.lookup key = some id)
    (hkept : (cache.slotAt id).adapter = some a) : ¬cache.Deserted key := by
  rintro ⟨other, hother, -, hempty⟩
  obtain rfl : id = other := Option.some.inj (hlookup.symm.trans hother)
  rw [hkept] at hempty
  cases hempty

/-- Whoever gives up a slot with an adapter leaves the adapter there. -/
theorem not_deserted_leaveHold {hold : Hold}
    (hlookup : cache.mapped.lookup hold.key = some hold.slot)
    (hkept : (cache.slotAt hold.slot).adapter = some a) :
    ¬(cache.leaveHold hold).Deserted hold.key := by
  have hmapped : (cache.leaveHold hold).mapped.lookup hold.key = some hold.slot := hlookup
  refine not_deserted_of_adapter (a := a) hmapped ?_
  rw [CacheCourse.adapter_leaveHold]
  exact hkept

/-- Whoever releases a slot takes it out of the table, or somebody else has it, or it is not
    empty. -/
theorem Booked.not_deserted_release (h : cache.Booked key id) (ticket : Ticket) :
    ¬(((cache.unmapSlot key id).leaveSlot id ticket).dropSlot id).Deserted key := by
  obtain ⟨hlookup, hholders⟩ := h
  rintro ⟨other, hother, hunused, hempty⟩
  by_cases hunmap : (cache.slotAt id).holders = 1 ∧ (cache.slotAt id).adapter = none
  · have hgone : (((cache.unmapSlot key id).leaveSlot id ticket).dropSlot id).mapped =
        cache.mapped.filter fun entry => entry.1 ≠ key := by
      simp [unmapSlot, hlookup, hunmap, leaveSlot, dropSlot, updateSlot]
    rw [hgone] at hother
    obtain ⟨before, after, hsplit, -⟩ := List.lookup_eq_some_iff.mp hother
    have hmem : (key, other) ∈ cache.mapped.filter fun entry => decide (entry.1 ≠ key) := by
      rw [hsplit]
      simp
    simp at hmem
  · -- The slot stays in the table, and one less has it.
    have hsame : cache.unmapSlot key id = cache := by
      rw [unmapSlot, if_neg]
      simpa [hlookup, and_assoc] using hunmap
    rw [hsame] at hother hunused hempty
    obtain rfl : id = other := Option.some.inj (hlookup.symm.trans hother)
    have hlt := lt_of_holders hholders
    have hlt' : id < (cache.leaveSlot id ticket).slots.length := by
      simpa [leaveSlot, updateSlot] using hlt
    rw [dropSlot, slotAt_updateSlot_self hlt', leaveSlot, slotAt_updateSlot_self hlt]
      at hunused hempty
    have hone : (cache.slotAt id).holders = 1 := by
      have hzero : (cache.slotAt id).holders - 1 = 0 := hunused
      omega
    exact hunmap ⟨hone, hempty⟩

theorem Booked.stepSession {π ρ : Type} (h : cache.Booked key id) (a : AdapterId)
    (step : Session → Stepped Session π ρ) : (cache.stepSession a step).1.Booked key id := by
  rw [Booked, ReconnectPoint.mapped_stepSession, ReconnectPoint.slotAt_stepSession]
  exact h

theorem Booked.emptySlot (h : cache.Booked key id) (other : SlotId) :
    (cache.emptySlot other).2.Booked key id := by
  refine ⟨h.1, ?_⟩
  by_cases hne : other = id
  · subst hne
    rw [Cache.emptySlot, slotAt_updateSlot_self (lt_of_holders h.2)]
    exact h.2
  · rw [Cache.emptySlot, slotAt_updateSlot_of_ne hne]
    exact h.2

end Cache

/-! ### Whoever parts with a slot -/

/-- The slots that one who stands here has can be found, and are as he believes. -/
structure Stance.Stands (cache : Cache) (stance : Stance) : Prop where
  booked : ∀ claim ∈ stance.claims, cache.Booked claim.1 claim.2
  works : ∀ seat rest work, stance = .inside seat rest work → work.Fits cache seat

namespace Stance.Stands

variable {seat : Seat} {rest : List (CacheKey × SlotId)} {work : Work}

theorem seat_queued (h : (queued seat rest).Stands cache) : cache.Booked seat.key seat.slot :=
  h.booked seat.claim List.mem_cons_self

theorem seat_inside (h : (inside seat rest work).Stands cache) : cache.Booked seat.key seat.slot :=
  h.booked seat.claim List.mem_cons_self

end Stance.Stands

variable {now : Instant} {files : Option Tree} {claim : CacheKey × SlotId}

/-- Only one who waits for a guard has a slot on the way. -/
theorem EntryPoint.queued_of_claim {entry : EntryPoint} (h : claim ∈ entry.stance.claims) :
    ∃ hold, entry = .queued hold ∧ claim = hold.seat.claim := by
  cases entry with
  | starting | finding => cases h
  | queued hold => exact ⟨hold, rfl, List.mem_singleton.mp h⟩

/-- Whoever waits for a guard waits, or has it. -/
theorem EntryPoint.step_queued (files : Option Tree) (hold : Hold) (cache : Cache) :
    (EntryPoint.queued hold).step files cache = (cache, .blocked) ∨
      (EntryPoint.queued hold).step files cache = (cache, .finished (.ok hold)) := by
  simp only [step]
  split
  · exact .inr rfl
  · exact .inl rfl

/-- What becomes of a slot with which an operation parts in a step: it is not left empty. -/
def Parts (stance after : Stance) (m : Cache) : Prop :=
  ∀ claim ∈ stance.claims, claim ∉ after.claims → ¬m.Deserted claim.1

theorem Parts.of_same {stance after : Stance} (h : after.claims = stance.claims) (m : Cache) :
    Parts stance after m :=
  fun _ hbefore hafter => absurd (h ▸ hbefore) hafter

theorem Parts.of_none {stance : Stance} (h : stance.claims = []) (after : Stance) (m : Cache) :
    Parts stance after m := by
  intro claim hbefore
  rw [h] at hbefore
  cases hbefore

theorem Parts.of_seat {stance after : Stance} {seat : Seat} {rest : List (CacheKey × SlotId)}
    (hclaims : stance.claims = seat.claim :: rest) (hafter : after.claims = rest)
    (h : ¬m.Deserted seat.key) : Parts stance after m := by
  intro claim hbefore hgone
  rw [hafter] at hgone
  rw [hclaims] at hbefore
  rcases List.mem_cons.mp hbefore with rfl | hrest
  · exact h
  · exact absurd hrest hgone

theorem Cache.parts_stepAdapterFor (files : Option Tree) (entry : EntryPoint) (cache : Cache)
    (hstands : entry.stance.Stands cache)
    (hblocked : (cache.stepAdapterFor files entry).2 ≠ .blocked) :
    Parts entry.stance ((cache.stepAdapterFor files entry).2.stance EntryPoint.stance)
      (cache.stepAdapterFor files entry).1 := by
  cases entry with
  | starting | finding => exact .of_none rfl _ _
  | queued hold =>
    have hbooked := hstands.seat_queued
    unfold stepAdapterFor at hblocked ⊢
    rcases EntryPoint.step_queued files hold cache with hwaits | henters
    · rw [hwaits] at hblocked
      exact absurd rfl hblocked
    · rw [henters]
      refine .of_seat rfl rfl
        (not_deserted_leaveHold (a := (cache.adapterIn hold.key hold.server hold.slot).1) ?_ ?_)
      · exact (CacheCourse.mapped_adapterIn cache hold.key hold.server hold.slot).symm ▸ hbooked.1
      · exact CacheCourse.adapter_adapterIn (lt_of_holders hbooked.2) hold.key hold.server

theorem ReconnectPoint.parts_step (now : Instant) (files : Option Tree) (point : ReconnectPoint)
    (cache : Cache) (hstands : point.stance.Stands cache)
    (hblocked : (point.step now files cache).2 ≠ .blocked) :
    Parts point.stance ((point.step now files cache).2.stance stance)
      (point.step now files cache).1 := by
  have hmoves := point.step_moves now files cache
  generalize point.step now files cache = stepped at hblocked hmoves ⊢
  have htrying {attempt : Attempt} (htrying : point.attempt? = some attempt) :
      point.stance = .inside attempt.hold.seat [] (.keeps attempt.adapter) :=
    stance_of_attempt? htrying
  -- The session of one who makes an attempt is in its slot, where it stays.
  have hleaves {attempt : Attempt} {m : Cache} (hhere : point.attempt? = some attempt)
      (hmapped : m.mapped = cache.mapped)
      (hslot : (m.slotAt attempt.hold.slot).adapter = (cache.slotAt attempt.hold.slot).adapter) :
      ¬(m.leaveHold attempt.hold).Deserted attempt.hold.key := by
    rw [htrying hhere] at hstands
    refine Cache.not_deserted_leaveHold (a := attempt.adapter) ?_ ?_
    · exact hmapped ▸ hstands.seat_inside.1
    · exact hslot.trans (hstands.works _ _ _ rfl)
  cases hmoves with
  | blocks => exact absurd rfl hblocked
  | comes entry entry' m step =>
    cases entry with
    | starting | finding => exact .of_none rfl _ _
    | queued hold =>
      rcases EntryPoint.step_queued files hold cache with hwaits | henters
      · rw [hwaits] at step
        cases step
      · rw [henters] at step
        cases step
  | refuses entry error step =>
    cases entry with
    | starting | finding => exact .of_none rfl _ _
    | queued hold =>
      rcases EntryPoint.step_queued files hold cache with hwaits | henters
      · rw [hwaits] at step
        cases step
      · rw [henters] at step
        cases step
  | begins point hold failed m id s ticket ready =>
    rcases ready with ⟨rfl, -⟩ | ⟨resume, rfl⟩
    · exact .of_same rfl _
    · exact .of_same rfl _
  | tries | stops => exact .of_same rfl _
  | checks point attempt m s ticket trying | pauses point attempt m resume trying
  | evicts point attempt m id stop error trying =>
    refine .of_same ?_ _
    rw [htrying trying]
    rfl
  | succeeds attempt ticket s =>
    refine .of_seat rfl rfl ?_
    unfold succeed
    dsimp only
    have hmapped := mapped_stepSession cache attempt.adapter (Session.stepAlive (.queued ticket))
    have hslot := slotAt_stepSession cache attempt.adapter (Session.stepAlive (.queued ticket))
      attempt.hold.slot
    generalize (cache.stepSession attempt.adapter (Session.stepAlive (.queued ticket))).1 = middle
      at hmapped hslot
    split
    · exact hleaves rfl hmapped (congrArg Slot.adapter hslot)
    · exact hleaves rfl hmapped (congrArg Slot.adapter hslot)
  | exhausts attempt ensure s restarts =>
    refine .of_seat rfl rfl (hleaves rfl (mapped_stepSession ..) ?_)
    rw [slotAt_stepSession]
  | misses point attempt m error trying empty =>
    rw [htrying trying] at hstands
    have hkept : (cache.slotAt attempt.hold.slot).adapter = some attempt.adapter :=
      hstands.works _ _ _ rfl
    rw [empty] at hkept
    cases hkept
  | ends hold id stop error s =>
    have hbooked := hstands.seat_inside.stepSession id (stop.step now)
    exact .of_seat rfl rfl (hbooked.not_deserted_release hold.ticket)

theorem DisconnectPoint.parts_step (now : Instant) (files : Option Tree) (point : DisconnectPoint)
    (cache : Cache) (hstands : point.stance.Stands cache)
    (hblocked : (point.step now files cache).2 ≠ .blocked) :
    Parts point.stance ((point.step now files cache).2.stance stance)
      (point.step now files cache).1 := by
  have hstops (seat : Seat) {rest : List (CacheKey × SlotId)} {closed : Nat} {a : AdapterId}
      {stepped : Stepped Cache StopPoint Unit} {before : Stance}
      (hbefore : before.claims = seat.claim :: rest) (hbooked : stepped.1.Booked seat.key seat.slot)
      (hblocked : (afterStop seat.key seat.slot seat.ticket rest closed a stepped).2 ≠ .blocked) :
      Parts before
        ((afterStop seat.key seat.slot seat.ticket rest closed a stepped).2.stance stance)
        (afterStop seat.key seat.slot seat.ticket rest closed a stepped).1 := by
    obtain ⟨m, progress⟩ := stepped
    cases progress with
    | blocked => exact absurd rfl hblocked
    | moved stop =>
      refine .of_same ?_ _
      rw [hbefore]
      rfl
    | finished => exact .of_seat hbefore rfl (hbooked.not_deserted_release seat.ticket)
  cases point with
  | starting | finding => exact .of_none rfl _ _
  | working rest closed =>
    cases rest with
    | nil => exact .of_none rfl _ _
    | cons claim rest => exact .of_same rfl _
  | queued key id ticket rest closed =>
    have hbooked : cache.Booked key id := hstands.seat_queued
    simp only [step] at hblocked ⊢
    split
    next hholds =>
      rw [if_pos hholds] at hblocked
      cases hslot : (cache.slotAt id).adapter with
      | none =>
        rw [Cache.emptySlot_of_none hslot]
        have hleaves := hbooked.not_deserted_release ticket
        exact @Parts.of_seat _ _ _ ⟨key, id, ticket⟩ rest rfl rfl hleaves
      | some a =>
        have hempty : cache.emptySlot id = (some a, (cache.emptySlot id).2) := Prod.ext hslot rfl
        rw [hempty] at hblocked ⊢
        have hstopped := (hbooked.emptySlot id).stepSession a (StopPoint.step now .asking)
        exact hstops ⟨key, id, ticket⟩ rfl hstopped hblocked
    next hholds =>
      rw [if_neg hholds] at hblocked
      exact absurd rfl hblocked
  | stopping key id ticket rest closed a stop =>
    have hbooked : cache.Booked key id := hstands.seat_inside
    exact hstops ⟨key, id, ticket⟩ rfl (hbooked.stepSession a (stop.step now)) hblocked

theorem RevivePoint.parts_step (files : Option Tree) (point : RevivePoint) (cache : Cache)
    (hstands : point.stance.Stands cache) (hblocked : (point.step files cache).2 ≠ .blocked) :
    Parts point.stance ((point.step files cache).2.stance stance) (point.step files cache).1 ∨
      ∃ hold result, point = .entering (.queued hold) ∧
        (point.step files cache).2 = .finished result ∧
        (cache.slotAt hold.slot).adapter = none := by
  have hresets {hold : Hold} {a : AdapterId} {stepped : Stepped Cache GuardPoint Bool}
      {before : Stance} (hbefore : before.claims = [hold.seat.claim])
      (hlookup : stepped.1.mapped.lookup hold.key = some hold.slot)
      (hkept : (stepped.1.slotAt hold.slot).adapter = some a)
      (hblocked : (afterReset hold a stepped).2 ≠ .blocked) :
      Parts before ((afterReset hold a stepped).2.stance stance) (afterReset hold a stepped).1 := by
    obtain ⟨m, progress⟩ := stepped
    cases progress with
    | blocked => exact absurd rfl hblocked
    | moved guardPoint =>
      refine .of_same ?_ _
      rw [hbefore]
      rfl
    | finished => exact .of_seat hbefore rfl (Cache.not_deserted_leaveHold hlookup hkept)
  cases point with
  | entering entry =>
    cases entry with
    | starting | finding => exact .inl (.of_none rfl _ _)
    | queued hold =>
      have hbooked := hstands.seat_queued
      rcases EntryPoint.step_queued files hold cache with hwaits | henters
      · simp only [step, hwaits] at hblocked
        exact absurd rfl hblocked
      · cases hkept : (cache.slotAt hold.slot).adapter with
        | none =>
          refine .inr ⟨hold, .ok false, rfl, ?_, hkept⟩
          simp only [step, henters, hkept]
        | some a =>
          simp only [step, henters, hkept] at hblocked ⊢
          refine .inl (hresets rfl ?_ ?_ hblocked)
          · rw [ReconnectPoint.mapped_stepSession]
            exact hbooked.1
          · rw [ReconnectPoint.slotAt_stepSession]
            exact hkept
  | resetting hold a guardPoint =>
    refine .inl (hresets rfl ?_ ?_ hblocked)
    · rw [ReconnectPoint.mapped_stepSession]
      exact hstands.seat_inside.1
    · rw [ReconnectPoint.slotAt_stepSession]
      exact hstands.works _ _ _ rfl

/-- The key for which an operation finds in a step that there is nothing to be reset. -/
def CacheTask.vain? (cache : Cache) (task : CacheTask) (progress : Progress CacheTask CacheReply) :
    Option CacheKey :=
  match task, progress with
  | .revive (.entering (.queued hold)), .finished _ =>
    if (cache.slotAt hold.slot).adapter = none then some hold.key else none
  | _, _ => none

theorem CacheTask.vain_cases {progress : Progress CacheTask CacheReply} (task : CacheTask)
    (h : task.vain? cache progress = some key) :
    ∃ hold result, task = .revive (.entering (.queued hold)) ∧ progress = .finished result ∧
      (cache.slotAt hold.slot).adapter = none ∧ hold.key = key := by
  cases task with
  | find | findFor | ensure | disconnect | ask => cases h
  | revive point =>
    cases point with
    | resetting => cases h
    | entering entry =>
      cases entry with
      | starting | finding => cases h
      | queued hold =>
        cases progress with
        | blocked | moved => cases h
        | finished result =>
          by_cases hempty : (cache.slotAt hold.slot).adapter = none
          · rw [vain?, if_pos hempty] at h
            exact ⟨hold, result, rfl, rfl, hempty, Option.some.inj h⟩
          · rw [vain?, if_neg hempty] at h
            cases h

/-- Whoever parts with a slot does not leave it empty, unless he came in vain to reset it. -/
theorem CacheTask.not_deserted_of_parts (task : CacheTask) (hstands : task.stance.Stands cache)
    (hblocked : (task.step now files cache).2 ≠ .blocked) (hclaim : claim ∈ task.stance.claims)
    (hparts : claim ∉ ((task.step now files cache).2.stance stance).claims)
    (hdeserted : (task.step now files cache).1.Deserted claim.1) :
    task.vain? cache (task.step now files cache).2 = some claim.1 := by
  have hpoint {π ρ : Type} {make : π → CacheTask} {reply : ρ → CacheReply}
      {stepped : Stepped Cache π ρ} (h : (stepped.map make reply).2 ≠ .blocked) :
      stepped.2 ≠ .blocked := Stepped.ne_blocked_of_map h
  cases task with
  | findFor | ask => cases hclaim
  | find entry =>
    rw [step, Stepped.map, stance_map] at hparts
    exact absurd hdeserted
      (Cache.parts_stepAdapterFor files entry cache hstands (hpoint hblocked) claim hclaim hparts)
  | ensure point =>
    rw [step, Stepped.map, stance_map] at hparts
    exact absurd hdeserted
      (point.parts_step now files cache hstands (hpoint hblocked) claim hclaim hparts)
  | disconnect point =>
    rw [step, Stepped.map, stance_map] at hparts
    exact absurd hdeserted
      (point.parts_step now files cache hstands (hpoint hblocked) claim hclaim hparts)
  | revive point =>
    rw [step, Stepped.map, stance_map] at hparts
    rcases point.parts_step files cache hstands (hpoint hblocked) with
      hleaves | ⟨hold, result, rfl, hfinished, hempty⟩
    · exact absurd hdeserted (hleaves claim hclaim hparts)
    · obtain rfl := List.mem_singleton.mp hclaim
      rw [step, Stepped.map, hfinished]
      exact if_pos hempty

end SymbolSearch
