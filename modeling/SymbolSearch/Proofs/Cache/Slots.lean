import Mathlib.Algebra.BigOperators.Group.Finset.Basic
import SymbolSearch.Proofs.Cache.Steps
import SymbolSearch.Proofs.Sync.Line

/-!
# Slots in good order

* `Tidy` — what holds between any two events of a course: each key leads to one slot and each slot
  to one key, a slot knows how many have it, nobody has a slot that no key leads to, those who wait
  for the guard of a slot or have it do so in good order, and the adapters are where the operations
  believe them to be.
* `Tidy.moves` — all moves keep it; `CacheCourse.isTidy_after` — so it holds after any events.
* `Tidy.current_moves` — an adapter leaves its slot only when somebody takes it out.
-/

namespace SymbolSearch

/-- How often an operation has a slot. -/
def Stance.claimsOf (id : SlotId) (stance : Stance) : Nat := (stance.claims.map (·.2)).count id

/-- Whether the slots are as one who works with the guard of a slot believes. -/
def Work.Fits (cache : Cache) (seat : Seat) : Work → Prop
  | .nothing => True
  | .keeps id => (cache.slotAt seat.slot).adapter = some id
  | .closes id => (cache.slotAt seat.slot).adapter = none ∧
      ∃ adapter, cache.adapters[id]? = some adapter ∧ adapter.key = seat.key

/-- What holds of a cache and its operations, which are those before `count`. -/
structure Tidy (cache : Cache) (count : Nat) (stanceOf : Nat → Stance) : Prop where
  keys : (cache.mapped.map (·.1)).Nodup
  ids : (cache.mapped.map (·.2)).Nodup
  mapped_lt : ∀ claim ∈ cache.mapped, claim.2 < cache.slots.length
  /-- A slot that somebody has can be found. -/
  claimed : ∀ i, ∀ claim ∈ (stanceOf i).claims, claim ∈ cache.mapped
  away : ∀ i, count ≤ i → stanceOf i = .has []
  holders : ∀ id, (cache.slotAt id).holders = ∑ i ∈ Finset.range count, (stanceOf i).claimsOf id
  line : ∀ id, (cache.slotAt id).turns.Serves (fun i => (stanceOf i).ticketAt id)
    fun i => (stanceOf i).IsInside id
  kept : ∀ id a, (cache.slotAt id).adapter = some a →
    ∃ adapter, cache.adapters[a]? = some adapter ∧ (adapter.key, id) ∈ cache.mapped
  works : ∀ i seat rest work, stanceOf i = .inside seat rest work → work.Fits cache seat

section Stances

variable {stanceOf : Nat → Stance} {i count : Nat} {id : SlotId}

theorem sum_claimsOf_update (hi : i < count) (stanceOf : Nat → Stance) (stance : Stance)
    (id : SlotId) :
    ∑ j ∈ Finset.range count, (Function.update stanceOf i stance j).claimsOf id =
      stance.claimsOf id + ∑ j ∈ (Finset.range count).erase i, (stanceOf j).claimsOf id := by
  rw [← Finset.add_sum_erase _ _ (Finset.mem_range.mpr hi), Function.update_self]
  congr 1
  refine Finset.sum_congr rfl fun j hj => ?_
  rw [Function.update_of_ne (Finset.ne_of_mem_erase hj)]

theorem Stance.claimsOf_eq_zero {stance : Stance} :
    stance.claimsOf id = 0 ↔ ∀ claim ∈ stance.claims, claim.2 ≠ id := by
  rw [claimsOf, List.count_eq_zero, List.mem_map]
  exact ⟨fun h claim hmem heq => h ⟨claim, hmem, heq⟩, fun h ⟨claim, hmem, heq⟩ => h claim hmem heq⟩

theorem Stance.claimsOf_has_cons (claim : CacheKey × SlotId) (rest : List (CacheKey × SlotId)) :
    (has (claim :: rest)).claimsOf id = (has rest).claimsOf id + if claim.2 = id then 1 else 0 := by
  simp only [claimsOf, claims, List.map_cons, List.count_cons, beq_iff_eq]

theorem Stance.claimsOf_has_concat (claim : CacheKey × SlotId) (rest : List (CacheKey × SlotId)) :
    (has (rest ++ [claim])).claimsOf id =
      (has rest).claimsOf id + if claim.2 = id then 1 else 0 := by
  simp only [claimsOf, claims, List.map_append, List.map_singleton, List.count_append,
    List.count_singleton, beq_iff_eq]

theorem Stance.not_isInside_has (rest : List (CacheKey × SlotId)) : ¬(has rest).IsInside id := by
  rintro ⟨_, _, _, ⟨⟩, -⟩

theorem Stance.ticketAt_of_seat? {stance : Stance} {seat : Seat} (h : stance.seat? = some seat) :
    stance.ticketAt seat.slot = some seat.ticket := by
  rw [ticketAt, h]
  exact if_pos rfl

theorem Stance.ticketAt_of_ne {stance : Stance} {seat : Seat} (h : stance.seat? = some seat)
    (hne : seat.slot ≠ id) : stance.ticketAt id = none := by
  rw [ticketAt, h]
  exact if_neg hne

end Stances

/-! ### One operation among others -/

section Others

variable {stanceOf : Nat → Stance} {stance stance' : Stance} {i count : Nat} {id : SlotId}
  {turns : Turns}

theorem away_update (hi : i < count)
    (h : ∀ j, count ≤ j → Function.update stanceOf i stance j = .has []) :
    ∀ j, count ≤ j → Function.update stanceOf i stance' j = .has [] := by
  intro j hj
  have hbefore := h j hj
  have hne : j ≠ i := by omega
  rw [Function.update_of_ne hne] at hbefore ⊢
  exact hbefore

theorem claimed_update {mapped : List (CacheKey × SlotId)}
    (h : ∀ j, ∀ claim ∈ (Function.update stanceOf i stance j).claims, claim ∈ mapped)
    (hclaims : ∀ claim ∈ stance'.claims, claim ∈ mapped) :
    ∀ j, ∀ claim ∈ (Function.update stanceOf i stance' j).claims, claim ∈ mapped := by
  intro j claim hclaim
  have hbefore := h j claim
  by_cases hj : j = i
  · subst hj
    rw [Function.update_self] at hclaim
    exact hclaims claim hclaim
  · rw [Function.update_of_ne hj] at hclaim hbefore
    exact hbefore hclaim

/-- The line stays in good order when an operation keeps its ticket. -/
theorem serves_update
    (h : turns.Serves (fun j => (Function.update stanceOf i stance j).ticketAt id)
      fun j => (Function.update stanceOf i stance j).IsInside id)
    (hticket : stance'.ticketAt id = stance.ticketAt id)
    (hinside : stance'.IsInside id → stance.IsInside id ∨
      ∃ ticket, stance.ticketAt id = some ticket ∧ turns.holder = some ticket) :
    turns.Serves (fun j => (Function.update stanceOf i stance' j).ticketAt id)
      fun j => (Function.update stanceOf i stance' j).IsInside id := by
  refine h.keep (fun j => ?_) fun j hj => ?_
  · by_cases hji : j = i
    · subst hji
      rw [Function.update_self, Function.update_self]
      exact hticket
    · rw [Function.update_of_ne hji, Function.update_of_ne hji]
  · by_cases hji : j = i
    · subst hji
      rw [Function.update_self] at hj ⊢
      exact hinside hj
    · rw [Function.update_of_ne hji] at hj ⊢
      exact .inl hj

end Others

namespace Tidy

variable {cache : Cache} {count i : Nat} {stanceOf : Nat → Stance} {stance stance' : Stance}
  {seat : Seat} {rest : List (CacheKey × SlotId)} {id : SlotId} {key : CacheKey} {work : Work}

theorem lookup_of_mem (h : Tidy cache count stanceOf) (hmem : (key, id) ∈ cache.mapped) :
    cache.mapped.lookup key = some id := by
  cases hlookup : cache.mapped.lookup key with
  | none =>
    have hne := List.lookup_eq_none_iff.mp hlookup (key, id) hmem
    simp at hne
  | some other =>
    have hsame := List.inj_on_of_nodup_map h.keys (Cache.mem_mapped_of_lookup hlookup) hmem rfl
    rw [(Prod.mk.inj hsame).2]

theorem current_of_mem (h : Tidy cache count stanceOf) (hmem : (key, id) ∈ cache.mapped) :
    cache.current? key = (cache.slotAt id).adapter := by
  rw [Cache.current?, h.lookup_of_mem hmem]
  rfl

/-- Only one operation works with the guard of a slot. -/
theorem inside_unique (h : Tidy cache count stanceOf) {j : Nat} (hi : (stanceOf i).IsInside id)
    (hj : (stanceOf j).IsInside id) : i = j := (h.line id).exclusive hi hj

/-- More operations may be counted than there are. -/
theorem mono {count' : Nat} (h : Tidy cache count stanceOf) (hle : count ≤ count') :
    Tidy cache count' stanceOf where
  keys := h.keys
  ids := h.ids
  mapped_lt := h.mapped_lt
  claimed := h.claimed
  away := fun i hi => h.away i (Nat.le_trans hle hi)
  holders := by
    intro id
    rw [h.holders]
    refine Finset.sum_subset (Finset.range_subset_range.mpr hle) fun i _ hi => ?_
    rw [h.away i (Nat.le_of_not_lt fun hlt => hi (Finset.mem_range.mpr hlt))]
    rfl
  line := h.line
  kept := h.kept
  works := h.works

/-! ### The operation stands somewhere else -/

/-- The operation has the slots that it had, and its place in the line. -/
theorem restance (h : Tidy cache count (Function.update stanceOf i stance))
    (hclaims : stance'.claims = stance.claims) (hseat : stance'.seat? = stance.seat?)
    (hi : i < count)
    (hinside : ∀ id, stance'.IsInside id → stance.IsInside id ∨
      ∃ ticket, stance.ticketAt id = some ticket ∧ (cache.slotAt id).turns.holder = some ticket)
    (hworks : ∀ seat rest work, stance' = .inside seat rest work → work.Fits cache seat) :
    Tidy cache count (Function.update stanceOf i stance') where
  keys := h.keys
  ids := h.ids
  mapped_lt := h.mapped_lt
  claimed := by
    refine claimed_update h.claimed fun claim hclaim => h.claimed i claim ?_
    rw [Function.update_self, ← hclaims]
    exact hclaim
  away := away_update hi h.away
  holders := by
    intro id
    have hsame : stance'.claimsOf id = stance.claimsOf id := by
      rw [Stance.claimsOf, Stance.claimsOf, hclaims]
    rw [h.holders, sum_claimsOf_update hi, sum_claimsOf_update hi, hsame]
  line := fun id => serves_update (h.line id) (by rw [Stance.ticketAt, Stance.ticketAt, hseat])
    (hinside id)
  kept := h.kept
  works := by
    intro j seat rest work hj
    by_cases hji : j = i
    · subst hji
      rw [Function.update_self] at hj
      exact hworks seat rest work hj
    · refine h.works j seat rest work ?_
      rw [Function.update_of_ne hji] at hj ⊢
      exact hj

/-- One who has the guard does something else with the adapter. -/
theorem rework {work' : Work}
    (h : Tidy cache count (Function.update stanceOf i (.inside seat rest work))) (hi : i < count)
    (hfits : work'.Fits cache seat) :
    Tidy cache count (Function.update stanceOf i (.inside seat rest work')) := by
  refine h.restance rfl rfl hi (fun id hinside => .inl ?_) ?_
  · obtain ⟨_, _, _, ⟨⟩, hslot⟩ := hinside
    exact ⟨seat, rest, work, rfl, hslot⟩
  · rintro _ _ _ ⟨⟩
    exact hfits

/-! ### The adapters -/

/-- Adapters change, but not their keys. -/
theorem readapt {cache' : Cache} (h : Tidy cache count stanceOf) (hslots : cache'.slots = cache.slots)
    (hmapped : cache'.mapped = cache.mapped)
    (hadapters : ∀ (a : AdapterId) (adapter : Adapter), cache.adapters[a]? = some adapter →
      ∃ adapter' : Adapter, cache'.adapters[a]? = some adapter' ∧ adapter'.key = adapter.key) :
    Tidy cache' count stanceOf := by
  have hslotAt (id : SlotId) : cache'.slotAt id = cache.slotAt id := by
    rw [Cache.slotAt, Cache.slotAt, hslots]
  constructor
  · rw [hmapped]
    exact h.keys
  · rw [hmapped]
    exact h.ids
  · rw [hmapped, hslots]
    exact h.mapped_lt
  · rw [hmapped]
    exact h.claimed
  · exact h.away
  · intro id
    rw [hslotAt]
    exact h.holders id
  · intro id
    rw [hslotAt]
    exact h.line id
  · intro id a ha
    rw [hslotAt] at ha
    obtain ⟨adapter, hadapter, hmem⟩ := h.kept id a ha
    obtain ⟨adapter', hadapter', hkey⟩ := hadapters a adapter hadapter
    rw [hmapped]
    exact ⟨adapter', hadapter', hkey ▸ hmem⟩
  · intro i seat rest work hi
    have hbefore := h.works i seat rest work hi
    cases work with
    | nothing => exact trivial
    | keeps a =>
      show (cache'.slotAt seat.slot).adapter = some a
      rw [hslotAt]
      exact hbefore
    | closes a =>
      obtain ⟨hempty, adapter, hadapter, hkey⟩ := hbefore
      obtain ⟨adapter', hadapter', hkey'⟩ := hadapters a adapter hadapter
      refine ⟨?_, adapter', hadapter', hkey'.trans hkey⟩
      rw [hslotAt]
      exact hempty

theorem updateAdapter (h : Tidy cache count stanceOf) {a : AdapterId} {change : Adapter → Adapter}
    (hkey : ∀ adapter, cache.adapters[a]? = some adapter → (change adapter).key = adapter.key) :
    Tidy (cache.updateAdapter a change) count stanceOf := by
  refine h.readapt rfl rfl fun b adapter hadapter => ?_
  by_cases hab : a = b
  · subst hab
    exact ⟨change adapter, by simp [Cache.updateAdapter, hadapter], hkey adapter hadapter⟩
  · exact ⟨adapter, by simp [Cache.updateAdapter, hadapter, hab], rfl⟩

/-! ### One slot -/

/-- The line or the number of those who have a slot changes, and the operation with it. -/
theorem reslot (h : Tidy cache count (Function.update stanceOf i stance)) (hi : i < count)
    (hid : id < cache.slots.length) (change : Slot → Slot)
    (hadapter : ∀ slot, (change slot).adapter = slot.adapter)
    (hclaims : ∀ claim ∈ stance'.claims, claim ∈ cache.mapped)
    (hcount : (change (cache.slotAt id)).holders + stance.claimsOf id =
      (cache.slotAt id).holders + stance'.claimsOf id)
    (hcount_other : ∀ other, other ≠ id → stance'.claimsOf other = stance.claimsOf other)
    (hline : (change (cache.slotAt id)).turns.Serves
      (fun j => (Function.update stanceOf i stance' j).ticketAt id)
      fun j => (Function.update stanceOf i stance' j).IsInside id)
    (hticket_other : ∀ other, other ≠ id → stance'.ticketAt other = stance.ticketAt other)
    (hinside_other : ∀ other, ¬stance'.IsInside other) :
    Tidy (cache.updateSlot id change) count (Function.update stanceOf i stance') := by
  have hsame {other : SlotId} (hne : other ≠ id) :
      (cache.updateSlot id change).slotAt other = cache.slotAt other :=
    Cache.slotAt_updateSlot_of_ne (Ne.symm hne) change
  have hhere : (cache.updateSlot id change).slotAt id = change (cache.slotAt id) :=
    Cache.slotAt_updateSlot_self hid change
  have hadapters (other : SlotId) : ((cache.updateSlot id change).slotAt other).adapter =
      (cache.slotAt other).adapter := Cache.adapter_updateSlot hadapter other
  constructor
  · exact h.keys
  · exact h.ids
  · intro claim hclaim
    have hlt := h.mapped_lt claim hclaim
    simpa [Cache.updateSlot] using hlt
  · exact claimed_update h.claimed hclaims
  · exact away_update hi h.away
  · intro other
    have hbefore := h.holders other
    rw [sum_claimsOf_update hi] at hbefore ⊢
    by_cases hne : other = id
    · subst hne
      rw [hhere]
      omega
    · rw [hsame hne, hcount_other other hne]
      exact hbefore
  · intro other
    by_cases hne : other = id
    · subst hne
      rw [hhere]
      exact hline
    · rw [hsame hne]
      exact serves_update (h.line other) (hticket_other other hne) fun hin =>
        absurd hin (hinside_other other)
  · intro other a ha
    rw [hadapters] at ha
    exact h.kept other a ha
  · intro j seat rest work hj
    by_cases hji : j = i
    · subst hji
      rw [Function.update_self] at hj
      exact absurd ⟨seat, rest, work, hj, rfl⟩ (hinside_other seat.slot)
    · have hbefore := h.works j seat rest work (by
        rw [Function.update_of_ne hji] at hj ⊢
        exact hj)
      cases work with
      | nothing => exact trivial
      | keeps a => exact (hadapters seat.slot).trans hbefore
      | closes a => exact ⟨(hadapters seat.slot).trans hbefore.1, hbefore.2⟩

/-- One who has the guard puts another adapter into the slot, or none. -/
theorem refill (h : Tidy cache count stanceOf) (hi : stanceOf i = .inside seat rest .nothing)
    (found : Option AdapterId)
    (hkept : ∀ a, found = some a →
      ∃ adapter, cache.adapters[a]? = some adapter ∧ adapter.key = seat.key) :
    Tidy (cache.updateSlot seat.slot fun slot => { slot with adapter := found }) count stanceOf := by
  have hclaim : (seat.key, seat.slot) ∈ cache.mapped := by
    refine h.claimed i _ ?_
    rw [hi]
    exact List.mem_cons_self
  have hhere := Cache.slotAt_updateSlot_self (h.mapped_lt _ hclaim) fun slot =>
    { slot with adapter := found }
  have hsame {other : SlotId} (hne : other ≠ seat.slot) :
      (cache.updateSlot seat.slot fun slot => { slot with adapter := found }).slotAt other =
        cache.slotAt other := Cache.slotAt_updateSlot_of_ne (Ne.symm hne) _
  generalize hcache' : cache.updateSlot seat.slot (fun slot => { slot with adapter := found }) =
    cache' at hhere hsame
  have hmapped : cache'.mapped = cache.mapped := by rw [← hcache']; rfl
  have hadapters : cache'.adapters = cache.adapters := by rw [← hcache']; rfl
  have hlength : cache'.slots.length = cache.slots.length := by
    rw [← hcache']
    exact List.length_modify ..
  constructor
  · rw [hmapped]
    exact h.keys
  · rw [hmapped]
    exact h.ids
  · rw [hmapped, hlength]
    exact h.mapped_lt
  · rw [hmapped]
    exact h.claimed
  · exact h.away
  · intro other
    rw [← h.holders]
    by_cases hne : other = seat.slot
    · rw [hne, hhere]
    · rw [hsame hne]
  · intro other
    by_cases hne : other = seat.slot
    · subst hne
      rw [hhere]
      exact h.line seat.slot
    · rw [hsame hne]
      exact h.line other
  · intro other a ha
    rw [hmapped, hadapters]
    by_cases hne : other = seat.slot
    · subst hne
      rw [hhere] at ha
      obtain ⟨adapter, hadapter, hkey⟩ := hkept a ha
      exact ⟨adapter, hadapter, hkey ▸ hclaim⟩
    · rw [hsame hne] at ha
      exact h.kept other a ha
  · intro j seat' rest' work hj
    by_cases hne : seat'.slot = seat.slot
    · -- Whoever works with the guard of this slot is the operation itself.
      have hji : j = i :=
        h.inside_unique ⟨seat', rest', work, hj, hne⟩ ⟨seat, rest, .nothing, hi, rfl⟩
      subst hji
      obtain ⟨-, -, rfl⟩ := Stance.inside.inj (hj.symm.trans hi)
      exact trivial
    · have hbefore := h.works j seat' rest' work hj
      cases work with
      | nothing => exact trivial
      | keeps a =>
        show (cache'.slotAt seat'.slot).adapter = some a
        rw [hsame hne]
        exact hbefore
      | closes a =>
        show (cache'.slotAt seat'.slot).adapter = none ∧ _
        rw [hsame hne, hadapters]
        exact hbefore

/-! ### The moves -/

theorem openSlot (h : Tidy cache count (Function.update stanceOf i (.has []))) (hi : i < count)
    (hfresh : cache.mapped.lookup key = none) :
    Tidy (cache.openSlot key) count
      (Function.update stanceOf i (.has [(key, cache.slots.length)])) := by
  have hold {other : SlotId} (hne : other ≠ cache.slots.length) :
      (cache.openSlot key).slotAt other = cache.slotAt other := by
    rcases Nat.lt_or_gt_of_ne hne with hlt | hgt
    · simp only [Cache.slotAt, Cache.openSlot, List.getElem?_append_left hlt]
    · have hnone : cache.slots[other]? = none := List.getElem?_eq_none (Nat.le_of_lt hgt)
      have hnone' : (cache.openSlot key).slots[other]? = none := by
        refine List.getElem?_eq_none ?_
        simp only [Cache.openSlot, List.length_append, List.length_singleton]
        omega
      rw [Cache.slotAt, Cache.slotAt, hnone, hnone']
  have hnew : (cache.openSlot key).slotAt cache.slots.length = { holders := 1 } := by
    simp [Cache.slotAt, Cache.openSlot]
  -- Nobody had the slot before it was made.
  have hbefore : cache.slotAt cache.slots.length = {} := by
    rw [Cache.slotAt, List.getElem?_eq_none (Nat.le_refl _)]
    rfl
  have hothers : ∑ j ∈ (Finset.range count).erase i, (stanceOf j).claimsOf cache.slots.length = 0 := by
    have hnone := h.holders cache.slots.length
    rw [hbefore, sum_claimsOf_update hi] at hnone
    exact (Nat.add_eq_zero_iff.mp hnone.symm).2
  have hmapped : (cache.openSlot key).mapped = cache.mapped ++ [(key, cache.slots.length)] := rfl
  constructor
  · rw [hmapped, List.map_append, List.nodup_append]
    refine ⟨h.keys, List.nodup_singleton _, ?_⟩
    intro other hother found hfound
    obtain rfl : found = key := by simpa using hfound
    obtain ⟨claim, hclaim, rfl⟩ := List.mem_map.mp hother
    have hne := List.lookup_eq_none_iff.mp hfresh claim hclaim
    exact fun heq => by simp [heq] at hne
  · rw [hmapped, List.map_append, List.nodup_append]
    refine ⟨h.ids, List.nodup_singleton _, ?_⟩
    intro other hother found hfound
    obtain rfl : found = cache.slots.length := by simpa using hfound
    obtain ⟨claim, hclaim, rfl⟩ := List.mem_map.mp hother
    exact Nat.ne_of_lt (h.mapped_lt claim hclaim)
  · intro claim hclaim
    have hlength : (cache.openSlot key).slots.length = cache.slots.length + 1 := by
      simp [Cache.openSlot]
    rw [hlength]
    rcases List.mem_append.mp hclaim with hclaim | hclaim
    · exact Nat.lt_succ_of_lt (h.mapped_lt claim hclaim)
    · obtain rfl := List.mem_singleton.mp hclaim
      exact Nat.lt_succ_self _
  · exact claimed_update (fun j claim hclaim => List.mem_append_left _ (h.claimed j claim hclaim))
      fun claim hclaim => List.mem_append_right _ hclaim
  · exact away_update hi h.away
  · intro other
    rw [sum_claimsOf_update hi, Stance.claimsOf_has_cons]
    by_cases hne : other = cache.slots.length
    · rw [hne, hnew, hothers, if_pos rfl]
      rfl
    · rw [hold hne, h.holders, sum_claimsOf_update hi, if_neg (Ne.symm hne)]
      rfl
  · intro other
    have hturns : ((cache.openSlot key).slotAt other).turns = (cache.slotAt other).turns := by
      by_cases hne : other = cache.slots.length
      · rw [hne, hnew, hbefore]
      · rw [hold hne]
    rw [hturns]
    exact serves_update (h.line other) rfl fun hin => absurd hin (Stance.not_isInside_has _)
  · intro other a ha
    by_cases hne : other = cache.slots.length
    · rw [hne, hnew] at ha
      cases ha
    · rw [hold hne] at ha
      obtain ⟨adapter, hadapter, hmem⟩ := h.kept other a ha
      exact ⟨adapter, hadapter, List.mem_append_left _ hmem⟩
  · intro j seat rest work hj
    by_cases hji : j = i
    · subst hji
      rw [Function.update_self] at hj
      cases hj
    · have hinside : Function.update stanceOf i (.has []) j = .inside seat rest work := by
        rw [Function.update_of_ne hji] at hj ⊢
        exact hj
      have hlt := h.mapped_lt seat.claim (h.claimed j _ (by rw [hinside]; exact List.mem_cons_self))
      have hfits := h.works j seat rest work hinside
      have hsame := hold (Nat.ne_of_lt hlt)
      cases work with
      | nothing => exact trivial
      | keeps a => exact (congrArg Slot.adapter hsame).trans hfits
      | closes a => exact ⟨(congrArg Slot.adapter hsame).trans hfits.1, hfits.2⟩

theorem takeSlot {claim : CacheKey × SlotId}
    (h : Tidy cache count (Function.update stanceOf i (.has rest))) (hi : i < count)
    (hmem : claim ∈ cache.mapped) :
    Tidy (cache.takeSlot claim.2) count (Function.update stanceOf i (.has (rest ++ [claim]))) := by
  refine h.reslot hi (h.mapped_lt claim hmem) _ (fun _ => rfl) ?_ ?_ ?_ ?_ (fun _ _ => rfl)
    fun _ => Stance.not_isInside_has _
  · intro other hother
    rcases List.mem_append.mp hother with hother | hother
    · refine h.claimed i other ?_
      rw [Function.update_self]
      exact hother
    · obtain rfl := List.mem_singleton.mp hother
      exact hmem
  · rw [Stance.claimsOf_has_concat, if_pos rfl]
    show (cache.slotAt claim.2).holders + 1 + _ = _
    omega
  · intro other hne
    rw [Stance.claimsOf_has_concat, if_neg (Ne.symm hne)]
    rfl
  · exact serves_update (h.line claim.2) rfl fun hin => absurd hin (Stance.not_isInside_has _)

theorem joinSlot {claim : CacheKey × SlotId}
    (h : Tidy cache count (Function.update stanceOf i (.has (claim :: rest)))) (hi : i < count) :
    Tidy (cache.joinSlot claim.2).2 count (Function.update stanceOf i
      (.queued ⟨claim.1, claim.2, (cache.joinSlot claim.2).1⟩ rest)) := by
  have hclaims : ∀ other ∈ claim :: rest, other ∈ cache.mapped := by
    intro other hother
    refine h.claimed i other ?_
    rw [Function.update_self]
    exact hother
  have hlt := h.mapped_lt claim (hclaims claim List.mem_cons_self)
  have hseat : (Stance.queued ⟨claim.1, claim.2, (cache.joinSlot claim.2).1⟩ rest).seat? =
      some ⟨claim.1, claim.2, (cache.joinSlot claim.2).1⟩ := rfl
  refine h.reslot hi hlt _ (fun _ => rfl) hclaims rfl (fun _ _ => rfl) ?_ ?_ ?_
  · refine (h.line claim.2).join (i := i) ?_ (fun j hj => ?_) fun j hj => ?_
    · rw [Function.update_self]
      exact Stance.ticketAt_of_seat? hseat
    · rw [Function.update_of_ne hj, Function.update_of_ne hj]
    · have hji : j ≠ i := by
        rintro rfl
        rw [Function.update_self] at hj
        obtain ⟨_, _, _, ⟨⟩, -⟩ := hj
      rw [Function.update_of_ne hji] at hj ⊢
      exact ⟨hji, hj⟩
  · intro other hne
    exact Stance.ticketAt_of_ne hseat (Ne.symm hne)
  · rintro other ⟨_, _, _, ⟨⟩, -⟩

/-- One who has the guard, or waits for it, leaves the line. -/
theorem leaveSlot (h : Tidy cache count (Function.update stanceOf i stance)) (hi : i < count)
    (hseat : stance.seat? = some seat) (hclaims : stance.claims = seat.claim :: rest) :
    Tidy (cache.leaveSlot seat.slot seat.ticket) count
      (Function.update stanceOf i (.has (seat.claim :: rest))) := by
  have hmem : ∀ other ∈ seat.claim :: rest, other ∈ cache.mapped := by
    intro other hother
    refine h.claimed i other ?_
    rw [Function.update_self, hclaims]
    exact hother
  have hcount (other : SlotId) :
      (Stance.has (seat.claim :: rest)).claimsOf other = stance.claimsOf other := by
    rw [Stance.claimsOf, Stance.claimsOf, hclaims]
    rfl
  have hlt : seat.slot < cache.slots.length := h.mapped_lt _ (hmem _ List.mem_cons_self)
  refine h.reslot hi hlt _ (fun _ => rfl) hmem ?_ (fun other _ => hcount other) ?_ ?_
    fun _ => Stance.not_isInside_has _
  · rw [hcount]
  · refine (h.line seat.slot).leave (i := i) ?_ ?_ (fun j hj => ?_) fun j hj => ?_
    · rw [Function.update_self]
      exact Stance.ticketAt_of_seat? hseat
    · rw [Function.update_self]
      rfl
    · rw [Function.update_of_ne hj, Function.update_of_ne hj]
    · have hji : j ≠ i := by
        rintro rfl
        rw [Function.update_self] at hj
        exact Stance.not_isInside_has _ hj
      rw [Function.update_of_ne hji] at hj ⊢
      exact ⟨hji, hj⟩
  · intro other hne
    exact (Stance.ticketAt_of_ne hseat (Ne.symm hne)).symm

theorem dropSlot {claim : CacheKey × SlotId}
    (h : Tidy cache count (Function.update stanceOf i (.has (claim :: rest)))) (hi : i < count) :
    Tidy (cache.dropSlot claim.2) count (Function.update stanceOf i (.has rest)) := by
  have hclaims : ∀ other ∈ claim :: rest, other ∈ cache.mapped := by
    intro other hother
    refine h.claimed i other ?_
    rw [Function.update_self]
    exact hother
  have hlt := h.mapped_lt claim (hclaims claim List.mem_cons_self)
  refine h.reslot hi hlt _ (fun _ => rfl)
    (fun other hother => hclaims other (List.mem_cons_of_mem _ hother)) ?_ ?_ ?_ (fun _ _ => rfl)
    fun _ => Stance.not_isInside_has _
  · -- The operation is counted among those who have the slot.
    have hholders := h.holders claim.2
    rw [sum_claimsOf_update hi, Stance.claimsOf_has_cons, if_pos rfl] at hholders
    rw [Stance.claimsOf_has_cons, if_pos rfl]
    show (cache.slotAt claim.2).holders - 1 + _ = _
    omega
  · intro other hne
    rw [Stance.claimsOf_has_cons, if_neg (Ne.symm hne)]
    rfl
  · exact serves_update (h.line claim.2) rfl fun hin => absurd hin (Stance.not_isInside_has _)

/-- A slot that nobody has leaves the table. -/
theorem unmap (h : Tidy cache count stanceOf) (hfound : cache.mapped.lookup key = some id)
    (hunused : (cache.slotAt id).holders = 0) (hempty : (cache.slotAt id).adapter = none) :
    Tidy (cache.unmap key) count stanceOf := by
  have hentry := Cache.mem_mapped_of_lookup hfound
  have hsub : (cache.unmap key).mapped.Sublist cache.mapped := List.filter_sublist
  -- Whatever leads elsewhere stays.
  have hstays {claim : CacheKey × SlotId} (hmem : claim ∈ cache.mapped) (hne : claim.2 ≠ id) :
      claim ∈ (cache.unmap key).mapped := by
    refine List.mem_filter.mpr ⟨hmem, decide_eq_true fun hkey => hne ?_⟩
    have hsame := List.inj_on_of_nodup_map h.keys hmem hentry hkey
    rw [hsame]
  have hslotAt (other : SlotId) : (cache.unmap key).slotAt other = cache.slotAt other := rfl
  constructor
  · exact h.keys.sublist (hsub.map _)
  · exact h.ids.sublist (hsub.map _)
  · exact fun claim hmem => h.mapped_lt claim (hsub.subset hmem)
  · intro j claim hclaim
    refine hstays (h.claimed j claim hclaim) ?_
    by_cases hj : j < count
    · have hzero := h.holders id
      rw [hunused] at hzero
      have hnone := Finset.sum_eq_zero_iff.mp hzero.symm j (Finset.mem_range.mpr hj)
      exact Stance.claimsOf_eq_zero.mp hnone claim hclaim
    · rw [h.away j (Nat.le_of_not_lt hj)] at hclaim
      cases hclaim
  · exact h.away
  · exact h.holders
  · exact h.line
  · intro other a ha
    rw [hslotAt] at ha
    obtain ⟨adapter, hadapter, hmem⟩ := h.kept other a ha
    refine ⟨adapter, hadapter, hstays hmem ?_⟩
    rintro rfl
    rw [hempty] at ha
    cases ha
  · intro j seat rest work hj
    have hfits := h.works j seat rest work hj
    cases work <;> exact hfits

/-- The adapter of a slot has the key of the slot. -/
theorem key_eq (h : Tidy cache count stanceOf) (hi : stanceOf i = .inside seat rest work)
    {a : AdapterId} (hslot : (cache.slotAt seat.slot).adapter = some a) :
    ∃ adapter, cache.adapters[a]? = some adapter ∧ adapter.key = seat.key := by
  obtain ⟨adapter, hadapter, hmem⟩ := h.kept seat.slot a hslot
  have hclaim : (seat.key, seat.slot) ∈ cache.mapped := by
    refine h.claimed i _ ?_
    rw [hi]
    exact List.mem_cons_self
  have hsame := List.inj_on_of_nodup_map h.ids hmem hclaim rfl
  exact ⟨adapter, hadapter, (Prod.mk.inj hsame).1⟩

theorem adapterIn (h : Tidy cache count (Function.update stanceOf i (.inside seat rest .nothing)))
    (hi : i < count) (server : ServerConfig) (hempty : (cache.slotAt seat.slot).adapter = none) :
    Tidy (cache.adapterIn seat.key server seat.slot).2 count
      (Function.update stanceOf i (.inside seat rest (.keeps cache.adapters.length))) := by
  generalize hmade : Adapter.ofServer seat.key.ecosystem seat.key.root server cache.settings.session
    cache.settings.adapter = made
  have hkey : made.key = seat.key := by rw [← hmade]; rfl
  have hcache : (cache.adapterIn seat.key server seat.slot).2 =
      ({ cache with adapters := cache.adapters ++ [made] } : Cache).updateSlot seat.slot
        fun slot => { slot with adapter := some cache.adapters.length } := by
    simp only [Cache.adapterIn, hempty, hmade]
  have hlonger : Tidy { cache with adapters := cache.adapters ++ [made] } count
      (Function.update stanceOf i (.inside seat rest .nothing)) := by
    refine h.readapt rfl rfl fun a adapter hadapter => ⟨adapter, ?_, rfl⟩
    exact (List.getElem?_append_left (List.getElem?_eq_some_iff.mp hadapter).1).trans hadapter
  have hfilled := hlonger.refill (i := i) (Function.update_self ..) (some cache.adapters.length)
    (by rintro _ ⟨⟩; exact ⟨made, List.getElem?_concat_length, hkey⟩)
  have hlt : seat.slot < ({ cache with adapters := cache.adapters ++ [made] } : Cache).slots.length := by
    refine h.mapped_lt seat.claim (h.claimed i _ ?_)
    rw [Function.update_self]
    exact List.mem_cons_self
  rw [hcache]
  refine hfilled.rework hi ?_
  show (Cache.slotAt _ seat.slot).adapter = _
  rw [Cache.slotAt_updateSlot_self hlt]

theorem emptySlot {a : AdapterId}
    (h : Tidy cache count (Function.update stanceOf i (.inside seat rest (.keeps a))))
    (hi : i < count) :
    Tidy (cache.emptySlot seat.slot).2 count
      (Function.update stanceOf i (.inside seat rest (.closes a))) := by
  have hinside : Function.update stanceOf i (.inside seat rest (.keeps a)) i =
      .inside seat rest (.keeps a) := Function.update_self ..
  obtain ⟨adapter, hadapter, hkey⟩ := h.key_eq hinside (h.works i seat rest _ hinside)
  have hfree : Tidy cache count (Function.update stanceOf i (.inside seat rest .nothing)) :=
    h.rework hi trivial
  have hlt : seat.slot < cache.slots.length := by
    refine h.mapped_lt seat.claim (h.claimed i _ ?_)
    rw [hinside]
    exact List.mem_cons_self
  refine (hfree.refill (i := i) (Function.update_self ..) none (by rintro _ ⟨⟩)).rework hi ?_
  refine ⟨?_, adapter, hadapter, hkey⟩
  rw [Cache.slotAt_updateSlot_self hlt]

/-- Every move keeps the slots in good order. -/
theorem move {now : Instant} {mayDesert : Prop} {visit visit' : Visit}
    (hmove : VisitMove now mayDesert visit visit') (hi : i < count)
    (h : Tidy visit.cache count (Function.update stanceOf i visit.stance)) :
    Tidy visit'.cache count (Function.update stanceOf i visit'.stance) := by
  cases hmove with
  | touches cache stance taken id change calm =>
    exact h.updateAdapter fun adapter hadapter => (calm adapter hadapter).key
  | opens cache taken key fresh => exact h.openSlot hi fresh
  | takes cache rest taken claim mapped => exact h.takeSlot hi mapped
  | approaches cache rest taken claim => exact h.joinSlot hi
  | enters cache seat rest taken holds =>
    refine h.restance rfl rfl hi (fun id hinside => .inr ?_) ?_
    · obtain ⟨_, _, _, ⟨⟩, rfl⟩ := hinside
      exact ⟨seat.ticket, Stance.ticketAt_of_seat? rfl, holds⟩
    · rintro _ _ _ ⟨⟩
      exact trivial
  | finds cache seat rest taken adapter kept => exact h.rework hi kept
  | makes cache seat rest taken server empty => exact h.adapterIn hi server empty
  | pauses cache seat rest taken adapter => exact h.rework hi trivial
  | works cache seat rest taken id change key => exact h.updateAdapter key
  | empties cache seat rest adapter => exact h.emptySlot hi
  | stops cache seat rest taken id change key => exact h.updateAdapter key
  | closes cache seat rest taken id session found closed => exact h.rework hi trivial
  | leaves cache seat rest taken work done => exact h.leaveSlot hi rfl rfl
  | turnsBack cache seat rest taken => exact h.leaveSlot hi rfl rfl
  | drops cache rest taken claim => exact h.dropSlot hi
  | unmaps cache stance taken key id found unused empty => exact h.unmap found unused empty

theorem moves {now : Instant} {mayDesert : Prop} {visit visit' : Visit}
    (hmoves : VisitMoves now mayDesert visit visit') (hi : i < count)
    (h : Tidy visit.cache count (Function.update stanceOf i visit.stance)) :
    Tidy visit'.cache count (Function.update stanceOf i visit'.stance) := by
  induction hmoves with
  | refl => exact h
  | tail _ hmove ih => exact ih.move hmove hi

/-! ### Adapters in their slots -/

theorem current_iff (h : Tidy cache count stanceOf) {a : AdapterId} :
    cache.current? key = some a ↔
      ∃ id, (key, id) ∈ cache.mapped ∧ (cache.slotAt id).adapter = some a := by
  constructor
  · intro hcurrent
    obtain ⟨id, hlookup, hslot⟩ := Option.bind_eq_some_iff.mp hcurrent
    exact ⟨id, Cache.mem_mapped_of_lookup hlookup, hslot⟩
  · rintro ⟨id, hmem, hslot⟩
    rw [h.current_of_mem hmem, hslot]

/-- An adapter stays in its slot in every move but one. -/
theorem slot_move {now : Instant} {mayDesert : Prop} {visit visit' : Visit} {a : AdapterId}
    (hmove : VisitMove now mayDesert visit visit')
    (h : Tidy visit.cache count (Function.update stanceOf i visit.stance))
    (hmem : (key, id) ∈ visit.cache.mapped)
    (hslot : (visit.cache.slotAt id).adapter = some a) :
    (key, id) ∈ visit'.cache.mapped ∧ (visit'.cache.slotAt id).adapter = some a ∨
      visit'.taken = some key := by
  have hkeeps {cache : Cache} {slot : SlotId} {change : Slot → Slot}
      (hchange : ∀ slot, (change slot).adapter = slot.adapter) (hmem : (key, id) ∈ cache.mapped)
      (hslot : (cache.slotAt id).adapter = some a) :
      (key, id) ∈ (cache.updateSlot slot change).mapped ∧
        ((cache.updateSlot slot change).slotAt id).adapter = some a :=
    ⟨hmem, (Cache.adapter_updateSlot hchange id).trans hslot⟩
  cases hmove with
  | touches | enters | finds | pauses | works | stops | closes => exact .inl ⟨hmem, hslot⟩
  | takes | approaches | leaves | turnsBack | drops =>
    exact .inl (hkeeps (fun _ => rfl) hmem hslot)
  | opens cache taken key' fresh =>
    have hlt := h.mapped_lt _ hmem
    refine .inl ⟨List.mem_append_left _ hmem, ?_⟩
    rw [Cache.slotAt, Cache.openSlot, List.getElem?_append_left hlt]
    exact hslot
  | makes cache seat rest taken server empty =>
    have hne : seat.slot ≠ id := by
      rintro rfl
      rw [hslot] at empty
      cases empty
    simp only [Cache.adapterIn, empty]
    exact .inl ⟨hmem, (congrArg Slot.adapter (Cache.slotAt_updateSlot_of_ne hne _)).trans hslot⟩
  | empties cache seat rest adapter =>
    by_cases hid : seat.slot = id
    · -- The slot has one key only.
      have hclaim : (seat.key, seat.slot) ∈ cache.mapped := by
        refine h.claimed i _ ?_
        rw [Function.update_self]
        exact List.mem_cons_self
      have hsame := List.inj_on_of_nodup_map h.ids hclaim hmem hid
      exact .inr (congrArg some (Prod.mk.inj hsame).1)
    · exact .inl ⟨hmem, (congrArg Slot.adapter (Cache.slotAt_updateSlot_of_ne hid _)).trans hslot⟩
  | unmaps cache stance taken key' id' found unused empty =>
    refine .inl ⟨List.mem_filter.mpr ⟨hmem, decide_eq_true fun hkey => ?_⟩, hslot⟩
    have hsame := List.inj_on_of_nodup_map h.keys hmem (Cache.mem_mapped_of_lookup found) hkey
    obtain ⟨-, rfl⟩ := Prod.mk.inj hsame
    rw [hslot] at empty
    cases empty

theorem taken_move {now : Instant} {mayDesert : Prop} {visit visit' : Visit}
    (hmove : VisitMove now mayDesert visit visit') (h : visit.taken = some key) :
    visit'.taken = some key := by
  cases hmove with
  | empties => cases h
  | touches | opens | takes | approaches | enters | finds | makes | pauses | works | stops | closes
  | leaves | turnsBack | drops | unmaps => exact h

/-- An adapter leaves its slot only when it is taken out. -/
theorem current_moves {now : Instant} {mayDesert : Prop} {visit visit' : Visit} {a : AdapterId}
    (hmoves : VisitMoves now mayDesert visit visit') (hi : i < count)
    (h : Tidy visit.cache count (Function.update stanceOf i visit.stance))
    (hcurrent : visit.cache.current? key = some a) :
    visit'.cache.current? key = some a ∨ visit'.taken = some key := by
  induction hmoves with
  | refl => exact .inl hcurrent
  | tail hmoves hmove ih =>
    rcases ih with hcurrent | htaken
    · have hmiddle := h.moves hmoves hi
      obtain ⟨id, hmem, hslot⟩ := hmiddle.current_iff.mp hcurrent
      rcases hmiddle.slot_move hmove hmem hslot with hstays | htaken
      · exact .inl ((hmiddle.move hmove hi).current_iff.mpr ⟨id, hstays⟩)
      · exact .inr htaken
    · exact .inr (taken_move hmove htaken)

end Tidy
end SymbolSearch
