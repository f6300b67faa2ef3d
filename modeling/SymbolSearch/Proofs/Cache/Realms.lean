import SymbolSearch.Proofs.Cache.Identity
import SymbolSearch.Proofs.Cache.Twins

/-!
# What belongs to an ecosystem

* `Cache.realm` — the keys of an ecosystem, the slots to which they lead, and the adapters that were
  made for it.
* `Tidy.twin_self` — a cache is the same as itself to every ecosystem.
* `Cache.Twin.spared` — caches stay the same to an ecosystem while one of them changes elsewhere,
  and `Tidy.spares_realm` says that operations that do not use the ecosystem change it elsewhere.
-/

namespace SymbolSearch

/-- What belongs to an ecosystem. -/
def Cache.realm (cache : Cache) (ecosystem : Ecosystem) : Belongings where
  key := fun key => key.ecosystem = ecosystem
  slot := fun id => ∃ key : CacheKey, key.ecosystem = ecosystem ∧ (key, id) ∈ cache.mapped
  adapter := fun a => ∃ adapter, cache.adapters[a]? = some adapter ∧ adapter.ecosystem = ecosystem

namespace Pairing

/-- The slots and adapters of an ecosystem stand for themselves. -/
def selves (cache : Cache) (ecosystem : Ecosystem) : Pairing where
  slot := fun i j => i = j ∧ (cache.realm ecosystem).slot i
  adapter := fun a b => a = b ∧ (cache.realm ecosystem).adapter a

/-- No other slots stand for each other than those that belong to an ecosystem. -/
def within (pairing : Pairing) (cache : Cache) (ecosystem : Ecosystem) : Pairing where
  slot := fun i j => pairing.slot i j ∧ (cache.realm ecosystem).slot i
  adapter := pairing.adapter

end Pairing

variable {ecosystem : Ecosystem} {pairing : Pairing} {cache cache' middle : Cache} {count : Nat}
  {stanceOf : Nat → Stance} {a : AdapterId}

/-! ### Slots in good order -/

theorem Tidy.fenced_realm (h : Tidy cache count stanceOf) (ecosystem : Ecosystem) :
    (cache.realm ecosystem).Fenced cache where
  slot_lt := by
    rintro id ⟨key, -, hmem⟩
    exact h.mapped_lt (key, id) hmem
  found := by
    rintro key id hmem ⟨other, hother, hmem'⟩
    obtain ⟨rfl, -⟩ := Prod.mk.inj (List.inj_on_of_nodup_map h.ids hmem hmem' rfl)
    exact hother
  made := fun _ hown => hown
  kept := by
    rintro id a hkept ⟨adapter, hadapter, hown⟩
    obtain ⟨found, hfound, hmem⟩ := h.kept id a hkept
    obtain rfl : adapter = found := Option.some.inj (hadapter.symm.trans hfound)
    exact ⟨adapter.key, hown, hmem⟩

theorem Tidy.twin_self (h : Tidy cache count stanceOf) (ecosystem : Ecosystem) :
    cache.Twin ecosystem (.selves cache ecosystem) cache where
  servers := rfl
  settings := rfl
  lookup := by
    intro key hkey
    cases hlookup : cache.mapped.lookup key with
    | none => exact .none
    | some id => exact .some ⟨rfl, key, hkey, Cache.mem_mapped_of_lookup hlookup⟩
  slot := by
    rintro id _ ⟨rfl, hown⟩
    have hlt := (h.fenced_realm ecosystem).slot_lt id hown
    obtain ⟨slot, hslot⟩ : ∃ slot, cache.slots[id]? = some slot :=
      ⟨_, List.getElem?_eq_getElem hlt⟩
    refine ⟨slot, slot, hslot, hslot, rfl, rfl, ?_⟩
    cases hkept : slot.adapter with
    | none => exact .none
    | some a =>
      have hat : (cache.slotAt id).adapter = some a := by rw [Cache.slotAt, hslot]; exact hkept
      obtain ⟨adapter, hadapter, hmem⟩ := h.kept id a hat
      have hkey : adapter.key.ecosystem = ecosystem :=
        (h.fenced_realm ecosystem).found adapter.key id hmem hown
      exact .some ⟨rfl, adapter, hadapter, hkey⟩
  slot_iff := by
    rintro i i' j j' ⟨rfl, -⟩ ⟨rfl, -⟩
    exact Iff.rfl
  adapter := by
    rintro a _ ⟨rfl, adapter, hadapter, hown⟩
    exact ⟨adapter, hadapter, hadapter, hown⟩
  rank := by
    rintro a _ ⟨rfl, -⟩
    rfl
  made := rfl
  left := fun a adapter hadapter hown => ⟨a, rfl, adapter, hadapter, hown⟩
  right := fun a adapter hadapter hown => ⟨a, rfl, adapter, hadapter, hown⟩

/-! ### Adapters that are made elsewhere -/

theorem Knows.prefix_madeFor (h : Knows cache cache') : cache.madeFor <+: cache'.madeFor := by
  refine List.prefix_iff_getElem?.mpr fun a ha => ?_
  have hlt : a < cache.adapters.length := by
    rw [Cache.madeFor, List.length_map] at ha
    exact ha
  obtain ⟨adapter, hadapter, hkey⟩ := h a _ (List.getElem?_eq_getElem hlt)
  rw [Cache.madeFor, List.getElem?_map, hadapter]
  simp only [Cache.madeFor, List.getElem_map]
  exact congrArg (some ∘ CacheKey.ecosystem) hkey

theorem Knows.rankOf_eq (h : Knows cache cache') (ha : a ≤ cache.adapters.length)
    (ecosystem : Ecosystem) : cache'.rankOf ecosystem a = cache.rankOf ecosystem a := by
  obtain ⟨later, hlater⟩ := h.prefix_madeFor
  rw [Cache.rankOf, Cache.rankOf, ← hlater, List.take_append_of_le_length]
  rw [Cache.madeFor, List.length_map]
  exact ha

/-- No adapter was made for an ecosystem while its realm was spared. -/
theorem Cache.Spares.count_madeFor (h : cache.Spares (cache.realm ecosystem) cache')
    (hknows : Knows cache cache') :
    cache'.madeFor.count ecosystem = cache.madeFor.count ecosystem := by
  obtain ⟨later, hlater⟩ := hknows.prefix_madeFor
  rw [← hlater, List.count_append, Nat.add_eq_left, List.count_eq_zero]
  intro hmem
  obtain ⟨n, hn⟩ := List.mem_iff_getElem?.mp hmem
  have hmade : cache'.madeFor[cache.madeFor.length + n]? = some ecosystem := by
    rw [← hlater, List.getElem?_append_right (Nat.le_add_right _ _), Nat.add_sub_cancel_left]
    exact hn
  obtain ⟨adapter, hadapter, hown⟩ := Option.map_eq_some_iff.mp (List.getElem?_map ▸ hmade)
  obtain ⟨before, hbefore, -⟩ := h.none_made _ adapter hadapter hown
  have hlt := (List.getElem?_eq_some_iff.mp hbefore).1
  rw [Cache.madeFor, List.length_map] at hlt
  omega

/-! ### Caches that are the same to an ecosystem -/

namespace Cache.Twin

theorem within (h : cache.Twin ecosystem pairing cache') :
    cache.Twin ecosystem (pairing.within cache ecosystem) cache' where
  servers := h.servers
  settings := h.settings
  lookup := by
    intro key hkey
    have hlookup := h.lookup key hkey
    cases hleft : cache.mapped.lookup key with
    | none =>
      rw [hleft] at hlookup
      generalize cache'.mapped.lookup key = right at hlookup ⊢
      cases hlookup
      exact .none
    | some id =>
      rw [hleft] at hlookup
      generalize cache'.mapped.lookup key = right at hlookup ⊢
      cases hlookup with
      | some hij => exact .some ⟨hij, key, hkey, Cache.mem_mapped_of_lookup hleft⟩
  slot := by
    rintro i j ⟨hij, -⟩
    obtain ⟨slot, slot', hslot, hslot', htwin⟩ := h.slot i j hij
    exact ⟨slot, slot', hslot, hslot', htwin.turns, htwin.holders, htwin.adapter⟩
  slot_iff := fun i i' j j' hij hij' => h.slot_iff i i' j j' hij.1 hij'.1
  adapter := h.adapter
  rank := h.rank
  made := h.made
  left := h.left
  right := h.right

/-- The first cache changes, but nothing that belongs to the ecosystem. -/
theorem spared (h : cache.Twin ecosystem (pairing.within cache ecosystem) cache')
    (hspares : cache.Spares (cache.realm ecosystem) middle) (hknows : Knows cache middle)
    (hgiven : middle.settings = cache.settings ∧ middle.servers = cache.servers) :
    middle.Twin ecosystem (pairing.within cache ecosystem) cache' where
  servers := h.servers.trans hgiven.2.symm
  settings := h.settings.trans hgiven.1.symm
  lookup := fun key hkey => (hspares.lookup key hkey).symm ▸ h.lookup key hkey
  slot := fun i j hij => (hspares.slot i hij.2).symm ▸ h.slot i j hij
  slot_iff := h.slot_iff
  adapter := by
    intro a b hab
    obtain ⟨adapter, hleft, hright, hown⟩ := h.adapter a b hab
    exact ⟨adapter, (hspares.adapter a ⟨adapter, hleft, hown⟩).trans hleft, hright, hown⟩
  rank := by
    intro a b hab
    obtain ⟨adapter, hleft, -⟩ := h.adapter a b hab
    have hlt := (List.getElem?_eq_some_iff.mp hleft).1
    exact (hknows.rankOf_eq (Nat.le_of_lt hlt) ecosystem).trans (h.rank a b hab)
  made := h.made.trans (hspares.count_madeFor hknows).symm
  left := by
    intro a adapter hadapter hown
    obtain ⟨before, hbefore, hown'⟩ := hspares.none_made a adapter hadapter hown
    exact h.left a before hbefore hown'
  right := h.right

end Cache.Twin

/-! ### Operations for others -/

/-- Whether an operation has a slot of an ecosystem, or asks an adapter of it. -/
def CacheTask.Uses (cache : Cache) (ecosystem : Ecosystem) (task : CacheTask) : Prop :=
  (∃ claim ∈ task.stance.claims, claim.1.ecosystem = ecosystem) ∨
    ∃ a point, task = .ask a point ∧ (cache.realm ecosystem).adapter a

namespace Tidy

variable {now : Instant} {files : Option Tree} {i : Nat} {task : CacheTask}

theorem avoids_realm (h : Tidy cache count stanceOf) (hstands : stanceOf i = task.stance)
    (hbefore : ∀ claim ∈ task.stance.claims, claim.1.ecosystem ≠ ecosystem) :
    task.stance.Avoids (cache.realm ecosystem) := by
  have hfenced := h.fenced_realm ecosystem
  have hlacks (claim : CacheKey × SlotId) (hclaim : claim ∈ task.stance.claims) :
      (cache.realm ecosystem).Lacks claim := by
    refine hfenced.lacks_of_mem (h.claimed i claim ?_) (hbefore claim hclaim)
    rw [hstands]
    exact hclaim
  refine ⟨hlacks, fun seat rest a hwork => ?_⟩
  have hseat : (cache.realm ecosystem).Lacks seat.claim := by
    refine hlacks seat.claim ?_
    rcases hwork with hkeeps | hcloses
    · rw [hkeeps]
      exact List.mem_cons_self
    · rw [hcloses]
      exact List.mem_cons_self
  rcases hwork with hkeeps | hcloses
  · have hkept : (cache.slotAt seat.slot).adapter = some a :=
      h.works i seat rest _ (hstands.trans hkeeps)
    exact hfenced.lacks_adapter hseat.2 hkept
  · obtain ⟨-, adapter, hadapter, hkey⟩ := h.works i seat rest _ (hstands.trans hcloses)
    rintro ⟨found, hfound, hown⟩
    obtain rfl : adapter = found := Option.some.inj (hadapter.symm.trans hfound)
    exact hseat.1 ((congrArg CacheKey.ecosystem hkey).symm.trans hown)

/-- An operation that does not use an ecosystem spares it, unless it comes to have a slot of it. -/
theorem spares_realm (h : Tidy cache count stanceOf) (hstands : stanceOf i = task.stance)
    (huses : ¬task.Uses cache ecosystem)
    (hafter : ∀ claim ∈ ((task.step now files cache).2.stance CacheTask.stance).claims,
      claim.1.ecosystem ≠ ecosystem) :
    cache.Spares (cache.realm ecosystem) (task.step now files cache).1 := by
  refine task.spares_step (h.fenced_realm ecosystem) (h.avoids_realm hstands ?_) hafter ?_
  · exact fun claim hclaim hown => huses (.inl ⟨claim, hclaim, hown⟩)
  · exact fun a point htask hown => huses (.inr ⟨a, point, htask, hown⟩)

theorem spares_realm_cancel (h : Tidy cache count stanceOf) (hstands : stanceOf i = task.stance)
    (huses : ¬task.Uses cache ecosystem) :
    cache.Spares (cache.realm ecosystem) (task.cancel cache) := by
  refine task.spares_cancel cache (h.avoids_realm hstands ?_) ?_
  · exact fun claim hclaim hown => huses (.inl ⟨claim, hclaim, hown⟩)
  · exact fun a point htask hown => huses (.inr ⟨a, point, htask, hown⟩)

end Tidy

/-! ### Operations of an ecosystem -/

section Points

variable {entry entry' : EntryPoint} {point point' : ReconnectPoint} {hold hold' : Hold}

theorem Hold.Twin.within (h : hold.Twin ecosystem pairing hold')
    (hmem : hold.seat.claim ∈ cache.mapped) :
    hold.Twin ecosystem (pairing.within cache ecosystem) hold' :=
  ⟨h.key, h.own, h.server, h.ticket, h.slot, hold.key, h.own, hmem⟩

/-- The slots that one has who stands beside another belong to the ecosystem. -/
theorem EntryPoint.Twin.claims (h : entry.Twin ecosystem pairing entry') :
    ∀ claim ∈ entry.stance.claims, claim.1.ecosystem = ecosystem := by
  cases h with
  | starting | finding => rintro _ ⟨⟩
  | queued hold hold' same =>
    intro claim hclaim
    obtain rfl := List.mem_singleton.mp hclaim
    exact same.own

theorem EntryPoint.Twin.within (h : entry.Twin ecosystem pairing entry')
    (hclaims : ∀ claim ∈ entry.stance.claims, claim ∈ cache.mapped) :
    entry.Twin ecosystem (pairing.within cache ecosystem) entry' := by
  cases h with
  | starting workspace => exact .starting workspace
  | finding server workspace => exact .finding server workspace
  | queued hold hold' same =>
    exact .queued hold hold' (same.within (hclaims _ List.mem_cons_self))

/-- An operation stands beside itself, whatever it stood beside. -/
theorem Hold.Twin.self (h : hold.Twin ecosystem pairing hold')
    (hmem : hold.seat.claim ∈ cache.mapped) :
    hold.Twin ecosystem (.selves cache ecosystem) hold :=
  ⟨rfl, h.own, rfl, rfl, rfl, hold.key, h.own, hmem⟩

theorem EntryPoint.Twin.self (h : entry.Twin ecosystem pairing entry')
    (hclaims : ∀ claim ∈ entry.stance.claims, claim ∈ cache.mapped) :
    entry.Twin ecosystem (.selves cache ecosystem) entry := by
  cases h with
  | starting workspace => exact .starting workspace
  | finding server workspace => exact .finding server workspace
  | queued hold hold' same => exact .queued hold hold (same.self (hclaims _ List.mem_cons_self))

theorem ReconnectPoint.Twin.self (h : point.Twin ecosystem pairing point')
    (hclaims : ∀ claim ∈ point.stance.claims, claim ∈ cache.mapped)
    (hadapters : ∀ a b, pairing.adapter a b → (cache.realm ecosystem).adapter a) :
    point.Twin ecosystem (.selves cache ecosystem) point := by
  have hattempt {attempt attempt' : Attempt} (same : attempt.Twin ecosystem pairing attempt')
      (hmem : attempt.hold.seat.claim ∈ cache.mapped) :
      attempt.Twin ecosystem (.selves cache ecosystem) attempt :=
    ⟨same.hold.self hmem, rfl, rfl, rfl, hadapters _ _ same.adapter⟩
  cases h with
  | entering entry entry' same => exact .entering _ _ (same.self hclaims)
  | trying attempt attempt' same ensure =>
    exact .trying _ _ (hattempt same (hclaims _ List.mem_cons_self)) ensure
  | checking attempt attempt' same guardPoint =>
    exact .checking _ _ (hattempt same (hclaims _ List.mem_cons_self)) guardPoint
  | pausing hold hold' same failed resume =>
    exact .pausing _ _ (same.self (hclaims _ List.mem_cons_self)) failed resume
  | evicting hold hold' same a b paired stop error =>
    exact .evicting _ _ (same.self (hclaims _ List.mem_cons_self)) a a
      ⟨rfl, hadapters a b paired⟩ stop error

theorem ReconnectPoint.Twin.claims (h : point.Twin ecosystem pairing point') :
    ∀ claim ∈ point.stance.claims, claim.1.ecosystem = ecosystem := by
  have hseat {hold hold' : Hold} (same : hold.Twin ecosystem pairing hold') :
      ∀ claim ∈ [hold.seat.claim], claim.1.ecosystem = ecosystem := by
    intro claim hclaim
    obtain rfl := List.mem_singleton.mp hclaim
    exact same.own
  cases h with
  | entering entry entry' same => exact same.claims
  | trying attempt attempt' same | checking attempt attempt' same => exact hseat same.hold
  | pausing hold hold' same | evicting hold hold' same => exact hseat same

theorem ReconnectPoint.Twin.within (h : point.Twin ecosystem pairing point')
    (hclaims : ∀ claim ∈ point.stance.claims, claim ∈ cache.mapped) :
    point.Twin ecosystem (pairing.within cache ecosystem) point' := by
  have hattempt {attempt attempt' : Attempt} (same : attempt.Twin ecosystem pairing attempt')
      (hmem : attempt.hold.seat.claim ∈ cache.mapped) :
      attempt.Twin ecosystem (pairing.within cache ecosystem) attempt' :=
    ⟨same.hold.within hmem, same.failed, same.restarts, same.adapter⟩
  cases h with
  | entering entry entry' same => exact .entering _ _ (same.within hclaims)
  | trying attempt attempt' same ensure =>
    exact .trying _ _ (hattempt same (hclaims _ List.mem_cons_self)) ensure
  | checking attempt attempt' same guardPoint =>
    exact .checking _ _ (hattempt same (hclaims _ List.mem_cons_self)) guardPoint
  | pausing hold hold' same failed resume =>
    exact .pausing _ _ (same.within (hclaims _ List.mem_cons_self)) failed resume
  | evicting hold hold' same a b paired stop error =>
    exact .evicting _ _ (same.within (hclaims _ List.mem_cons_self)) a b paired stop error

end Points

end SymbolSearch
