import SymbolSearch.Proofs.Cache.Sparing

/-!
# Caches that look alike to one ecosystem

Two caches may differ in all that belongs to other ecosystems, and so in the numbers of slots and
adapters, and still be the same to one ecosystem.

* `Pairing` — which slots and adapters of two caches stand for each other.
* `Cache.Twin` — the caches are the same to an ecosystem, up to a pairing. It stays so when the
  same is done with slots and adapters that stand for each other (`Cache.Twin.updateSlot`,
  `Cache.Twin.stepAdapter`), and a slot or an adapter that is made in both makes one more pair
  (`Cache.Twin.findSlot`, `Cache.Twin.adapterIn`).
* `ReconnectPoint.Twin`, `EntryPoint.Twin` — two operations for an ecosystem stand at the same
  point.
* `ReconnectPoint.twin_step`, `Cache.twin_stepAdapterFor` — with caches that are the same to the
  ecosystem they do the same, and come to the same.
-/

namespace SymbolSearch

/-- The ecosystems of all adapters, in the order in which the adapters were made. -/
def Cache.madeFor (cache : Cache) : List Ecosystem := cache.adapters.map (·.ecosystem)

/-- The number of adapters that were made for an ecosystem before an adapter. -/
def Cache.rankOf (cache : Cache) (ecosystem : Ecosystem) (a : AdapterId) : Nat :=
  (cache.madeFor.take a).count ecosystem

/-- Which slots and adapters of two caches stand for each other. -/
structure Pairing where
  slot : SlotId → SlotId → Prop
  adapter : AdapterId → AdapterId → Prop

/-- More slots and adapters stand for each other. -/
structure Pairing.Grows (pairing pairing' : Pairing) : Prop where
  slot : ∀ i j, pairing.slot i j → pairing'.slot i j
  adapter : ∀ a b, pairing.adapter a b → pairing'.adapter a b

/-- Two slots are the same up to the number of the adapter in them. -/
structure Slot.Twin (pairing : Pairing) (slot slot' : Slot) : Prop where
  turns : slot'.turns = slot.turns
  holders : slot'.holders = slot.holders
  adapter : Option.Rel pairing.adapter slot.adapter slot'.adapter

/-- Two caches are the same to an ecosystem. -/
structure Cache.Twin (ecosystem : Ecosystem) (pairing : Pairing) (cache cache' : Cache) : Prop where
  servers : cache'.servers = cache.servers
  settings : cache'.settings = cache.settings
  lookup : ∀ key : CacheKey, key.ecosystem = ecosystem →
    Option.Rel pairing.slot (cache.mapped.lookup key) (cache'.mapped.lookup key)
  slot : ∀ i j, pairing.slot i j → ∃ slot slot', cache.slots[i]? = some slot ∧
    cache'.slots[j]? = some slot' ∧ slot.Twin pairing slot'
  slot_iff : ∀ i i' j j', pairing.slot i j → pairing.slot i' j' → (i = i' ↔ j = j')
  adapter : ∀ a b, pairing.adapter a b → ∃ adapter : Adapter, cache.adapters[a]? = some adapter ∧
    cache'.adapters[b]? = some adapter ∧ adapter.ecosystem = ecosystem
  rank : ∀ a b, pairing.adapter a b → cache.rankOf ecosystem a = cache'.rankOf ecosystem b
  made : cache'.madeFor.count ecosystem = cache.madeFor.count ecosystem
  left : ∀ (a : AdapterId) (adapter : Adapter), cache.adapters[a]? = some adapter →
    adapter.ecosystem = ecosystem → ∃ b, pairing.adapter a b
  right : ∀ (b : AdapterId) (adapter : Adapter), cache'.adapters[b]? = some adapter →
    adapter.ecosystem = ecosystem → ∃ a, pairing.adapter a b

variable {ecosystem : Ecosystem} {pairing pairing' : Pairing} {cache cache' : Cache}
  {i j : SlotId} {a b : AdapterId} {key : CacheKey}

namespace Pairing.Grows

theorem refl (pairing : Pairing) : pairing.Grows pairing := ⟨fun _ _ => id, fun _ _ => id⟩

theorem trans {pairing'' : Pairing} (h : pairing.Grows pairing') (h' : pairing'.Grows pairing'') :
    pairing.Grows pairing'' where
  slot := fun i j hij => h'.slot i j (h.slot i j hij)
  adapter := fun a b hab => h'.adapter a b (h.adapter a b hab)

end Pairing.Grows

/-- Whatever stands for each other still does. -/
theorem rel_mono {α : Type} {holds holds' : α → α → Prop} {first second : Option α}
    (h : Option.Rel holds first second) (hmono : ∀ x y, holds x y → holds' x y) :
    Option.Rel holds' first second := by
  cases h with
  | none => exact .none
  | some h => exact .some (hmono _ _ h)

theorem Slot.Twin.grow {slot slot' : Slot} (h : slot.Twin pairing slot')
    (hgrows : pairing.Grows pairing') : slot.Twin pairing' slot' where
  turns := h.turns
  holders := h.holders
  adapter := rel_mono h.adapter hgrows.adapter

/-! ### Ranks -/

namespace Cache

theorem madeFor_updateAdapter {change : Adapter → Adapter}
    (hchange : ∀ adapter, cache.adapters[a]? = some adapter →
      (change adapter).ecosystem = adapter.ecosystem) :
    (cache.updateAdapter a change).madeFor = cache.madeFor := by
  refine List.ext_getElem? fun n => ?_
  rw [madeFor, madeFor, updateAdapter, List.getElem?_map, List.getElem?_map]
  by_cases hn : a = n
  · subst hn
    rw [List.getElem?_modify_eq]
    cases hadapter : cache.adapters[a]? with
    | none => rfl
    | some adapter => exact congrArg some (hchange adapter hadapter)
  · rw [List.getElem?_modify_ne _ _ hn]

theorem rankOf_updateAdapter {change : Adapter → Adapter}
    (hchange : ∀ adapter, cache.adapters[a]? = some adapter →
      (change adapter).ecosystem = adapter.ecosystem) (b : AdapterId) :
    (cache.updateAdapter a change).rankOf ecosystem b = cache.rankOf ecosystem b := by
  rw [rankOf, madeFor_updateAdapter hchange, rankOf]

/-- Adapters that are made later do not count. -/
theorem rankOf_append {made : List Adapter} (ha : a ≤ cache.adapters.length) :
    ({ cache with adapters := cache.adapters ++ made } : Cache).rankOf ecosystem a =
      cache.rankOf ecosystem a := by
  rw [rankOf, rankOf, madeFor, madeFor, List.map_append, List.take_append_of_le_length]
  rw [List.length_map]
  exact ha

/-- The next adapter comes after all that were made. -/
theorem rankOf_length : cache.rankOf ecosystem cache.adapters.length =
    cache.madeFor.count ecosystem := by
  have hall : cache.madeFor.length ≤ cache.adapters.length := Nat.le_of_eq (List.length_map _)
  rw [rankOf, List.take_of_length_le hall]

/-- An adapter that was made later has a greater rank. -/
theorem rankOf_lt {adapter : Adapter} (ha : cache.adapters[a]? = some adapter)
    (hecosystem : adapter.ecosystem = ecosystem) (hlt : a < b) :
    cache.rankOf ecosystem a < cache.rankOf ecosystem b := by
  have hmade : cache.madeFor[a]? = some ecosystem := by
    rw [madeFor, List.getElem?_map, ha, ← hecosystem]
    rfl
  have hnext : cache.madeFor.take (a + 1) = cache.madeFor.take a ++ [ecosystem] := by
    rw [List.take_add_one, hmade]
    rfl
  have hsub : (cache.madeFor.take (a + 1)).Sublist (cache.madeFor.take b) :=
    (List.take_prefix_take_left hlt).sublist
  have hle := hsub.count_le ecosystem
  rw [hnext, List.count_append, List.count_singleton_self] at hle
  exact hle

/-- Two adapters for an ecosystem with one rank are one. -/
theorem eq_of_rankOf {adapter adapter' : Adapter} (ha : cache.adapters[a]? = some adapter)
    (hb : cache.adapters[b]? = some adapter') (hadapter : adapter.ecosystem = ecosystem)
    (hadapter' : adapter'.ecosystem = ecosystem)
    (hrank : cache.rankOf ecosystem a = cache.rankOf ecosystem b) : a = b := by
  rcases Nat.lt_trichotomy a b with hlt | rfl | hgt
  · exact absurd hrank (Nat.ne_of_lt (rankOf_lt ha hadapter hlt))
  · rfl
  · exact absurd hrank.symm (Nat.ne_of_lt (rankOf_lt hb hadapter' hgt))

end Cache

/-! ### What is done with slots and adapters -/

namespace Cache.Twin

theorem adapter_iff (h : cache.Twin ecosystem pairing cache') {a' b' : AdapterId}
    (hab : pairing.adapter a b) (hab' : pairing.adapter a' b') : a = a' ↔ b = b' := by
  obtain ⟨adapter, hleft, hright, hecosystem⟩ := h.adapter a b hab
  obtain ⟨adapter', hleft', hright', hecosystem'⟩ := h.adapter a' b' hab'
  have hrank := h.rank a b hab
  have hrank' := h.rank a' b' hab'
  constructor
  · rintro rfl
    exact eq_of_rankOf hright hright' hecosystem hecosystem' (hrank.symm.trans hrank')
  · rintro rfl
    exact eq_of_rankOf hleft hleft' hecosystem hecosystem' (hrank.trans hrank'.symm)

theorem updateAdapter {change : Adapter → Adapter} (h : cache.Twin ecosystem pairing cache')
    (hab : pairing.adapter a b)
    (hchange : ∀ adapter, cache.adapters[a]? = some adapter →
      (change adapter).ecosystem = adapter.ecosystem) :
    (cache.updateAdapter a change).Twin ecosystem pairing (cache'.updateAdapter b change) := by
  obtain ⟨adapter, hleft, hright, hecosystem⟩ := h.adapter a b hab
  have hchange' (found : Adapter) (hfound : cache'.adapters[b]? = some found) :
      (change found).ecosystem = found.ecosystem := by
    obtain rfl : adapter = found := Option.some.inj (hright.symm.trans hfound)
    exact hchange adapter hleft
  have hmade {c : Cache} {x : AdapterId} (y : AdapterId) (found : Adapter)
      (hc : ∀ adapter, c.adapters[x]? = some adapter →
        (change adapter).ecosystem = adapter.ecosystem)
      (hfound : (c.updateAdapter x change).adapters[y]? = some found)
      (hown : found.ecosystem = ecosystem) :
      ∃ before, c.adapters[y]? = some before ∧ before.ecosystem = ecosystem := by
    by_cases hxy : x = y
    · subst hxy
      rw [Cache.updateAdapter, List.getElem?_modify_eq] at hfound
      obtain ⟨before, hbefore, rfl⟩ := Option.map_eq_some_iff.mp hfound
      exact ⟨before, hbefore, (hc before hbefore).symm.trans hown⟩
    · rw [Cache.updateAdapter, List.getElem?_modify_ne _ _ hxy] at hfound
      exact ⟨found, hfound, hown⟩
  refine ⟨h.servers, h.settings, h.lookup, h.slot, h.slot_iff, fun x y hxy => ?_, fun x y hxy => ?_,
    ?_, fun x found hfound hown => ?_, fun y found hfound hown => ?_⟩
  · obtain ⟨other, hother, hother', hown⟩ := h.adapter x y hxy
    have hiff := h.adapter_iff hab hxy
    by_cases hx : a = x
    · subst hx
      obtain rfl := hiff.mp rfl
      obtain rfl : adapter = other := Option.some.inj (hleft.symm.trans hother)
      refine ⟨change adapter, ?_, ?_, (hchange adapter hleft).trans hown⟩
      · rw [Cache.updateAdapter, List.getElem?_modify_eq, hother]
        rfl
      · rw [Cache.updateAdapter, List.getElem?_modify_eq, hother']
        rfl
    · have hy : b ≠ y := fun hy => hx (hiff.mpr hy)
      refine ⟨other, ?_, ?_, hown⟩
      · rw [Cache.updateAdapter, List.getElem?_modify_ne _ _ hx]
        exact hother
      · rw [Cache.updateAdapter, List.getElem?_modify_ne _ _ hy]
        exact hother'
  · rw [rankOf_updateAdapter hchange, rankOf_updateAdapter hchange']
    exact h.rank x y hxy
  · rw [madeFor_updateAdapter hchange, madeFor_updateAdapter hchange']
    exact h.made
  · obtain ⟨before, hbefore, hown'⟩ := hmade x found hchange hfound hown
    exact h.left x before hbefore hown'
  · obtain ⟨before, hbefore, hown'⟩ := hmade y found hchange' hfound hown
    exact h.right y before hbefore hown'

/-- A step with adapters that stand for each other comes to the same. -/
theorem stepAdapter {π ρ : Type} {step : Adapter → Stepped Adapter π ρ}
    (h : cache.Twin ecosystem pairing cache') (hab : pairing.adapter a b)
    (hstep : ∀ adapter, (step adapter).1.ecosystem = adapter.ecosystem) :
    (cache.stepAdapter a step).1.Twin ecosystem pairing (cache'.stepAdapter b step).1 ∧
      (cache'.stepAdapter b step).2 = (cache.stepAdapter a step).2 := by
  obtain ⟨adapter, hleft, hright, -⟩ := h.adapter a b hab
  simp only [Cache.stepAdapter, hleft, hright]
  refine ⟨h.updateAdapter hab fun found hfound => ?_, trivial⟩
  obtain rfl : adapter = found := Option.some.inj (hleft.symm.trans hfound)
  exact hstep adapter

theorem stepSession {π ρ : Type} (h : cache.Twin ecosystem pairing cache')
    (hab : pairing.adapter a b) (step : Session → Stepped Session π ρ) :
    (cache.stepSession a step).1.Twin ecosystem pairing (cache'.stepSession b step).1 ∧
      (cache'.stepSession b step).2 = (cache.stepSession a step).2 :=
  h.stepAdapter hab fun _ => rfl

theorem session? (h : cache.Twin ecosystem pairing cache') (hab : pairing.adapter a b) :
    cache'.session? b = cache.session? a := by
  obtain ⟨adapter, hleft, hright, -⟩ := h.adapter a b hab
  rw [Cache.session?, Cache.session?, hleft, hright]

theorem slotAt (h : cache.Twin ecosystem pairing cache') (hij : pairing.slot i j) :
    (cache.slotAt i).Twin pairing (cache'.slotAt j) := by
  obtain ⟨slot, slot', hleft, hright, htwin⟩ := h.slot i j hij
  rw [Cache.slotAt, Cache.slotAt, hleft, hright]
  exact htwin

theorem updateSlot {change change' : Slot → Slot} (h : cache.Twin ecosystem pairing cache')
    (hij : pairing.slot i j)
    (hchange : ∀ slot slot' : Slot, slot.Twin pairing slot' →
      (change slot).Twin pairing (change' slot')) :
    (cache.updateSlot i change).Twin ecosystem pairing (cache'.updateSlot j change') := by
  refine ⟨h.servers, h.settings, h.lookup, fun x y hxy => ?_, h.slot_iff, h.adapter, h.rank, h.made,
    h.left, h.right⟩
  obtain ⟨slot, slot', hleft, hright, htwin⟩ := h.slot x y hxy
  have hiff := h.slot_iff i x j y hij hxy
  by_cases hx : i = x
  · subst hx
    obtain rfl := hiff.mp rfl
    refine ⟨change slot, change' slot', ?_, ?_, hchange slot slot' htwin⟩
    · rw [Cache.updateSlot, List.getElem?_modify_eq, hleft]
      rfl
    · rw [Cache.updateSlot, List.getElem?_modify_eq, hright]
      rfl
  · have hy : j ≠ y := fun hy => hx (hiff.mpr hy)
    refine ⟨slot, slot', ?_, ?_, htwin⟩
    · rw [Cache.updateSlot, List.getElem?_modify_ne _ _ hx]
      exact hleft
    · rw [Cache.updateSlot, List.getElem?_modify_ne _ _ hy]
      exact hright

theorem joinSlot (h : cache.Twin ecosystem pairing cache') (hij : pairing.slot i j) :
    (cache'.joinSlot j).1 = (cache.joinSlot i).1 ∧
      (cache.joinSlot i).2.Twin ecosystem pairing (cache'.joinSlot j).2 := by
  have hturns := (h.slotAt hij).turns
  simp only [Cache.joinSlot, hturns]
  refine ⟨trivial, h.updateSlot hij fun slot slot' htwin => ?_⟩
  exact ⟨rfl, htwin.holders, htwin.adapter⟩

theorem leaveSlot (h : cache.Twin ecosystem pairing cache') (hij : pairing.slot i j)
    (ticket : Ticket) :
    (cache.leaveSlot i ticket).Twin ecosystem pairing (cache'.leaveSlot j ticket) := by
  refine h.updateSlot hij fun slot slot' htwin => ⟨?_, htwin.holders, htwin.adapter⟩
  exact congrArg (fun turns => turns.leave ticket) htwin.turns

theorem dropSlot (h : cache.Twin ecosystem pairing cache') (hij : pairing.slot i j) :
    (cache.dropSlot i).Twin ecosystem pairing (cache'.dropSlot j) := by
  refine h.updateSlot hij fun slot slot' htwin => ⟨htwin.turns, ?_, htwin.adapter⟩
  exact congrArg (· - 1) htwin.holders

theorem emptySlot (h : cache.Twin ecosystem pairing cache') (hij : pairing.slot i j) :
    Option.Rel pairing.adapter (cache.emptySlot i).1 (cache'.emptySlot j).1 ∧
      (cache.emptySlot i).2.Twin ecosystem pairing (cache'.emptySlot j).2 := by
  refine ⟨(h.slotAt hij).adapter, h.updateSlot hij fun slot slot' htwin => ?_⟩
  exact ⟨htwin.turns, htwin.holders, .none⟩

/-- A key leads to slots that stand for each other, in both caches or in neither. -/
theorem lookup_iff (h : cache.Twin ecosystem pairing cache') (hkey : key.ecosystem = ecosystem)
    (hij : pairing.slot i j) :
    cache'.mapped.lookup key = some j ↔ cache.mapped.lookup key = some i := by
  have hlookup := h.lookup key hkey
  cases hleft : cache.mapped.lookup key with
  | none =>
    rw [hleft] at hlookup
    cases hright : cache'.mapped.lookup key with
    | none => simp
    | some found =>
      rw [hright] at hlookup
      cases hlookup
  | some i' =>
    rw [hleft] at hlookup
    cases hright : cache'.mapped.lookup key with
    | none =>
      rw [hright] at hlookup
      cases hlookup
    | some j' =>
      rw [hright] at hlookup
      cases hlookup with
      | some hfound =>
        rw [Option.some.injEq, Option.some.injEq]
        exact (h.slot_iff i' i j' j hfound hij).symm

theorem unmapSlot (h : cache.Twin ecosystem pairing cache') (hkey : key.ecosystem = ecosystem)
    (hij : pairing.slot i j) :
    (cache.unmapSlot key i).Twin ecosystem pairing (cache'.unmapSlot key j) := by
  have hslot := h.slotAt hij
  have hempty : (cache'.slotAt j).adapter.isNone = (cache.slotAt i).adapter.isNone := by
    have hadapter := hslot.adapter
    generalize (cache.slotAt i).adapter = found, (cache'.slotAt j).adapter = found' at hadapter
    cases hadapter <;> rfl
  have hlookup := h.lookup_iff hkey hij
  simp only [Cache.unmapSlot, hslot.holders, hempty, hlookup]
  split
  · refine ⟨h.servers, h.settings, fun other hother => ?_, h.slot, h.slot_iff, h.adapter, h.rank,
      h.made, h.left, h.right⟩
    by_cases hne : other = key
    · -- The key leads nowhere any more.
      subst hne
      have hgone (entries : List (CacheKey × SlotId)) :
          (entries.filter fun entry => decide (entry.1 ≠ other)).lookup other = none := by
        refine List.lookup_eq_none_iff.mpr fun entry hentry => ?_
        have hnot : entry.1 ≠ other := of_decide_eq_true (List.mem_filter.mp hentry).2
        exact bne_iff_ne.mpr (Ne.symm hnot)
      rw [hgone, hgone]
      exact .none
    · rw [Cache.lookup_filter_ne hne, Cache.lookup_filter_ne hne]
      exact h.lookup other hother
  · exact h

theorem leaveHold {hold hold' : Hold} (h : cache.Twin ecosystem pairing cache')
    (hij : pairing.slot hold.slot hold'.slot) (hticket : hold'.ticket = hold.ticket) :
    (cache.leaveHold hold).Twin ecosystem pairing (cache'.leaveHold hold') := by
  rw [Cache.leaveHold, Cache.leaveHold, hticket]
  exact (h.leaveSlot hij hold.ticket).dropSlot hij

/-- The slots for a key stand for each other from then on. -/
theorem findSlot (h : cache.Twin ecosystem pairing cache') (hkey : key.ecosystem = ecosystem) :
    ∃ pairing', pairing.Grows pairing' ∧
      pairing'.slot (cache.findSlot key).1 (cache'.findSlot key).1 ∧
      (cache.findSlot key).2.Twin ecosystem pairing' (cache'.findSlot key).2 := by
  have hlookup := h.lookup key hkey
  cases hleft : cache.mapped.lookup key with
  | some i =>
    cases hright : cache'.mapped.lookup key with
    | none =>
      rw [hleft, hright] at hlookup
      cases hlookup
    | some j =>
      rw [hleft, hright] at hlookup
      have hij : pairing.slot i j := Option.rel_some_some.mp hlookup
      simp only [Cache.findSlot, hleft, hright]
      refine ⟨pairing, .refl pairing, hij, h.updateSlot hij fun slot slot' htwin => ?_⟩
      exact ⟨htwin.turns, congrArg (· + 1) htwin.holders, htwin.adapter⟩
  | none =>
    cases hright : cache'.mapped.lookup key with
    | some j =>
      rw [hleft, hright] at hlookup
      cases hlookup
    | none =>
      simp only [Cache.findSlot, hleft, hright]
      -- The new slots stand for each other.
      have hlt {x y : SlotId} (hxy : pairing.slot x y) :
          x < cache.slots.length ∧ y < cache'.slots.length := by
        obtain ⟨slot, slot', hslot, hslot', -⟩ := h.slot x y hxy
        exact ⟨(List.getElem?_eq_some_iff.mp hslot).1, (List.getElem?_eq_some_iff.mp hslot').1⟩
      have hgrows : pairing.Grows ⟨fun x y => pairing.slot x y ∨
          x = cache.slots.length ∧ y = cache'.slots.length, pairing.adapter⟩ :=
        ⟨fun _ _ => .inl, fun _ _ => id⟩
      refine ⟨_, hgrows, .inr ⟨rfl, rfl⟩, h.servers, h.settings, fun other hother => ?_,
        fun x y hxy => ?_, fun x x' y y' hxy hxy' => ?_, h.adapter, h.rank, h.made, h.left,
        h.right⟩
      · rw [List.lookup_append, List.lookup_append]
        by_cases hne : other = key
        · subst hne
          simp only [hleft, hright, List.lookup_cons, beq_self_eq_true, Option.none_or]
          exact .some (.inr ⟨rfl, rfl⟩)
        · have hfalse : (other == key) = false := beq_eq_false_iff_ne.mpr hne
          simp only [List.lookup_cons, List.lookup_nil, hfalse, Option.or_none]
          exact rel_mono (h.lookup other hother) fun _ _ => .inl
      · rcases hxy with hxy | ⟨rfl, rfl⟩
        · obtain ⟨slot, slot', hslot, hslot', htwin⟩ := h.slot x y hxy
          refine ⟨slot, slot', ?_, ?_, htwin.grow hgrows⟩
          · exact (List.getElem?_append_left (hlt hxy).1).trans hslot
          · exact (List.getElem?_append_left (hlt hxy).2).trans hslot'
        · exact ⟨_, _, List.getElem?_concat_length, List.getElem?_concat_length, rfl, rfl, .none⟩
      · rcases hxy with hxy | ⟨rfl, rfl⟩
        · rcases hxy' with hxy' | ⟨rfl, rfl⟩
          · exact h.slot_iff x x' y y' hxy hxy'
          · exact iff_of_false (Nat.ne_of_lt (hlt hxy).1) (Nat.ne_of_lt (hlt hxy).2)
        · rcases hxy' with hxy' | ⟨rfl, rfl⟩
          · exact iff_of_false (Nat.ne_of_gt (hlt hxy').1) (Nat.ne_of_gt (hlt hxy').2)
          · exact iff_of_true rfl rfl

/-- The adapters in slots that stand for each other do so too, and they are made if there are
    none. -/
theorem adapterIn (h : cache.Twin ecosystem pairing cache') (hkey : key.ecosystem = ecosystem)
    (hij : pairing.slot i j) (server : ServerConfig) :
    ∃ pairing', pairing.Grows pairing' ∧
      pairing'.adapter (cache.adapterIn key server i).1 (cache'.adapterIn key server j).1 ∧
      (cache.adapterIn key server i).2.Twin ecosystem pairing'
        (cache'.adapterIn key server j).2 := by
  have hslot := (h.slotAt hij).adapter
  cases hleft : (cache.slotAt i).adapter with
  | some a =>
    cases hright : (cache'.slotAt j).adapter with
    | none =>
      rw [hleft, hright] at hslot
      cases hslot
    | some b =>
      rw [hleft, hright] at hslot
      simp only [Cache.adapterIn, hleft, hright]
      exact ⟨pairing, .refl pairing, Option.rel_some_some.mp hslot, h⟩
  | none =>
    cases hright : (cache'.slotAt j).adapter with
    | some b =>
      rw [hleft, hright] at hslot
      cases hslot
    | none =>
      simp only [Cache.adapterIn, hleft, hright]
      generalize hmade : Adapter.ofServer key.ecosystem key.root server cache.settings.session
        cache.settings.adapter = made
      have hecosystem : made.ecosystem = ecosystem := by
        rw [← hmade]
        exact hkey
      have hsame : Adapter.ofServer key.ecosystem key.root server cache'.settings.session
          cache'.settings.adapter = made := by
        rw [h.settings]
        exact hmade
      rw [hsame]
      have hlt {x y : AdapterId} (hxy : pairing.adapter x y) :
          x < cache.adapters.length ∧ y < cache'.adapters.length := by
        obtain ⟨adapter, hx, hy, -⟩ := h.adapter x y hxy
        exact ⟨(List.getElem?_eq_some_iff.mp hx).1, (List.getElem?_eq_some_iff.mp hy).1⟩
      have hnew {adapters : List Adapter} {x : AdapterId} {adapter : Adapter}
          (hadapter : (adapters ++ [made])[x]? = some adapter) :
          adapters[x]? = some adapter ∨ x = adapters.length ∧ adapter = made := by
        rw [List.getElem?_append] at hadapter
        split at hadapter
        next => exact .inl hadapter
        next hle =>
          obtain ⟨hx, hsame⟩ := List.getElem?_eq_some_iff.mp hadapter
          rw [List.getElem_singleton] at hsame
          rw [List.length_singleton, Nat.lt_one_iff, Nat.sub_eq_zero_iff_le] at hx
          exact .inr ⟨Nat.le_antisymm hx (Nat.le_of_not_lt hle), hsame.symm⟩
      have hgrows : pairing.Grows ⟨pairing.slot, fun x y => pairing.adapter x y ∨
          x = cache.adapters.length ∧ y = cache'.adapters.length⟩ :=
        ⟨fun _ _ => id, fun _ _ => .inl⟩
      have hlonger : Cache.Twin ecosystem ⟨pairing.slot, fun x y => pairing.adapter x y ∨
          x = cache.adapters.length ∧ y = cache'.adapters.length⟩
          { cache with adapters := cache.adapters ++ [made] }
          { cache' with adapters := cache'.adapters ++ [made] } := by
        refine ⟨h.servers, h.settings, h.lookup, fun x y hxy => ?_, h.slot_iff, fun x y hxy => ?_,
          fun x y hxy => ?_, ?_, fun x adapter hadapter hown => ?_,
          fun y adapter hadapter hown => ?_⟩
        · obtain ⟨slot, slot', hx, hy, htwin⟩ := h.slot x y hxy
          exact ⟨slot, slot', hx, hy, htwin.grow hgrows⟩
        · rcases hxy with hxy | ⟨rfl, rfl⟩
          · obtain ⟨adapter, hx, hy, hown⟩ := h.adapter x y hxy
            refine ⟨adapter, ?_, ?_, hown⟩
            · exact (List.getElem?_append_left (hlt hxy).1).trans hx
            · exact (List.getElem?_append_left (hlt hxy).2).trans hy
          · exact ⟨made, List.getElem?_concat_length, List.getElem?_concat_length, hecosystem⟩
        · rcases hxy with hxy | ⟨rfl, rfl⟩
          · rw [rankOf_append (Nat.le_of_lt (hlt hxy).1), rankOf_append (Nat.le_of_lt (hlt hxy).2)]
            exact h.rank x y hxy
          · rw [rankOf_append (Nat.le_refl _), rankOf_append (Nat.le_refl _), rankOf_length,
              rankOf_length]
            exact h.made.symm
        · rw [madeFor, madeFor, List.map_append, List.map_append, List.count_append,
            List.count_append]
          exact congrArg (· + _) h.made
        · rcases hnew hadapter with hadapter | ⟨rfl, rfl⟩
          · obtain ⟨y, hxy⟩ := h.left x adapter hadapter hown
            exact ⟨y, .inl hxy⟩
          · exact ⟨_, .inr ⟨rfl, rfl⟩⟩
        · rcases hnew hadapter with hadapter | ⟨rfl, rfl⟩
          · obtain ⟨x, hxy⟩ := h.right y adapter hadapter hown
            exact ⟨x, .inl hxy⟩
          · exact ⟨_, .inr ⟨rfl, rfl⟩⟩
      refine ⟨_, hgrows, .inr ⟨rfl, rfl⟩, hlonger.updateSlot hij fun slot slot' htwin => ?_⟩
      exact ⟨htwin.turns, htwin.holders, .some (.inr ⟨rfl, rfl⟩)⟩

end Cache.Twin

end SymbolSearch

namespace SymbolSearch

/-! ### Operations for one ecosystem, side by side -/

variable {ecosystem : Ecosystem} {pairing pairing' : Pairing} {cache cache' : Cache}
  {a b : AdapterId}

/-! ### Operations that stand at the same point -/

/-- Two holds are the same up to the numbers of their slots. -/
structure Hold.Twin (ecosystem : Ecosystem) (pairing : Pairing) (hold hold' : Hold) : Prop where
  key : hold'.key = hold.key
  own : hold.key.ecosystem = ecosystem
  server : hold'.server = hold.server
  ticket : hold'.ticket = hold.ticket
  slot : pairing.slot hold.slot hold'.slot

/-- Two who are on the way to a slot for an ecosystem stand at the same point. -/
inductive EntryPoint.Twin (ecosystem : Ecosystem) (pairing : Pairing) :
    EntryPoint → EntryPoint → Prop where
  | starting (workspace : Path) :
      Twin ecosystem pairing (.starting ecosystem workspace) (.starting ecosystem workspace)
  | finding (server : ServerConfig) (workspace : Path) :
      Twin ecosystem pairing (.finding ecosystem server workspace)
        (.finding ecosystem server workspace)
  | queued (hold hold' : Hold) (same : hold.Twin ecosystem pairing hold') :
      Twin ecosystem pairing (.queued hold) (.queued hold')

/-- Two attempts are the same up to the numbers of slots and adapters. -/
structure Attempt.Twin (ecosystem : Ecosystem) (pairing : Pairing) (attempt attempt' : Attempt) :
    Prop where
  hold : attempt.hold.Twin ecosystem pairing attempt'.hold
  failed : attempt'.failed = attempt.failed
  restarts : attempt'.restarts = attempt.restarts
  adapter : pairing.adapter attempt.adapter attempt'.adapter

/-- Two who get a session for an ecosystem stand at the same point. -/
inductive ReconnectPoint.Twin (ecosystem : Ecosystem) (pairing : Pairing) :
    ReconnectPoint → ReconnectPoint → Prop where
  | entering (entry entry' : EntryPoint) (same : entry.Twin ecosystem pairing entry') :
      Twin ecosystem pairing (.entering entry) (.entering entry')
  | trying (attempt attempt' : Attempt) (same : attempt.Twin ecosystem pairing attempt')
      (ensure : EnsurePoint) :
      Twin ecosystem pairing (.trying attempt ensure) (.trying attempt' ensure)
  | checking (attempt attempt' : Attempt) (same : attempt.Twin ecosystem pairing attempt')
      (guardPoint : GuardPoint) :
      Twin ecosystem pairing (.checking attempt guardPoint) (.checking attempt' guardPoint)
  | pausing (hold hold' : Hold) (same : hold.Twin ecosystem pairing hold') (failed : Nat)
      (resume : Instant) :
      Twin ecosystem pairing (.pausing hold failed resume) (.pausing hold' failed resume)
  | evicting (hold hold' : Hold) (same : hold.Twin ecosystem pairing hold') (a b : AdapterId)
      (paired : pairing.adapter a b) (stop : StopPoint) (error : CacheError) :
      Twin ecosystem pairing (.evicting hold a stop error) (.evicting hold' b stop error)

/-- Two results are the same up to numbers. -/
inductive TwinResults {ε α : Type} (values : α → α → Prop) : Except ε α → Except ε α → Prop where
  | error (error : ε) : TwinResults values (.error error) (.error error)
  | ok (value value' : α) (same : values value value') :
      TwinResults values (.ok value) (.ok value')

/-- Two steps come to the same up to numbers. -/
inductive Progress.Twin {π ρ : Type} (points : π → π → Prop) (results : ρ → ρ → Prop) :
    Progress π ρ → Progress π ρ → Prop where
  | blocked : Twin points results .blocked .blocked
  | moved (point point' : π) (same : points point point') :
      Twin points results (.moved point) (.moved point')
  | finished (result result' : ρ) (same : results result result') :
      Twin points results (.finished result) (.finished result')

/-- Steps with two caches come to the same, and leave the caches the same to an ecosystem. -/
def TwinSteps {π ρ : Type} (ecosystem : Ecosystem) (pairing : Pairing)
    (points : Pairing → π → π → Prop) (results : Pairing → ρ → ρ → Prop)
    (stepped stepped' : Stepped Cache π ρ) : Prop :=
  ∃ pairing', pairing.Grows pairing' ∧ stepped.1.Twin ecosystem pairing' stepped'.1 ∧
    stepped.2.Twin (points pairing') (results pairing') stepped'.2

theorem TwinSteps.grow {π ρ : Type} {points : Pairing → π → π → Prop}
    {results : Pairing → ρ → ρ → Prop} {stepped stepped' : Stepped Cache π ρ}
    (hgrows : pairing.Grows pairing')
    (h : TwinSteps ecosystem pairing' points results stepped stepped') :
    TwinSteps ecosystem pairing points results stepped stepped' := by
  obtain ⟨pairing'', hgrows', htwin, hsame⟩ := h
  exact ⟨pairing'', hgrows.trans hgrows', htwin, hsame⟩

namespace Hold.Twin

variable {hold hold' : Hold}

theorem grow (h : hold.Twin ecosystem pairing hold') (hgrows : pairing.Grows pairing') :
    hold.Twin ecosystem pairing' hold' :=
  ⟨h.key, h.own, h.server, h.ticket, hgrows.slot _ _ h.slot⟩

end Hold.Twin

/-- Two who come to a slot for an ecosystem come there side by side. -/
theorem EntryPoint.twin_step {entry entry' : EntryPoint} (files : Option Tree)
    (h : cache.Twin ecosystem pairing cache') (hentry : entry.Twin ecosystem pairing entry') :
    TwinSteps ecosystem pairing (EntryPoint.Twin ecosystem)
      (fun pairing => TwinResults (Hold.Twin ecosystem pairing)) (entry.step files cache)
      (entry'.step files cache') := by
  cases hentry with
  | starting workspace =>
    simp only [step, h.servers]
    split
    · exact ⟨pairing, .refl pairing, h, .finished _ _ (.error _)⟩
    · exact ⟨pairing, .refl pairing, h, .moved _ _ (.finding _ _)⟩
  | finding server workspace =>
    simp only [step]
    split
    · exact ⟨pairing, .refl pairing, h, .blocked⟩
    next tree =>
      split
      · exact ⟨pairing, .refl pairing, h, .finished _ _ (.error _)⟩
      next root _ =>
        have hkey : (⟨ecosystem, root⟩ : CacheKey).ecosystem = ecosystem := rfl
        obtain ⟨pairing', hgrows, hslot, hfound⟩ := h.findSlot hkey
        obtain ⟨hticket, hjoined⟩ := hfound.joinSlot hslot
        exact ⟨pairing', hgrows, hjoined,
          .moved _ _ (.queued _ _ ⟨rfl, hkey, rfl, hticket, hslot⟩)⟩
  | queued hold hold' same =>
    have hturns := (h.slotAt same.slot).turns
    simp only [step, hturns, same.ticket]
    split
    · exact ⟨pairing, .refl pairing, h, .finished _ _ (.ok _ _ same)⟩
    · exact ⟨pairing, .refl pairing, h, .blocked⟩

namespace ReconnectPoint

variable {now : Instant} {hold hold' : Hold} {attempt attempt' : Attempt}

/-- Steps of getting a session come to the same. -/
abbrev TwinGoing (ecosystem : Ecosystem) (pairing : Pairing) :
    Reconnected → Reconnected → Prop :=
  TwinSteps ecosystem pairing (ReconnectPoint.Twin ecosystem)
    fun pairing => TwinResults pairing.adapter

theorem twin_giveUp (h : cache.Twin ecosystem pairing cache')
    (hhold : hold.Twin ecosystem pairing hold') (error : CacheError) :
    TwinGoing ecosystem pairing (giveUp hold error cache) (giveUp hold' error cache') := by
  refine ⟨pairing, .refl pairing, ?_, .finished _ _ (.error error)⟩
  simp only [giveUp, hhold.key]
  exact (h.unmapSlot hhold.own hhold.slot).leaveHold hhold.slot hhold.ticket

theorem twin_afterStop {stepped stepped' : Stepped Cache StopPoint Unit}
    (h : stepped.1.Twin ecosystem pairing stepped'.1) (hsame : stepped'.2 = stepped.2)
    (hhold : hold.Twin ecosystem pairing hold') (hab : pairing.adapter a b) (error : CacheError) :
    TwinGoing ecosystem pairing (afterStop hold a error stepped)
      (afterStop hold' b error stepped') := by
  obtain ⟨m, progress⟩ := stepped
  obtain ⟨m', progress'⟩ := stepped'
  obtain rfl : progress' = progress := hsame
  cases progress' with
  | blocked => exact ⟨pairing, .refl pairing, h, .blocked⟩
  | moved stop =>
    exact ⟨pairing, .refl pairing, h, .moved _ _ (.evicting _ _ hhold _ _ hab stop error)⟩
  | finished => exact twin_giveUp h hhold error

theorem twin_evict (h : cache.Twin ecosystem pairing cache')
    (hhold : hold.Twin ecosystem pairing hold') (error : CacheError) :
    TwinGoing ecosystem pairing (evict now hold error cache) (evict now hold' error cache') := by
  obtain ⟨htaken, hempty⟩ := h.emptySlot hhold.slot
  simp only [evict]
  generalize cache.emptySlot hold.slot = emptied, cache'.emptySlot hold'.slot = emptied'
    at htaken hempty
  obtain ⟨found, m⟩ := emptied
  obtain ⟨found', m'⟩ := emptied'
  cases htaken with
  | none => exact twin_giveUp hempty hhold error
  | some hab =>
    obtain ⟨hstopped, hsame⟩ := hempty.stepSession hab (StopPoint.step now .asking)
    exact twin_afterStop hstopped hsame hhold hab error

theorem twin_afterFailure (h : cache.Twin ecosystem pairing cache')
    (hattempt : attempt.Twin ecosystem pairing attempt') :
    TwinGoing ecosystem pairing (afterFailure now attempt cache)
      (afterFailure now attempt' cache') := by
  simp only [afterFailure, h.settings, hattempt.failed, hattempt.hold.key]
  split
  · exact twin_evict h hattempt.hold _
  · exact ⟨pairing, .refl pairing, h, .moved _ _ (.pausing _ _ hattempt.hold _ _)⟩

theorem twin_succeed (h : cache.Twin ecosystem pairing cache')
    (hattempt : attempt.Twin ecosystem pairing attempt') :
    TwinGoing ecosystem pairing (succeed attempt cache) (succeed attempt' cache') := by
  simp only [succeed, h.session? hattempt.adapter, hattempt.restarts]
  refine ⟨pairing, .refl pairing, ?_, .finished _ _ (.ok _ _ hattempt.adapter)⟩
  split
  · exact h.leaveHold hattempt.hold.slot hattempt.hold.ticket
  · have hforgets := h.updateAdapter hattempt.adapter fun (adapter : Adapter) _ =>
      (rfl : adapter.invalidate.ecosystem = adapter.ecosystem)
    exact hforgets.leaveHold hattempt.hold.slot hattempt.hold.ticket

theorem twin_afterCheck {stepped stepped' : Stepped Cache GuardPoint Bool}
    (h : stepped.1.Twin ecosystem pairing stepped'.1) (hsame : stepped'.2 = stepped.2)
    (hattempt : attempt.Twin ecosystem pairing attempt') :
    TwinGoing ecosystem pairing (afterCheck now attempt stepped)
      (afterCheck now attempt' stepped') := by
  obtain ⟨m, progress⟩ := stepped
  obtain ⟨m', progress'⟩ := stepped'
  obtain rfl : progress' = progress := hsame
  cases progress' with
  | blocked => exact ⟨pairing, .refl pairing, h, .blocked⟩
  | moved guardPoint =>
    exact ⟨pairing, .refl pairing, h, .moved _ _ (.checking _ _ hattempt guardPoint)⟩
  | finished alive =>
    cases alive with
    | true => exact twin_succeed h hattempt
    | false => exact twin_afterFailure h hattempt

theorem twin_afterEnsure {stepped stepped' : Stepped Cache EnsurePoint (Except SessionError Unit)}
    (h : stepped.1.Twin ecosystem pairing stepped'.1) (hsame : stepped'.2 = stepped.2)
    (hattempt : attempt.Twin ecosystem pairing attempt') :
    TwinGoing ecosystem pairing (afterEnsure now attempt stepped)
      (afterEnsure now attempt' stepped') := by
  obtain ⟨m, progress⟩ := stepped
  obtain ⟨m', progress'⟩ := stepped'
  obtain rfl : progress' = progress := hsame
  cases progress' with
  | blocked => exact ⟨pairing, .refl pairing, h, .blocked⟩
  | moved ensure =>
    exact ⟨pairing, .refl pairing, h, .moved _ _ (.trying _ _ hattempt ensure)⟩
  | finished result =>
    cases result with
    | ok =>
      obtain ⟨hlooked, hlook⟩ := h.stepSession hattempt.adapter (Session.stepAlive .asking)
      exact twin_afterCheck hlooked hlook hattempt
    | error error =>
      simp only [afterEnsure, hattempt.hold.key]
      split
      · refine ⟨pairing, .refl pairing, ?_, .finished _ _ (.error _)⟩
        exact h.leaveHold hattempt.hold.slot hattempt.hold.ticket
      · split
        · exact twin_evict h hattempt.hold _
        · exact twin_afterFailure h hattempt

theorem twin_begin (h : cache.Twin ecosystem pairing cache')
    (hhold : hold.Twin ecosystem pairing hold') (failed : Nat) :
    TwinGoing ecosystem pairing (begin now hold failed cache) (begin now hold' failed cache') := by
  obtain ⟨pairing', hgrows, hab, hfound⟩ := h.adapterIn hhold.own hhold.slot hold.server
  simp only [begin, hhold.key, hhold.server]
  generalize cache.adapterIn hold.key hold.server hold.slot = found,
    cache'.adapterIn hold.key hold.server hold'.slot = found' at hab hfound
  obtain ⟨a, m⟩ := found
  obtain ⟨b, m'⟩ := found'
  obtain ⟨hasked, hsame⟩ := hfound.stepSession hab (EnsurePoint.step now .asking)
  rw [hfound.session? hab]
  exact .grow hgrows (twin_afterEnsure hasked hsame ⟨hhold.grow hgrows, rfl, rfl, hab⟩)

/-- Two who get a session for an ecosystem go on side by side. -/
theorem twin_step {point point' : ReconnectPoint} (now : Instant) (files : Option Tree)
    (h : cache.Twin ecosystem pairing cache') (hpoint : point.Twin ecosystem pairing point') :
    TwinGoing ecosystem pairing (point.step now files cache) (point'.step now files cache') := by
  cases hpoint with
  | entering entry entry' same =>
    have hentry := EntryPoint.twin_step files h same
    simp only [step]
    generalize entry.step files cache = stepped, entry'.step files cache' = stepped' at hentry
    obtain ⟨m, progress⟩ := stepped
    obtain ⟨m', progress'⟩ := stepped'
    obtain ⟨pairing', hgrows, hentered, hsame⟩ := hentry
    cases hsame with
    | blocked => exact ⟨pairing', hgrows, hentered, .blocked⟩
    | moved entry entry' same =>
      exact ⟨pairing', hgrows, hentered, .moved _ _ (.entering _ _ same)⟩
    | finished result result' same =>
      cases same with
      | error error => exact ⟨pairing', hgrows, hentered, .finished _ _ (.error error)⟩
      | ok hold hold' same => exact .grow hgrows (twin_begin hentered same 0)
  | trying attempt attempt' same ensure =>
    obtain ⟨hgone, hsame⟩ := h.stepSession same.adapter (ensure.step now)
    exact twin_afterEnsure hgone hsame same
  | checking attempt attempt' same guardPoint =>
    obtain ⟨hlooked, hsame⟩ := h.stepSession same.adapter (Session.stepAlive guardPoint)
    exact twin_afterCheck hlooked hsame same
  | pausing hold hold' same failed resume =>
    simp only [step]
    split
    · exact twin_begin h same failed
    · exact ⟨pairing, .refl pairing, h, .blocked⟩
  | evicting hold hold' same a b paired stop error =>
    obtain ⟨hstopped, hsame⟩ := h.stepSession paired (stop.step now)
    exact twin_afterStop hstopped hsame same paired error

end ReconnectPoint

/-- Two who get an adapter for an ecosystem go on side by side. -/
theorem Cache.twin_stepAdapterFor {entry entry' : EntryPoint} (files : Option Tree)
    (h : cache.Twin ecosystem pairing cache') (hentry : entry.Twin ecosystem pairing entry') :
    TwinSteps ecosystem pairing (EntryPoint.Twin ecosystem)
      (fun pairing => TwinResults pairing.adapter) (cache.stepAdapterFor files entry)
      (cache'.stepAdapterFor files entry') := by
  have hentered := EntryPoint.twin_step files h hentry
  unfold stepAdapterFor
  generalize entry.step files cache = stepped, entry'.step files cache' = stepped' at hentered
  obtain ⟨m, progress⟩ := stepped
  obtain ⟨m', progress'⟩ := stepped'
  obtain ⟨pairing', hgrows, hentered, hsame⟩ := hentered
  cases hsame with
  | blocked => exact ⟨pairing', hgrows, hentered, .blocked⟩
  | moved entry entry' same => exact ⟨pairing', hgrows, hentered, .moved _ _ same⟩
  | finished result result' same =>
    cases same with
    | error error => exact ⟨pairing', hgrows, hentered, .finished _ _ (.error error)⟩
    | ok hold hold' same =>
      obtain ⟨pairing'', hgrows', hab, hfound⟩ :=
        hentered.adapterIn same.own same.slot hold.server
      simp only [same.key, same.server]
      refine ⟨pairing'', hgrows.trans hgrows', ?_, .finished _ _ (.ok _ _ hab)⟩
      exact hfound.leaveHold (hgrows'.slot _ _ same.slot) same.ticket

end SymbolSearch
