import SymbolSearch.Proofs.Cache.Sessions
import SymbolSearch.Proofs.Cache.Visits

/-!
# What belongs to others

An operation changes the slots that it has and the adapters with which it works. Whatever else is in
the cache it leaves alone.

* `Belongings` — some keys, slots and adapters; `Belongings.Fenced` says that nothing else in the
  cache leads to these slots and adapters.
* `Cache.Spares` — the belongings are as they were, and are fenced as they were.
* `CacheTask.spares_step` — an operation spares what it neither has nor comes to have, and
  `CacheTask.spares_cancel` — one that is given up spares what it does not have.
-/

namespace SymbolSearch

/-- What belongs to somebody. -/
structure Belongings where
  key : CacheKey → Prop
  slot : SlotId → Prop
  adapter : AdapterId → Prop

namespace Belongings

/-- A slot with its key belongs to somebody else. -/
def Lacks (own : Belongings) (claim : CacheKey × SlotId) : Prop :=
  ¬own.key claim.1 ∧ ¬own.slot claim.2

/-- No key of somebody else leads to the slots, and no slot of somebody else to the adapters. -/
structure Fenced (own : Belongings) (cache : Cache) : Prop where
  slot_lt : ∀ id, own.slot id → id < cache.slots.length
  found : ∀ key id, (key, id) ∈ cache.mapped → own.slot id → own.key key
  made : ∀ a, own.adapter a → ∃ adapter, cache.adapters[a]? = some adapter ∧ own.key adapter.key
  kept : ∀ id a, (cache.slotAt id).adapter = some a → own.adapter a → own.slot id

end Belongings

/-- What belongs to somebody is as it was, and nobody else has come to have it. -/
structure Cache.Spares (own : Belongings) (cache cache' : Cache) : Prop where
  lookup : ∀ key, own.key key → cache'.mapped.lookup key = cache.mapped.lookup key
  slot : ∀ id, own.slot id → cache'.slots[id]? = cache.slots[id]?
  adapter : ∀ a, own.adapter a → cache'.adapters[a]? = cache.adapters[a]?
  /-- No adapter was made for one of the keys. -/
  none_made : ∀ (a : AdapterId) (adapter : Adapter), cache'.adapters[a]? = some adapter →
    own.key adapter.key → ∃ before : Adapter, cache.adapters[a]? = some before ∧ own.key before.key
  fenced : own.Fenced cache → own.Fenced cache'

variable {own : Belongings} {cache middle cache' : Cache} {key : CacheKey} {id : SlotId}
  {a : AdapterId}

namespace Belongings.Fenced

/-- The adapter in a slot of somebody else is not among the belongings. -/
theorem lacks_adapter (h : own.Fenced cache) (hslot : ¬own.slot id)
    (hkept : (cache.slotAt id).adapter = some a) : ¬own.adapter a :=
  fun hown => hslot (h.kept id a hkept hown)

/-- Neither is an adapter that is not yet made. -/
theorem lacks_length (h : own.Fenced cache) : ¬own.adapter cache.adapters.length := by
  intro hown
  obtain ⟨adapter, hadapter, -⟩ := h.made _ hown
  have hlt := (List.getElem?_eq_some_iff.mp hadapter).1
  exact Nat.lt_irrefl _ hlt

/-- A slot to which the key of somebody else leads belongs to somebody else. -/
theorem lacks_of_mem (h : own.Fenced cache) {claim : CacheKey × SlotId}
    (hmem : claim ∈ cache.mapped) (hkey : ¬own.key claim.1) : own.Lacks claim :=
  ⟨hkey, fun hslot => hkey (h.found claim.1 claim.2 hmem hslot)⟩

end Belongings.Fenced

/-- Whatever leads from another key stays. -/
theorem Cache.lookup_filter_ne {other : CacheKey} (hne : other ≠ key)
    (entries : List (CacheKey × SlotId)) :
    (entries.filter fun entry => decide (entry.1 ≠ key)).lookup other = entries.lookup other := by
  induction entries with
  | nil => rfl
  | cons entry entries ih =>
    by_cases hentry : entry.1 = key
    · have hother : (other == entry.1) = false := beq_eq_false_iff_ne.mpr (hentry ▸ hne)
      rw [List.filter_cons_of_neg (by simpa using hentry), ih, List.lookup_cons, hother]
    · rw [List.filter_cons_of_pos (by simpa using hentry), List.lookup_cons, List.lookup_cons, ih]

/-! ### What is done with slots and adapters -/

namespace Cache.Spares

theorem refl (cache : Cache) : cache.Spares own cache :=
  ⟨fun _ _ => rfl, fun _ _ => rfl, fun _ _ => rfl, fun _ adapter h hkey => ⟨adapter, h, hkey⟩, id⟩

theorem trans (h : cache.Spares own middle) (h' : middle.Spares own cache') :
    cache.Spares own cache' where
  lookup := fun key hkey => (h'.lookup key hkey).trans (h.lookup key hkey)
  slot := fun id hid => (h'.slot id hid).trans (h.slot id hid)
  adapter := fun a ha => (h'.adapter a ha).trans (h.adapter a ha)
  none_made := by
    intro a adapter hadapter hkey
    obtain ⟨between, hbetween, hkey'⟩ := h'.none_made a adapter hadapter hkey
    exact h.none_made a between hbetween hkey'
  fenced := fun hfenced => h'.fenced (h.fenced hfenced)

/-- Nothing but slots has changed, or what leads to them. -/
theorem made_of_adapters (hadapters : cache'.adapters = cache.adapters) (a : AdapterId)
    (adapter : Adapter) (hadapter : cache'.adapters[a]? = some adapter)
    (hkey : own.key adapter.key) :
    ∃ before, cache.adapters[a]? = some before ∧ own.key before.key :=
  ⟨adapter, hadapters ▸ hadapter, hkey⟩

/-- An adapter of somebody else changes, but not its key. -/
theorem updateAdapter {change : Adapter → Adapter} (ha : ¬own.adapter a)
    (hkey : ∀ adapter, cache.adapters[a]? = some adapter → (change adapter).key = adapter.key) :
    cache.Spares own (cache.updateAdapter a change) := by
  have hsame (b : AdapterId) (hb : own.adapter b) :
      (cache.updateAdapter a change).adapters[b]? = cache.adapters[b]? := by
    refine List.getElem?_modify_ne _ _ ?_
    rintro rfl
    exact ha hb
  refine ⟨fun _ _ => rfl, fun _ _ => rfl, hsame, fun b adapter hadapter hown => ?_, fun h =>
    ⟨h.slot_lt, h.found, fun b hb => ?_, h.kept⟩⟩
  · by_cases hab : a = b
    · subst hab
      rw [Cache.updateAdapter, List.getElem?_modify_eq] at hadapter
      obtain ⟨before, hbefore, rfl⟩ := Option.map_eq_some_iff.mp hadapter
      rw [hkey before hbefore] at hown
      exact ⟨before, hbefore, hown⟩
    · rw [Cache.updateAdapter, List.getElem?_modify_ne _ _ hab] at hadapter
      exact ⟨adapter, hadapter, hown⟩
  · rw [hsame b hb]
    exact h.made b hb

theorem stepSession {π ρ : Type} (step : Session → Stepped Session π ρ) (ha : ¬own.adapter a) :
    cache.Spares own (cache.stepSession a step).1 := by
  rcases cache.stepSession_cases a step with h | ⟨adapter, hadapter, h⟩
  · rw [h]
    exact refl cache
  · rw [h]
    refine updateAdapter ha fun found hfound => ?_
    obtain rfl : adapter = found := Option.some.inj (hadapter.symm.trans hfound)
    rfl

/-- The slot of somebody else gets an adapter of somebody else, or none. -/
theorem updateSlot {change : Slot → Slot} (hid : ¬own.slot id)
    (hchange : ∀ slot b, (change slot).adapter = some b → slot.adapter = some b ∨ ¬own.adapter b) :
    cache.Spares own (cache.updateSlot id change) := by
  refine ⟨fun _ _ => rfl, fun other hother => ?_, fun _ _ => rfl, made_of_adapters rfl, fun h =>
    ⟨?_, h.found, h.made, ?_⟩⟩
  · refine List.getElem?_modify_ne _ _ ?_
    rintro rfl
    exact hid hother
  · intro other hother
    exact (List.length_modify ..).symm ▸ h.slot_lt other hother
  · intro other b hb hown
    by_cases hne : id = other
    · subst hne
      refine h.kept id b ?_ hown
      cases hslot : cache.slots[id]? with
      | none => simp [Cache.slotAt, Cache.updateSlot, hslot] at hb
      | some slot =>
        have hnew : (change slot).adapter = some b := by
          simpa [Cache.slotAt, Cache.updateSlot, hslot] using hb
        rw [Cache.slotAt, hslot]
        exact (hchange slot b hnew).resolve_right fun hnot => hnot hown
    · rw [Cache.slotAt_updateSlot_of_ne hne] at hb
      exact h.kept other b hb hown

theorem joinSlot (hid : ¬own.slot id) : cache.Spares own (cache.joinSlot id).2 :=
  updateSlot hid fun _ _ => .inl

theorem leaveSlot (ticket : Ticket) (hid : ¬own.slot id) :
    cache.Spares own (cache.leaveSlot id ticket) :=
  updateSlot hid fun _ _ => .inl

theorem dropSlot (hid : ¬own.slot id) : cache.Spares own (cache.dropSlot id) :=
  updateSlot hid fun _ _ => .inl

theorem leaveHold {hold : Hold} (hid : ¬own.slot hold.slot) :
    cache.Spares own (cache.leaveHold hold) :=
  (leaveSlot hold.ticket hid).trans (dropSlot hid)

theorem emptySlot (hid : ¬own.slot id) : cache.Spares own (cache.emptySlot id).2 :=
  updateSlot hid fun _ _ h => by cases h

/-- A key of somebody else leads nowhere any more. -/
theorem unmapSlot (hkey : ¬own.key key) : cache.Spares own (cache.unmapSlot key id) := by
  unfold Cache.unmapSlot
  dsimp only
  split
  · have hsub : (cache.mapped.filter fun entry => decide (entry.1 ≠ key)).Sublist cache.mapped :=
      List.filter_sublist
    refine ⟨fun other hother => ?_, fun _ _ => rfl, fun _ _ => rfl, made_of_adapters rfl, fun h =>
      ⟨h.slot_lt, fun other id hmem => h.found other id (hsub.subset hmem), h.made, h.kept⟩⟩
    have hne : other ≠ key := by
      rintro rfl
      exact hkey hother
    exact Cache.lookup_filter_ne hne cache.mapped
  · exact refl cache

/-- A new adapter belongs to nobody yet. -/
theorem adapterIn (hfenced : own.Fenced cache) (hkey : ¬own.key key) (server : ServerConfig)
    (hid : ¬own.slot id) : cache.Spares own (cache.adapterIn key server id).2 := by
  unfold Cache.adapterIn
  dsimp only
  split
  · exact refl cache
  · generalize hmade : Adapter.ofServer key.ecosystem key.root server cache.settings.session
      cache.settings.adapter = made
    have hnew : made.key = key := by rw [← hmade]; rfl
    have hlonger : cache.Spares own { cache with adapters := cache.adapters ++ [made] } := by
      refine ⟨fun _ _ => rfl, fun _ _ => rfl, fun a ha => ?_, fun a adapter hadapter hown => ?_,
        fun h => ⟨h.slot_lt, h.found, fun a ha => ?_, h.kept⟩⟩
      · obtain ⟨adapter, hadapter, -⟩ := hfenced.made a ha
        exact List.getElem?_append_left (List.getElem?_eq_some_iff.mp hadapter).1
      · rcases Nat.lt_trichotomy a cache.adapters.length with hlt | rfl | hgt
        · exact ⟨adapter, (List.getElem?_append_left hlt).symm.trans hadapter, hown⟩
        · obtain rfl : made = adapter :=
            Option.some.inj (List.getElem?_concat_length.symm.trans hadapter)
          exact absurd (hnew ▸ hown) hkey
        · have hlt : a < (cache.adapters ++ [made]).length :=
            (List.getElem?_eq_some_iff.mp hadapter).1
          rw [List.length_append, List.length_singleton] at hlt
          exact absurd (Nat.lt_succ_iff.mp hlt) (Nat.not_le_of_lt hgt)
      · obtain ⟨adapter, hadapter, hkey⟩ := h.made a ha
        refine ⟨adapter, ?_, hkey⟩
        exact (List.getElem?_append_left (List.getElem?_eq_some_iff.mp hadapter).1).trans hadapter
    refine hlonger.trans (updateSlot hid fun _ b hb => .inr ?_)
    obtain rfl := Option.some.inj hb
    exact hfenced.lacks_length

/-- The adapter that is found in a slot of somebody else belongs to somebody else. -/
theorem lacks_adapterIn (hfenced : own.Fenced cache) (server : ServerConfig) (hid : ¬own.slot id) :
    ¬own.adapter (cache.adapterIn key server id).1 := by
  cases hslot : (cache.slotAt id).adapter with
  | some found =>
    simp only [Cache.adapterIn, hslot]
    exact hfenced.lacks_adapter hid hslot
  | none =>
    simp only [Cache.adapterIn, hslot]
    exact hfenced.lacks_length

/-- Somebody else comes to have a slot, which may be new. -/
theorem findSlot (hfenced : own.Fenced cache) (hkey : ¬own.key key) :
    ¬own.slot (cache.findSlot key).1 ∧ cache.Spares own (cache.findSlot key).2 := by
  cases hlookup : cache.mapped.lookup key with
  | some id =>
    have hlacks := hfenced.lacks_of_mem (Cache.mem_mapped_of_lookup hlookup) hkey
    simp only [Cache.findSlot, hlookup]
    exact ⟨hlacks.2, updateSlot hlacks.2 fun _ _ => .inl⟩
  | none =>
    have hnew : ¬own.slot cache.slots.length :=
      fun hown => Nat.lt_irrefl _ (hfenced.slot_lt _ hown)
    simp only [Cache.findSlot, hlookup]
    refine ⟨hnew, fun other hother => ?_, fun id hid => ?_, fun _ _ => rfl, made_of_adapters rfl,
      fun h => ⟨?_, ?_, h.made, ?_⟩⟩
    · have hne : other ≠ key := by
        rintro rfl
        exact hkey hother
      simp [List.lookup_append, List.lookup_cons, List.lookup_nil, beq_eq_false_iff_ne.mpr hne]
    · exact List.getElem?_append_left (hfenced.slot_lt id hid)
    · intro id hid
      rw [List.length_append]
      exact Nat.lt_of_lt_of_le (h.slot_lt id hid) (Nat.le_add_right _ _)
    · intro other id hmem hid
      rcases List.mem_append.mp hmem with hold | hlast
      · exact h.found other id hold hid
      · obtain ⟨-, rfl⟩ := Prod.mk.inj (List.mem_singleton.mp hlast)
        exact absurd hid hnew
    · intro id b hb hown
      refine h.kept id b ?_ hown
      by_cases hlt : id < cache.slots.length
      · simpa [Cache.slotAt, List.getElem?_append_left hlt] using hb
      · exfalso
        rw [Cache.slotAt, List.getElem?_append_right (Nat.le_of_not_lt hlt)] at hb
        cases hsub : id - cache.slots.length with
        | zero => simp [hsub] at hb
        | succ n => simp [hsub] at hb

end Cache.Spares

/-! ### Steps of operations -/

/-- Somebody else stands here: the slots that he has, and the adapter with which he works, are not
    among the belongings. -/
structure Stance.Avoids (own : Belongings) (stance : Stance) : Prop where
  claims : ∀ claim ∈ stance.claims, own.Lacks claim
  adapter : ∀ seat rest a, stance = .inside seat rest (.keeps a) ∨
    stance = .inside seat rest (.closes a) → ¬own.adapter a

theorem Stance.Avoids.seat {stance : Stance} {seat : Seat} (h : stance.Avoids own)
    (hseat : stance.seat? = some seat) : own.Lacks seat.claim := by
  cases stance with
  | has => cases hseat
  | queued found rest | inside found rest work =>
    obtain rfl := Option.some.inj hseat
    exact h.claims _ List.mem_cons_self

variable {now : Instant} {files : Option Tree} {hold : Hold}

namespace EntryPoint

theorem spares_step (entry : EntryPoint) (hfenced : own.Fenced cache)
    (hafter : ∀ claim ∈ (stanceAfter (entry.step files cache).2).claims, ¬own.key claim.1) :
    cache.Spares own (entry.step files cache).1 := by
  cases entry with
  | starting ecosystem workspace =>
    simp only [step]
    split
    · exact .refl cache
    · exact .refl cache
  | finding ecosystem server workspace =>
    simp only [step] at hafter ⊢
    split at hafter
    next => exact .refl cache
    next tree =>
      split at hafter
      next => exact .refl cache
      next root _ =>
        have hkey : ¬own.key ⟨ecosystem, root⟩ := hafter _ List.mem_cons_self
        obtain ⟨hnot, hfound⟩ := Cache.Spares.findSlot hfenced hkey
        exact hfound.trans (.joinSlot hnot)
  | queued hold =>
    simp only [step]
    split
    · exact .refl cache
    · exact .refl cache

end EntryPoint

namespace ReconnectPoint

theorem spares_giveUp (hhold : own.Lacks hold.seat.claim) (error : CacheError) (cache : Cache) :
    cache.Spares own (giveUp hold error cache).1 :=
  (Cache.Spares.unmapSlot hhold.1).trans (.leaveHold hhold.2)

theorem spares_afterStop (hhold : own.Lacks hold.seat.claim) (id : AdapterId) (error : CacheError)
    (stepped : Stepped Cache StopPoint Unit) :
    stepped.1.Spares own (afterStop hold id error stepped).1 := by
  obtain ⟨m, progress⟩ := stepped
  cases progress with
  | blocked | moved => exact .refl m
  | finished => exact spares_giveUp hhold error m

theorem spares_evict (hfenced : own.Fenced cache) (hhold : own.Lacks hold.seat.claim)
    (error : CacheError) : cache.Spares own (evict now hold error cache).1 := by
  have hempty : cache.Spares own (cache.emptySlot hold.slot).2 := .emptySlot hhold.2
  unfold evict
  split
  next hslot =>
    rw [hslot] at hempty
    exact hempty.trans (spares_giveUp hhold error _)
  next id m hslot =>
    rw [hslot] at hempty
    have hkept : (cache.slotAt hold.slot).adapter = some id := congrArg Prod.fst hslot
    have hid := hfenced.lacks_adapter hhold.2 hkept
    exact (hempty.trans (.stepSession _ hid)).trans (spares_afterStop hhold id error _)

theorem spares_afterFailure {attempt : Attempt} (hfenced : own.Fenced cache)
    (hhold : own.Lacks attempt.hold.seat.claim) :
    cache.Spares own (afterFailure now attempt cache).1 := by
  simp only [afterFailure]
  split
  · exact spares_evict hfenced hhold _
  · exact .refl cache

theorem spares_succeed {attempt : Attempt} (hhold : own.Lacks attempt.hold.seat.claim)
    (hid : ¬own.adapter attempt.adapter) (cache : Cache) :
    cache.Spares own (succeed attempt cache).1 := by
  simp only [succeed]
  split
  · exact .leaveHold hhold.2
  · have hforgets : cache.Spares own (cache.updateAdapter attempt.adapter Adapter.invalidate) :=
      .updateAdapter hid fun _ _ => rfl
    exact hforgets.trans (.leaveHold hhold.2)

theorem spares_afterCheck {attempt : Attempt} (hhold : own.Lacks attempt.hold.seat.claim)
    (hid : ¬own.adapter attempt.adapter) (stepped : Stepped Cache GuardPoint Bool)
    (hfenced : own.Fenced stepped.1) :
    stepped.1.Spares own (afterCheck now attempt stepped).1 := by
  obtain ⟨m, progress⟩ := stepped
  cases progress with
  | blocked | moved => exact .refl m
  | finished alive =>
    cases alive with
    | true => exact spares_succeed hhold hid m
    | false => exact spares_afterFailure hfenced hhold

theorem spares_afterEnsure {attempt : Attempt} (hhold : own.Lacks attempt.hold.seat.claim)
    (hid : ¬own.adapter attempt.adapter)
    (stepped : Stepped Cache EnsurePoint (Except SessionError Unit))
    (hfenced : own.Fenced stepped.1) :
    stepped.1.Spares own (afterEnsure now attempt stepped).1 := by
  obtain ⟨m, progress⟩ := stepped
  cases progress with
  | blocked | moved => exact .refl m
  | finished result =>
    cases result with
    | ok =>
      have hlooks : m.Spares own (m.stepSession attempt.adapter (Session.stepAlive .asking)).1 :=
        .stepSession _ hid
      exact hlooks.trans (spares_afterCheck hhold hid _ (hlooks.fenced hfenced))
    | error error =>
      simp only [afterEnsure]
      split
      · exact .leaveHold hhold.2
      · split
        · exact spares_evict hfenced hhold _
        · exact spares_afterFailure hfenced hhold

theorem spares_begin (failed : Nat) (hfenced : own.Fenced cache)
    (hhold : own.Lacks hold.seat.claim) :
    cache.Spares own (begin now hold failed cache).1 := by
  have hfinds : cache.Spares own (cache.adapterIn hold.key hold.server hold.slot).2 :=
    .adapterIn hfenced hhold.1 hold.server hhold.2
  have hid : ¬own.adapter (cache.adapterIn hold.key hold.server hold.slot).1 :=
    Cache.Spares.lacks_adapterIn hfenced hold.server hhold.2
  simp only [begin]
  generalize cache.adapterIn hold.key hold.server hold.slot = found at hfinds hid
  obtain ⟨id, m⟩ := found
  have hasks := hfinds.trans (Cache.Spares.stepSession (EnsurePoint.step now .asking) hid)
  refine hasks.trans (spares_afterEnsure ?_ ?_ _ (hasks.fenced hfenced))
  · exact hhold
  · exact hid

theorem spares_step (point : ReconnectPoint) (hfenced : own.Fenced cache)
    (hbefore : point.stance.Avoids own)
    (hafter : ∀ claim ∈ ((point.step now files cache).2.stance stance).claims, ¬own.key claim.1) :
    cache.Spares own (point.step now files cache).1 := by
  cases point with
  | entering entry =>
    have hentry (h : ∀ claim ∈ (EntryPoint.stanceAfter (entry.step files cache).2).claims,
        ¬own.key claim.1) : cache.Spares own (entry.step files cache).1 :=
      entry.spares_step hfenced h
    have hfinds {hold : Hold} {m : Cache} (h : entry.step files cache = (m, .finished (.ok hold))) :
        own.Lacks hold.seat.claim := by
      obtain ⟨-, hqueued⟩ := entry.finished_cases h
      refine hbefore.seat ?_
      rw [hqueued hold rfl]
      rfl
    simp only [step] at hafter ⊢
    generalize entry.step files cache = stepped at hentry hfinds hafter ⊢
    obtain ⟨m, progress⟩ := stepped
    cases progress with
    | blocked => exact hentry (by rintro _ ⟨⟩)
    | moved entry' => exact hentry hafter
    | finished result =>
      cases result with
      | error error => exact hentry (by rintro _ ⟨⟩)
      | ok hold =>
        have hhold := hfinds rfl
        have hentered : cache.Spares own m := by
          refine hentry fun claim hclaim => ?_
          obtain rfl := List.mem_singleton.mp hclaim
          exact hhold.1
        exact hentered.trans (spares_begin 0 (hentered.fenced hfenced) hhold)
  | trying attempt ensure =>
    have hhold : own.Lacks attempt.hold.seat.claim := hbefore.seat rfl
    have hid : ¬own.adapter attempt.adapter := hbefore.adapter _ _ _ (.inl rfl)
    have hgoes : cache.Spares own (cache.stepSession attempt.adapter (ensure.step now)).1 :=
      .stepSession _ hid
    exact hgoes.trans (spares_afterEnsure hhold hid _ (hgoes.fenced hfenced))
  | checking attempt guardPoint =>
    have hhold : own.Lacks attempt.hold.seat.claim := hbefore.seat rfl
    have hid : ¬own.adapter attempt.adapter := hbefore.adapter _ _ _ (.inl rfl)
    have hlooks : cache.Spares own
        (cache.stepSession attempt.adapter (Session.stepAlive guardPoint)).1 := .stepSession _ hid
    exact hlooks.trans (spares_afterCheck hhold hid _ (hlooks.fenced hfenced))
  | pausing hold failed resume =>
    simp only [step]
    split
    · exact spares_begin failed hfenced (hbefore.seat rfl)
    · exact .refl cache
  | evicting hold id stop error =>
    have hhold : own.Lacks hold.seat.claim := hbefore.seat rfl
    have hid : ¬own.adapter id := hbefore.adapter _ _ _ (.inr rfl)
    exact (Cache.Spares.stepSession (stop.step now) hid).trans (spares_afterStop hhold id error _)

end ReconnectPoint

theorem Cache.Spares.stepAdapterFor (entry : EntryPoint) (hfenced : own.Fenced cache)
    (hbefore : entry.stance.Avoids own)
    (hafter : ∀ claim ∈ ((cache.stepAdapterFor files entry).2.stance EntryPoint.stance).claims,
      ¬own.key claim.1) : cache.Spares own (cache.stepAdapterFor files entry).1 := by
  have hentry (h : ∀ claim ∈ (EntryPoint.stanceAfter (entry.step files cache).2).claims,
      ¬own.key claim.1) : cache.Spares own (entry.step files cache).1 :=
    entry.spares_step hfenced h
  have hfinds {hold : Hold} {m : Cache} (h : entry.step files cache = (m, .finished (.ok hold))) :
      own.Lacks hold.seat.claim := by
    obtain ⟨-, hqueued⟩ := entry.finished_cases h
    refine hbefore.seat ?_
    rw [hqueued hold rfl]
    rfl
  unfold Cache.stepAdapterFor at hafter ⊢
  generalize entry.step files cache = stepped at hentry hfinds hafter ⊢
  obtain ⟨m, progress⟩ := stepped
  cases progress with
  | blocked => exact hentry (by rintro _ ⟨⟩)
  | moved entry' => exact hentry hafter
  | finished result =>
    cases result with
    | error error => exact hentry (by rintro _ ⟨⟩)
    | ok hold =>
      have hhold := hfinds rfl
      have hentered : cache.Spares own m := by
        refine hentry fun claim hclaim => ?_
        obtain rfl := List.mem_singleton.mp hclaim
        exact hhold.1
      have hmade : m.Spares own (m.adapterIn hold.key hold.server hold.slot).2 :=
        .adapterIn (hentered.fenced hfenced) hhold.1 hold.server hhold.2
      exact (hentered.trans hmade).trans (.leaveHold hhold.2)

namespace RevivePoint

theorem spares_afterReset (hhold : own.Lacks hold.seat.claim) (id : AdapterId)
    (stepped : Stepped Cache GuardPoint Bool) :
    stepped.1.Spares own (afterReset hold id stepped).1 := by
  obtain ⟨m, progress⟩ := stepped
  cases progress with
  | blocked | moved => exact .refl m
  | finished => exact .leaveHold hhold.2

theorem spares_step (point : RevivePoint) (hfenced : own.Fenced cache)
    (hbefore : point.stance.Avoids own)
    (hafter : ∀ claim ∈ ((point.step files cache).2.stance stance).claims, ¬own.key claim.1) :
    cache.Spares own (point.step files cache).1 := by
  cases point with
  | entering entry =>
    have hentry (h : ∀ claim ∈ (EntryPoint.stanceAfter (entry.step files cache).2).claims,
        ¬own.key claim.1) : cache.Spares own (entry.step files cache).1 :=
      entry.spares_step hfenced h
    have hfinds {hold : Hold} {m : Cache} (h : entry.step files cache = (m, .finished (.ok hold))) :
        m = cache ∧ own.Lacks hold.seat.claim := by
      obtain ⟨hsame, hqueued⟩ := entry.finished_cases h
      refine ⟨hsame, hbefore.seat ?_⟩
      rw [hqueued hold rfl]
      rfl
    simp only [step] at hafter ⊢
    generalize entry.step files cache = stepped at hentry hfinds hafter ⊢
    obtain ⟨m, progress⟩ := stepped
    cases progress with
    | blocked => exact hentry (by rintro _ ⟨⟩)
    | moved entry' => exact hentry hafter
    | finished result =>
      cases result with
      | error error => exact hentry (by rintro _ ⟨⟩)
      | ok hold =>
        obtain ⟨rfl, hhold⟩ := hfinds rfl
        dsimp only
        split
        · exact .leaveHold hhold.2
        next id hkept =>
          have hid := hfenced.lacks_adapter hhold.2 hkept
          have hforgets : m.Spares own (m.updateAdapter id Adapter.invalidate) :=
            .updateAdapter hid fun _ _ => rfl
          exact (hforgets.trans (.stepSession _ hid)).trans (spares_afterReset hhold id _)
  | resetting hold id guardPoint =>
    have hid : ¬own.adapter id := hbefore.adapter _ _ _ (.inl rfl)
    exact (Cache.Spares.stepSession _ hid).trans (spares_afterReset (hbefore.seat rfl) id _)

end RevivePoint

namespace DisconnectPoint

variable {rest chosen : List (CacheKey × SlotId)} {closed : Nat} {ticket : Ticket}

theorem spares_gather (hchosen : ∀ claim ∈ chosen, own.Lacks claim) :
    cache.Spares own (gather cache chosen).1 := by
  show cache.Spares own (chosen.foldl (fun cache claim => cache.takeSlot claim.2) cache)
  induction chosen generalizing cache with
  | nil => exact .refl cache
  | cons claim chosen ih =>
    have htakes : cache.Spares own (cache.takeSlot claim.2) :=
      .updateSlot (hchosen claim List.mem_cons_self).2 fun _ _ => .inl
    exact htakes.trans (ih fun other hother => hchosen other (List.mem_cons_of_mem _ hother))

theorem spares_release (hclaim : own.Lacks (key, id)) (ticket : Ticket)
    (rest : List (CacheKey × SlotId)) (closed : Nat) (cache : Cache) :
    cache.Spares own (release key id ticket rest closed cache).1 :=
  ((Cache.Spares.unmapSlot hclaim.1).trans (.leaveSlot ticket hclaim.2)).trans (.dropSlot hclaim.2)

theorem spares_afterStop (hclaim : own.Lacks (key, id)) (a : AdapterId)
    (stepped : Stepped Cache StopPoint Unit) :
    stepped.1.Spares own (afterStop key id ticket rest closed a stepped).1 := by
  obtain ⟨m, progress⟩ := stepped
  cases progress with
  | blocked | moved => exact .refl m
  | finished => exact spares_release hclaim ticket rest (closed + 1) m

theorem spares_step (point : DisconnectPoint) (hfenced : own.Fenced cache)
    (hbefore : point.stance.Avoids own)
    (hafter : ∀ claim ∈ ((point.step now files cache).2.stance stance).claims, ¬own.key claim.1) :
    cache.Spares own (point.step now files cache).1 := by
  cases point with
  | starting =>
    exact spares_gather fun claim hmem => hfenced.lacks_of_mem hmem (hafter claim hmem)
  | finding workspace =>
    simp only [step] at hafter ⊢
    split at hafter
    next => exact .refl cache
    next tree =>
      refine spares_gather fun claim hmem => ?_
      exact hfenced.lacks_of_mem (List.mem_filter.mp hmem).1 (hafter claim hmem)
  | working rest closed =>
    cases rest with
    | nil => exact .refl cache
    | cons claim rest => exact .joinSlot (hbefore.claims claim List.mem_cons_self).2
  | queued key id ticket rest closed =>
    have hclaim : own.Lacks (key, id) := hbefore.claims _ List.mem_cons_self
    have hempty : cache.Spares own (cache.emptySlot id).2 := .emptySlot hclaim.2
    simp only [step]
    split
    · split
      next m hslot =>
        rw [hslot] at hempty
        exact hempty.trans (spares_release hclaim ticket rest closed m)
      next a m hslot =>
        rw [hslot] at hempty
        have hkept : (cache.slotAt id).adapter = some a := congrArg Prod.fst hslot
        have ha := hfenced.lacks_adapter hclaim.2 hkept
        exact (hempty.trans (.stepSession _ ha)).trans (spares_afterStop hclaim a _)
    · exact .refl cache
  | stopping key id ticket rest closed a stop =>
    have hclaim : own.Lacks (key, id) := hbefore.claims _ List.mem_cons_self
    have ha : ¬own.adapter a := hbefore.adapter _ _ _ (.inr rfl)
    exact (Cache.Spares.stepSession (stop.step now) ha).trans (spares_afterStop hclaim a _)

end DisconnectPoint

/-- A question to an adapter spares every other adapter, and all slots. -/
theorem Cache.Spares.stepAdapter {π ρ : Type} {step : Adapter → Stepped Adapter π ρ}
    (ha : ¬own.adapter a) (hkey : ∀ adapter, (step adapter).1.key = adapter.key) :
    cache.Spares own (cache.stepAdapter a step).1 := by
  unfold Cache.stepAdapter
  split
  · exact .refl cache
  next adapter hadapter =>
    refine .updateAdapter ha fun found hfound => ?_
    obtain rfl : adapter = found := Option.some.inj (hadapter.symm.trans hfound)
    exact hkey adapter

/-- An operation spares whatever it neither has nor comes to have. -/
theorem CacheTask.spares_step (task : CacheTask) (hfenced : own.Fenced cache)
    (hbefore : task.stance.Avoids own)
    (hafter : ∀ claim ∈ ((task.step now files cache).2.stance CacheTask.stance).claims,
      ¬own.key claim.1)
    (hasks : ∀ a point, task = .ask a point → ¬own.adapter a) :
    cache.Spares own (task.step now files cache).1 := by
  cases task with
  | find entry =>
    refine Cache.Spares.stepAdapterFor entry hfenced hbefore fun claim hclaim => hafter claim ?_
    rw [step, Stepped.map, stance_map]
    exact hclaim
  | findFor workspace file =>
    simp only [step]
    split
    · exact .refl cache
    · exact .refl cache
  | ensure point =>
    refine point.spares_step hfenced hbefore fun claim hclaim => hafter claim ?_
    rw [step, Stepped.map, stance_map]
    exact hclaim
  | revive point =>
    refine point.spares_step hfenced hbefore fun claim hclaim => hafter claim ?_
    rw [step, Stepped.map, stance_map]
    exact hclaim
  | disconnect point =>
    refine point.spares_step hfenced hbefore fun claim hclaim => hafter claim ?_
    rw [step, Stepped.map, stance_map]
    exact hclaim
  | ask a point =>
    show cache.Spares own (cache.stepAdapter a (point.step now files)).1
    refine .stepAdapter (hasks a point rfl) fun adapter => ?_
    exact (point.calm_step files adapter).key

/-! ### Operations that are given up -/

theorem DisconnectPoint.spares_dropAll {rest : List (CacheKey × SlotId)}
    (hrest : ∀ claim ∈ rest, own.Lacks claim) (cache : Cache) :
    cache.Spares own (dropAll rest cache) := by
  unfold dropAll
  induction rest generalizing cache with
  | nil => exact .refl cache
  | cons claim rest ih =>
    have hdrops : cache.Spares own (cache.dropSlot claim.2) :=
      .dropSlot (hrest claim List.mem_cons_self).2
    exact hdrops.trans (ih (fun other hother => hrest other (List.mem_cons_of_mem _ hother)) _)

/-- An operation that is given up spares whatever it does not have. -/
theorem CacheTask.spares_cancel (task : CacheTask) (cache : Cache)
    (hbefore : task.stance.Avoids own) (hasks : ∀ a point, task = .ask a point → ¬own.adapter a) :
    cache.Spares own (task.cancel cache) := by
  have hentry (entry : EntryPoint) (hclaims : ∀ claim ∈ entry.stance.claims, own.Lacks claim) :
      cache.Spares own (entry.cancel cache) := by
    cases entry with
    | starting | finding => exact .refl cache
    | queued hold => exact .leaveHold (hclaims _ List.mem_cons_self).2
  have hworks {hold : Hold} {a : AdapterId} (change : Session → Session)
      (hhold : own.Lacks hold.seat.claim) (ha : ¬own.adapter a) :
      cache.Spares own ((cache.updateSession a change).leaveHold hold) := by
    have hchanged : cache.Spares own (cache.updateSession a change) :=
      .updateAdapter ha fun _ _ => rfl
    exact hchanged.trans (.leaveHold hhold.2)
  cases task with
  | find entry => exact hentry entry hbefore.claims
  | findFor workspace file => exact .refl cache
  | ensure point =>
    cases point with
    | entering entry => exact hentry entry hbefore.claims
    | trying attempt ensure | checking attempt guardPoint =>
      exact hworks _ (hbefore.claims _ List.mem_cons_self) (hbefore.adapter _ _ _ (.inl rfl))
    | pausing hold failed resume => exact .leaveHold (hbefore.claims _ List.mem_cons_self).2
    | evicting hold a stop error =>
      exact hworks _ (hbefore.claims _ List.mem_cons_self) (hbefore.adapter _ _ _ (.inr rfl))
  | revive point =>
    cases point with
    | entering entry => exact hentry entry hbefore.claims
    | resetting hold a guardPoint =>
      exact hworks _ (hbefore.claims _ List.mem_cons_self) (hbefore.adapter _ _ _ (.inl rfl))
  | disconnect point =>
    have hdropped {claim : CacheKey × SlotId} {rest : List (CacheKey × SlotId)} (ticket : Ticket)
        (hclaims : ∀ other ∈ claim :: rest, own.Lacks other) (middle : Cache) :
        middle.Spares own (DisconnectPoint.dropAll rest
          ((middle.leaveSlot claim.2 ticket).dropSlot claim.2)) := by
      have hclaim : ¬own.slot claim.2 := (hclaims claim List.mem_cons_self).2
      refine ((Cache.Spares.leaveSlot ticket hclaim).trans (.dropSlot hclaim)).trans ?_
      exact DisconnectPoint.spares_dropAll
        (fun other hother => hclaims other (List.mem_cons_of_mem _ hother)) _
    cases point with
    | starting | finding => exact .refl cache
    | working rest closed => exact DisconnectPoint.spares_dropAll hbefore.claims cache
    | queued key id ticket rest closed => exact hdropped ticket hbefore.claims cache
    | stopping key id ticket rest closed a stop =>
      have ha : ¬own.adapter a := hbefore.adapter _ _ _ (.inr rfl)
      have hchanged : cache.Spares own (cache.updateSession a stop.cancel) :=
        .updateAdapter ha fun _ _ => rfl
      exact hchanged.trans (hdropped ticket hbefore.claims _)
  | ask a point =>
    exact .updateAdapter (hasks a point rfl) fun adapter _ => (point.alike_cancel adapter).key

end SymbolSearch
