import SymbolSearch.Proofs.Cache.Jobs
import SymbolSearch.Proofs.Cache.Sparing
import SymbolSearch.Proofs.Session.Waiting

/-!
# Coming back to a session that is kept

Whoever gets a session that is kept in a cache works with this session and with its slot, changes
nothing else, and has only so many steps to make.

* `Cache.ChangesOnly` — whatever is not among some belongings is as it was.
* `Cached` — a session that is kept, with its key and its slot; `ReconnectPoint.Heads` says that one
  is on the way to it or works with it.
* `ReconnectPoint.stepsLeft` — how many steps may be left, and `ReconnectPoint.IsStuck` — whether one
  has to wait.
* `ReconnectPoint.leadsBack_step` — every step goes on to the same session with fewer steps left, or
  ends there, and changes nothing else.
* `Cache.Calm` — what happens to the adapters while nobody else needs a slot; nothing of the above is
  disturbed by it.
-/

namespace SymbolSearch

/-- Nothing in a cache has changed but some keys, slots and adapters, and no adapter was made. -/
structure Cache.ChangesOnly (own : Belongings) (cache cache' : Cache) : Prop where
  servers : cache'.servers = cache.servers
  settings : cache'.settings = cache.settings
  made : cache'.adapters.length = cache.adapters.length
  lookup : ∀ key, ¬own.key key → cache'.mapped.lookup key = cache.mapped.lookup key
  slot : ∀ id, ¬own.slot id → cache'.slots[id]? = cache.slots[id]?
  adapter : ∀ a, ¬own.adapter a → cache'.adapters[a]? = cache.adapters[a]?

/-- A session that is kept, with its key and its slot. -/
structure Cached where
  key : CacheKey
  slot : SlotId
  adapter : AdapterId

namespace Cached

/-- What belongs to a session that is kept. -/
def belongings (own : Cached) : Belongings := ⟨(· = own.key), (· = own.slot), (· = own.adapter)⟩

/-- Whether a session is kept in a cache. -/
structure IsIn (own : Cached) (cache : Cache) : Prop where
  found : cache.mapped.lookup own.key = some own.slot
  holds : (cache.slotAt own.slot).adapter = some own.adapter
  made : ∃ s, cache.session? own.adapter = some s

/-- Whether someone has the slot of a session. -/
structure IsHeld (own : Cached) (hold : Hold) : Prop where
  key : hold.key = own.key
  slot : hold.slot = own.slot

end Cached

variable {own : Cached} {cache middle m cache' : Cache} {now : Instant} {files : Option Tree}
  {a : AdapterId} {s : Session}

/-! ### What is done with one slot and one adapter -/

namespace Cache.ChangesOnly

variable {some : Belongings}

theorem refl (cache : Cache) : cache.ChangesOnly some cache :=
  ⟨rfl, rfl, rfl, fun _ _ => rfl, fun _ _ => rfl, fun _ _ => rfl⟩

theorem trans (h : cache.ChangesOnly some middle) (h' : middle.ChangesOnly some cache') :
    cache.ChangesOnly some cache' where
  servers := h'.servers.trans h.servers
  settings := h'.settings.trans h.settings
  made := h'.made.trans h.made
  lookup := fun key hkey => (h'.lookup key hkey).trans (h.lookup key hkey)
  slot := fun id hid => (h'.slot id hid).trans (h.slot id hid)
  adapter := fun a ha => (h'.adapter a ha).trans (h.adapter a ha)

theorem updateAdapter (ha : some.adapter a) (change : Adapter → Adapter) :
    cache.ChangesOnly some (cache.updateAdapter a change) where
  servers := rfl
  settings := rfl
  made := List.length_modify ..
  lookup := fun _ _ => rfl
  slot := fun _ _ => rfl
  adapter := by
    intro b hb
    refine List.getElem?_modify_ne _ _ ?_
    rintro rfl
    exact hb ha

theorem stepSession {π ρ : Type} (ha : some.adapter a) (step : Session → Stepped Session π ρ) :
    cache.ChangesOnly some (cache.stepSession a step).1 := by
  rcases cache.stepSession_cases a step with h | ⟨adapter, -, h⟩
  · rw [h]
    exact refl cache
  · rw [h]
    exact updateAdapter ha _

theorem updateSlot {id : SlotId} (hid : some.slot id) (change : Slot → Slot) :
    cache.ChangesOnly some (cache.updateSlot id change) where
  servers := rfl
  settings := rfl
  made := rfl
  lookup := fun _ _ => rfl
  slot := by
    intro other hother
    refine List.getElem?_modify_ne _ _ ?_
    rintro rfl
    exact hother hid
  adapter := fun _ _ => rfl

theorem leaveHold {hold : Hold} (hid : some.slot hold.slot) :
    cache.ChangesOnly some (cache.leaveHold hold) := (updateSlot hid _).trans (updateSlot hid _)

theorem unmapSlot {key : CacheKey} (hkey : some.key key) (id : SlotId) :
    cache.ChangesOnly some (cache.unmapSlot key id) := by
  simp only [Cache.unmapSlot]
  split
  · refine ⟨rfl, rfl, rfl, fun other hother => ?_, fun _ _ => rfl, fun _ _ => rfl⟩
    refine Cache.lookup_filter_ne ?_ cache.mapped
    rintro rfl
    exact hother hkey
  · exact refl cache

end Cache.ChangesOnly

/-- A step on a session that is there. -/
theorem Cache.stepSession_of_session? {π ρ : Type} (hs : cache.session? a = some s)
    (step : Session → Stepped Session π ρ) :
    (cache.stepSession a step).2 = (step s).2 ∧
      (cache.stepSession a step).1.session? a = some (step s).1 := by
  obtain ⟨adapter, hadapter, rfl⟩ := Option.map_eq_some_iff.mp hs
  simp only [Cache.stepSession, Cache.stepAdapter, hadapter]
  exact ⟨rfl, Cache.session?_updateAdapter_self hadapter _⟩

namespace Cached.IsIn

/-- What is done with others does not matter. -/
theorem of_changesOnly {some : Belongings} (h : own.IsIn cache)
    (hchanges : cache.ChangesOnly some cache') (hkey : ¬some.key own.key)
    (hslot : ¬some.slot own.slot) (hadapter : ¬some.adapter own.adapter) : own.IsIn cache' where
  found := (hchanges.lookup _ hkey).trans h.found
  holds := by
    rw [Cache.slotAt, hchanges.slot _ hslot]
    exact h.holds
  made := by
    rw [Cache.session?, hchanges.adapter _ hadapter]
    exact h.made

theorem updateSlot (h : own.IsIn cache) {id : SlotId} {change : Slot → Slot}
    (hchange : ∀ slot, (change slot).adapter = slot.adapter) :
    own.IsIn (cache.updateSlot id change) where
  found := h.found
  holds := (Cache.adapter_updateSlot hchange own.slot).trans h.holds
  made := h.made

theorem leaveHold (h : own.IsIn cache) (hold : Hold) : own.IsIn (cache.leaveHold hold) := by
  have hleft : own.IsIn (cache.leaveSlot hold.slot hold.ticket) := h.updateSlot fun _ => rfl
  exact hleft.updateSlot fun _ => rfl

theorem updateAdapter (h : own.IsIn cache) (change : Adapter → Adapter) :
    own.IsIn (cache.updateAdapter own.adapter change) where
  found := h.found
  holds := h.holds
  made := by
    obtain ⟨s, hs⟩ := h.made
    obtain ⟨adapter, hadapter, -⟩ := Option.map_eq_some_iff.mp hs
    exact ⟨_, Cache.session?_updateAdapter_self hadapter change⟩

theorem stepSession {π ρ : Type} (h : own.IsIn cache) (step : Session → Stepped Session π ρ) :
    own.IsIn (cache.stepSession own.adapter step).1 := by
  rcases cache.stepSession_cases own.adapter step with heq | ⟨adapter, -, heq⟩
  · rw [heq]
    exact h
  · rw [heq]
    exact h.updateAdapter _

/-- The adapter is found in its slot. -/
theorem adapterIn (h : own.IsIn cache) {hold : Hold} (hhold : own.IsHeld hold) :
    cache.adapterIn hold.key hold.server hold.slot = (own.adapter, cache) := by
  rw [hhold.slot]
  simp only [Cache.adapterIn, h.holds]

end Cached.IsIn

/-! ### Getting the session -/

namespace ReconnectPoint

/-- How often a start is tried. -/
def attempts (cache : Cache) : Nat := max cache.settings.cache.reconnectAttempts 1

/-- Whether one who gets a session is on the way to one that is kept, or works with it. -/
inductive Heads (own : Cached) (cache : Cache) : ReconnectPoint → Prop where
  | starts (kept : own.IsIn cache) :
      Heads own cache (.entering (.starting own.key.ecosystem own.key.root))
  | finds (server : ServerConfig) (kept : own.IsIn cache) :
      Heads own cache (.entering (.finding own.key.ecosystem server own.key.root))
  | queues (hold : Hold) (held : own.IsHeld hold) (kept : own.IsIn cache) :
      Heads own cache (.entering (.queued hold))
  | tries (hold : Hold) (failed restarts : Nat) (ensure : EnsurePoint) (held : own.IsHeld hold)
      (left : failed < attempts cache) (kept : own.IsIn cache)
      (cools : ∀ resume, ensure = .cooling resume →
        ∃ s, cache.session? own.adapter = some s ∧ s.CoolsUntil resume) :
      Heads own cache (.trying ⟨hold, failed, own.adapter, restarts⟩ ensure)
  | checks (hold : Hold) (failed restarts : Nat) (guardPoint : GuardPoint) (held : own.IsHeld hold)
      (left : failed < attempts cache) (kept : own.IsIn cache) :
      Heads own cache (.checking ⟨hold, failed, own.adapter, restarts⟩ guardPoint)
  | pauses (hold : Hold) (failed : Nat) (resume : Instant) (held : own.IsHeld hold)
      (left : failed < attempts cache) (kept : own.IsIn cache) :
      Heads own cache (.pausing hold failed resume)
  | evicts (hold : Hold) (stop : StopPoint) (error : CacheError) (held : own.IsHeld hold)
      (made : ∃ s, cache.session? own.adapter = some s) :
      Heads own cache (.evicting hold own.adapter stop error)

/-- How many steps one may still make who gets a session. -/
def stepsLeft (now : Instant) (cache : Cache) : ReconnectPoint → Nat
  | .entering (.starting _ _) => 30 * attempts cache + 15
  | .entering (.finding _ _ _) => 30 * attempts cache + 14
  | .entering (.queued _) => 30 * attempts cache + 13
  | .trying attempt ensure => 30 * (attempts cache - attempt.failed) +
      ((cache.session? attempt.adapter).map fun s => ensure.stepsLeft now s).getD 0 + 2
  | .checking attempt .asking => 30 * (attempts cache - attempt.failed) + 2
  | .checking attempt (.queued _) => 30 * (attempts cache - attempt.failed) + 1
  | .pausing _ failed _ => 30 * (attempts cache - failed) + 13
  | .evicting _ _ stop _ => stop.stepsLeft

/-- Whether one who gets a session has to wait where he is. -/
def IsStuck (now : Instant) (files : Option Tree) (cache : Cache) : ReconnectPoint → Prop
  | .entering entry => (entry.step files cache).2 = .blocked
  | .trying attempt ensure => (cache.stepSession attempt.adapter (ensure.step now)).2 = .blocked
  | .checking attempt guardPoint =>
    (cache.stepSession attempt.adapter (Session.stepAlive guardPoint)).2 = .blocked
  | .pausing _ _ resume => now < resume
  | .evicting _ adapter stop _ => (cache.stepSession adapter (stop.step now)).2 = .blocked

/-- What a step of getting a session leads to that is kept. -/
inductive LeadsBack (own : Cached) (now : Instant) (bound : Nat) (stuck : Prop) (cache : Cache) :
    Reconnected → Prop where
  | blocks (m : Cache) (waits : stuck) : LeadsBack own now bound stuck cache (m, .blocked)
  | goesOn (m : Cache) (point : ReconnectPoint) (changes : cache.ChangesOnly own.belongings m)
      (heads : point.Heads own m) (fewer : point.stepsLeft now m < bound) :
      LeadsBack own now bound stuck cache (m, .moved point)
  | succeeds (m : Cache) (changes : cache.ChangesOnly own.belongings m) (kept : own.IsIn m) :
      LeadsBack own now bound stuck cache (m, .finished (.ok own.adapter))
  | fails (m : Cache) (error : CacheError) (changes : cache.ChangesOnly own.belongings m) :
      LeadsBack own now bound stuck cache (m, .finished (.error error))

variable {hold : Hold} {failed restarts bound : Nat} {stuck : Prop}

theorem leadsBack_giveUp (hchanges : cache.ChangesOnly own.belongings m) (hheld : own.IsHeld hold)
    (error : CacheError) : LeadsBack own now bound stuck cache (giveUp hold error m) :=
  .fails _ error ((hchanges.trans (.unmapSlot hheld.key hold.slot)).trans (.leaveHold hheld.slot))

theorem leadsBack_afterStop {stop : StopPoint} (hchanges : cache.ChangesOnly own.belongings m)
    (hheld : own.IsHeld hold) (error : CacheError) (hs : m.session? own.adapter = some s)
    (hbound : stop.stepsLeft ≤ bound) (hstuck : (stop.step now s).2 = .blocked → stuck) :
    LeadsBack own now bound stuck cache
      (afterStop hold own.adapter error (m.stepSession own.adapter (stop.step now))) := by
  have hgoes : cache.ChangesOnly own.belongings (m.stepSession own.adapter (stop.step now)).1 :=
    hchanges.trans (.stepSession rfl _)
  obtain ⟨hprogress, hmade⟩ := Cache.stepSession_of_session? hs (stop.step now)
  generalize m.stepSession own.adapter (stop.step now) = stepped at hgoes hprogress hmade
  obtain ⟨after, progress⟩ := stepped
  obtain rfl : progress = (stop.step now s).2 := hprogress
  cases hstop : (stop.step now s).2 with
  | blocked => exact .blocks after (hstuck hstop)
  | moved stop' =>
    refine .goesOn after _ hgoes (.evicts hold stop' error hheld ⟨_, hmade⟩) ?_
    exact Nat.lt_of_lt_of_le (StopPoint.stepsLeft_step hstop) hbound
  | finished => exact leadsBack_giveUp hgoes hheld error

theorem leadsBack_evict (hchanges : cache.ChangesOnly own.belongings m) (hkept : own.IsIn m)
    (hheld : own.IsHeld hold) (error : CacheError) (hbound : 11 ≤ bound) :
    LeadsBack own now bound stuck cache (evict now hold error m) := by
  have hempty : cache.ChangesOnly own.belongings (m.emptySlot hold.slot).2 :=
    hchanges.trans (.updateSlot hheld.slot _)
  obtain ⟨s, hs⟩ := hkept.made
  have hslot : m.emptySlot hold.slot = (some own.adapter, (m.emptySlot hold.slot).2) := by
    refine Prod.ext ?_ rfl
    rw [hheld.slot]
    exact hkept.holds
  rw [evict, hslot]
  exact leadsBack_afterStop hempty hheld error (s := s) hs hbound nofun

theorem leadsBack_afterFailure (hchanges : cache.ChangesOnly own.belongings m)
    (hkept : own.IsIn m) (hheld : own.IsHeld hold) (hleft : failed < attempts m)
    (hbound : 30 * (attempts m - failed) ≤ bound) :
    LeadsBack own now bound stuck cache
      (afterFailure now ⟨hold, failed, own.adapter, restarts⟩ m) := by
  simp only [afterFailure]
  split
  next => exact leadsBack_evict hchanges hkept hheld _ (by omega)
  next hmore =>
    have hleft' : failed + 1 < attempts m := Nat.lt_of_not_le hmore
    refine .goesOn m _ hchanges (.pauses hold _ _ hheld hleft' hkept) ?_
    simp only [stepsLeft]
    omega

theorem leadsBack_succeed (hchanges : cache.ChangesOnly own.belongings m) (hkept : own.IsIn m)
    (hheld : own.IsHeld hold) :
    LeadsBack own now bound stuck cache (succeed ⟨hold, failed, own.adapter, restarts⟩ m) := by
  simp only [succeed]
  split
  · exact .succeeds _ (hchanges.trans (.leaveHold hheld.slot)) (hkept.leaveHold hold)
  · refine .succeeds _ ?_ ((hkept.updateAdapter _).leaveHold hold)
    exact (hchanges.trans (.updateAdapter rfl _)).trans (.leaveHold hheld.slot)

theorem leadsBack_afterCheck {guardPoint : GuardPoint}
    (hchanges : cache.ChangesOnly own.belongings m) (hkept : own.IsIn m) (hheld : own.IsHeld hold)
    (hleft : failed < attempts m) (hs : m.session? own.adapter = some s)
    (hbound : stepsLeft now m (.checking ⟨hold, failed, own.adapter, restarts⟩ guardPoint) ≤ bound)
    (hstuck : (s.stepAlive guardPoint).2 = .blocked → stuck) :
    LeadsBack own now bound stuck cache
      (afterCheck now ⟨hold, failed, own.adapter, restarts⟩
        (m.stepSession own.adapter (Session.stepAlive guardPoint))) := by
  have hgoes : cache.ChangesOnly own.belongings
      (m.stepSession own.adapter (Session.stepAlive guardPoint)).1 :=
    hchanges.trans (.stepSession rfl _)
  have hkept' := hkept.stepSession (Session.stepAlive guardPoint)
  have hsettings := settings_stepSession m own.adapter (Session.stepAlive guardPoint)
  obtain ⟨hprogress, -⟩ := Cache.stepSession_of_session? hs (Session.stepAlive guardPoint)
  generalize m.stepSession own.adapter (Session.stepAlive guardPoint) = stepped
    at hgoes hprogress hkept' hsettings
  obtain ⟨after, progress⟩ := stepped
  obtain rfl : progress = (s.stepAlive guardPoint).2 := hprogress
  have hsame : attempts after = attempts m := by rw [attempts, hsettings, attempts]
  rw [← hsame] at hleft
  have hrest : 30 * (attempts after - failed) < bound := by
    rw [hsame]
    cases guardPoint <;> simp only [stepsLeft] at hbound <;> omega
  cases halive : (s.stepAlive guardPoint).2 with
  | blocked => exact .blocks after (hstuck halive)
  | moved guardPoint' =>
    refine .goesOn after _ hgoes (.checks hold failed restarts guardPoint' hheld hleft hkept') ?_
    cases guardPoint with
    | asking =>
      simp only [stepsLeft] at hbound
      cases guardPoint' with
      | asking =>
        simp only [Session.stepAlive] at halive
        split at halive <;> cases halive
      | queued =>
        simp only [stepsLeft]
        omega
    | queued ticket =>
      simp only [Session.stepAlive, GuardPoint.step] at halive
      split at halive <;> cases halive
  | finished alive =>
    cases alive with
    | true => exact leadsBack_succeed hgoes hkept' hheld
    | false =>
      exact leadsBack_afterFailure hgoes hkept' hheld hleft (Nat.le_of_lt hrest)

theorem leadsBack_afterEnsure {ensure : EnsurePoint}
    (hchanges : cache.ChangesOnly own.belongings m) (hkept : own.IsIn m) (hheld : own.IsHeld hold)
    (hleft : failed < attempts m) (hs : m.session? own.adapter = some s)
    (hcools : ∀ resume, ensure = .cooling resume → s.CoolsUntil resume)
    (hbound : 30 * (attempts m - failed) + ensure.stepsLeft now s + 2 ≤ bound)
    (hstuck : (ensure.step now s).2 = .blocked → stuck) :
    LeadsBack own now bound stuck cache
      (afterEnsure now ⟨hold, failed, own.adapter, restarts⟩
        (m.stepSession own.adapter (ensure.step now))) := by
  have hgoes : cache.ChangesOnly own.belongings (m.stepSession own.adapter (ensure.step now)).1 :=
    hchanges.trans (.stepSession rfl _)
  have hkept' := hkept.stepSession (ensure.step now)
  have hsettings := settings_stepSession m own.adapter (ensure.step now)
  obtain ⟨hprogress, hs'⟩ := Cache.stepSession_of_session? hs (ensure.step now)
  generalize m.stepSession own.adapter (ensure.step now) = stepped
    at hgoes hprogress hkept' hs' hsettings
  obtain ⟨after, progress⟩ := stepped
  obtain rfl : progress = (ensure.step now s).2 := hprogress
  have hsame : attempts after = attempts m := by rw [attempts, hsettings, attempts]
  rw [← hsame] at hleft hbound
  cases hensure : (ensure.step now s).2 with
  | blocked => exact .blocks after (hstuck hensure)
  | moved ensure' =>
    obtain ⟨hfewer, hcools'⟩ := EnsurePoint.stepsLeft_step hcools hensure
    refine .goesOn after _ hgoes (.tries hold failed restarts ensure' hheld hleft hkept' ?_) ?_
    · exact fun resume hresume => ⟨_, hs', hcools' resume hresume⟩
    · simp only [stepsLeft, hs', Option.map_some, Option.getD_some]
      omega
  | finished result =>
    cases result with
    | ok =>
      refine leadsBack_afterCheck hgoes hkept' hheld hleft hs' ?_ fun hblocked => ?_
      · simp only [stepsLeft]
        omega
      · exact absurd hblocked (Session.stepAlive_ne_blocked nofun)
    | error error =>
      simp only [afterEnsure]
      split
      · exact .fails _ _ (hgoes.trans (.leaveHold hheld.slot))
      · split
        · exact leadsBack_evict hgoes hkept' hheld _ (by omega)
        · exact leadsBack_afterFailure hgoes hkept' hheld hleft (by omega)

theorem leadsBack_begin (hchanges : cache.ChangesOnly own.belongings m) (hkept : own.IsIn m)
    (hheld : own.IsHeld hold) (hleft : failed < attempts m)
    (hbound : 30 * (attempts m - failed) + 13 ≤ bound) :
    LeadsBack own now bound stuck cache (begin now hold failed m) := by
  obtain ⟨s, hs⟩ := hkept.made
  simp only [begin, hkept.adapterIn hheld]
  refine leadsBack_afterEnsure hchanges hkept hheld hleft hs ?_ ?_ ?_
  · rintro resume ⟨⟩
  · have hle := EnsurePoint.stepsLeft_le now s .asking
    omega
  · rintro ⟨⟩

/-- Where the root of the session leads to itself, a step of getting it leads to it and to nothing
    else. -/
theorem leadsBack_step {point : ReconnectPoint} (h : point.Heads own cache)
    (hfiles : ∀ tree root, files = some tree → tree.canonical own.key.root = .ok root →
      root = own.key.root) :
    LeadsBack own now (point.stepsLeft now cache) (point.IsStuck now files cache) cache
      (point.step now files cache) := by
  have hpos : 0 < attempts cache := Nat.lt_of_lt_of_le Nat.zero_lt_one (Nat.le_max_right _ _)
  cases h with
  | starts kept =>
    simp only [step, EntryPoint.step]
    cases cache.servers.server? own.key.ecosystem with
    | none => exact .fails cache _ (.refl cache)
    | some server =>
      refine .goesOn cache _ (.refl cache) (.finds server kept) ?_
      simp only [stepsLeft]
      omega
  | finds server kept =>
    cases hgiven : files with
    | none => exact .blocks cache rfl
    | some tree =>
      cases hcanonical : tree.canonical own.key.root with
      | error error =>
        simp only [step, EntryPoint.step, hcanonical]
        exact .fails cache _ (.refl cache)
      | ok root =>
        obtain rfl := hfiles tree root hgiven hcanonical
        simp only [step, EntryPoint.step, hcanonical]
        have htakes : cache.findSlot own.key = (own.slot, cache.updateSlot own.slot
            fun slot => { slot with holders := slot.holders + 1 }) := by
          simp only [Cache.findSlot, kept.found]
        have hkey : (⟨own.key.ecosystem, own.key.root⟩ : CacheKey) = own.key := rfl
        rw [hkey, htakes]
        have htaken : own.IsIn (cache.updateSlot own.slot
            fun slot => { slot with holders := slot.holders + 1 }) := kept.updateSlot fun _ => rfl
        refine .goesOn _ _ ((Cache.ChangesOnly.updateSlot rfl _).trans (.updateSlot rfl _))
          (.queues _ ⟨rfl, rfl⟩ ?_) (Nat.lt_succ_self _)
        exact htaken.updateSlot fun _ => rfl
  | queues hold held kept =>
    cases hstep : (EntryPoint.queued hold).step files cache with
    | mk m progress =>
      have hcases := hstep
      simp only [EntryPoint.step] at hcases
      split at hcases
      · obtain ⟨rfl, rfl⟩ := Prod.mk.inj hcases
        simp only [step, hstep]
        exact leadsBack_begin (.refl _) kept held hpos (Nat.le_refl _)
      · obtain ⟨rfl, rfl⟩ := Prod.mk.inj hcases
        simp only [step, hstep]
        exact .blocks _ (congrArg Prod.snd hstep)
  | tries hold failed restarts ensure held left kept cools =>
    obtain ⟨s, hs⟩ := kept.made
    refine leadsBack_afterEnsure (.refl cache) kept held left hs (fun resume hresume => ?_) ?_ ?_
    · obtain ⟨found, hfound, hcools⟩ := cools resume hresume
      obtain rfl : found = s := Option.some.inj (hfound.symm.trans hs)
      exact hcools
    · simp only [stepsLeft, hs, Option.map_some, Option.getD_some]
      exact Nat.le_refl _
    · exact (Cache.stepSession_of_session? hs (ensure.step now)).1.trans
  | checks hold failed restarts guardPoint held left kept =>
    obtain ⟨s, hs⟩ := kept.made
    refine leadsBack_afterCheck (.refl cache) kept held left hs (Nat.le_refl _) ?_
    exact (Cache.stepSession_of_session? hs (Session.stepAlive guardPoint)).1.trans
  | pauses hold failed resume held left kept =>
    simp only [step]
    split
    next => exact leadsBack_begin (.refl cache) kept held left (Nat.le_refl _)
    next hearly => exact .blocks cache (Nat.lt_of_not_le hearly)
  | evicts hold stop error held made =>
    obtain ⟨s, hs⟩ := made
    refine leadsBack_afterStop (.refl cache) held error hs (Nat.le_refl _) ?_
    exact (Cache.stepSession_of_session? hs (stop.step now)).1.trans

/-- Whoever has to wait waits for the files, for a time or at the session, if it is his turn. -/
theorem IsStuck.cases {point : ReconnectPoint} (h : point.IsStuck now files cache)
    (hheads : point.Heads own cache)
    (hguard : ∀ hold, point = .entering (.queued hold) →
      (cache.slotAt hold.slot).turns.holds hold.ticket = true)
    (hturn : ∀ a task s ticket, point.job? = some (a, .onSession task) →
      cache.session? a = some s → task.queued? = some ticket → s.turns.holds ticket = true) :
    (point.wantsFiles = true ∧ files = none) ∨ (∃ t, point.deadline? = some t ∧ now < t) ∨
      ∃ a task s, point.job? = some (a, .onSession task) ∧ cache.session? a = some s ∧
        task.Awaits now s := by
  have hsession (task : SessionTask) {s : Session}
      (hjob : point.job? = some (own.adapter, .onSession task))
      (hs : cache.session? own.adapter = some s) (hblocked : (task.step now s).2 = .blocked) :
      ∃ a task s, point.job? = some (a, .onSession task) ∧ cache.session? a = some s ∧
        task.Awaits now s := by
    refine ⟨_, task, s, hjob, hs, SessionTask.awaits_of_blocked hblocked fun ticket hticket => ?_⟩
    exact hturn _ task s ticket hjob hs hticket
  have hstep {π ρ : Type} {step : Session → Stepped Session π ρ} {make : π → SessionTask}
      {reply : ρ → SessionReply} {s : Session} (hs : cache.session? own.adapter = some s)
      (hblocked : (cache.stepSession own.adapter step).2 = .blocked) :
      ((step s).map make reply).2 = .blocked := by
    rw [(Cache.stepSession_of_session? hs step).1] at hblocked
    exact congrArg (Progress.map make reply) hblocked
  cases hheads with
  | starts =>
    simp only [IsStuck, EntryPoint.step] at h
    split at h <;> cases h
  | finds server =>
    cases hgiven : files with
    | none => exact .inl ⟨rfl, rfl⟩
    | some tree =>
      rw [hgiven] at h
      simp only [IsStuck, EntryPoint.step] at h
      split at h <;> cases h
  | queues hold =>
    simp only [IsStuck, EntryPoint.step, hguard hold rfl] at h
    cases h
  | tries hold failed restarts ensure held left kept =>
    obtain ⟨s, hs⟩ := kept.made
    exact .inr (.inr (hsession (.ensure ensure) rfl hs (hstep hs h)))
  | checks hold failed restarts guardPoint held left kept =>
    obtain ⟨s, hs⟩ := kept.made
    exact .inr (.inr (hsession (.checkAlive guardPoint) rfl hs (hstep hs h)))
  | pauses hold failed resume => exact .inr (.inl ⟨resume, rfl, h⟩)
  | evicts hold stop error held made =>
    obtain ⟨s, hs⟩ := made
    exact .inr (.inr (hsession (.stop stop) rfl hs (hstep hs h)))

end ReconnectPoint

/-! ### While nobody else needs a slot -/

/-- What happens in a cache while nobody needs a slot. -/
structure Cache.Calm (now : Instant) (cache cache' : Cache) : Prop where
  servers : cache'.servers = cache.servers
  settings : cache'.settings = cache.settings
  mapped : cache'.mapped = cache.mapped
  slots : cache'.slots = cache.slots
  made : cache'.adapters.length = cache.adapters.length
  adapters : ∀ a : AdapterId,
    Option.Rel (Adapter.Calm now) cache.adapters[a]? cache'.adapters[a]?

namespace Cache.Calm

theorem refl (now : Instant) (cache : Cache) : cache.Calm now cache := by
  refine ⟨rfl, rfl, rfl, rfl, rfl, fun a => ?_⟩
  cases cache.adapters[a]? with
  | none => exact .none
  | some adapter => exact .some (Adapter.Alike.refl adapter).calm

theorem updateAdapter {change : Adapter → Adapter}
    (h : ∀ adapter, cache.adapters[a]? = some adapter → adapter.Calm now (change adapter)) :
    cache.Calm now (cache.updateAdapter a change) := by
  refine ⟨rfl, rfl, rfl, rfl, List.length_modify .., fun b => ?_⟩
  by_cases hab : a = b
  · subst hab
    rw [Cache.getElem?_updateAdapter_self]
    cases hadapter : cache.adapters[a]? with
    | none => exact .none
    | some adapter => exact .some (h adapter hadapter)
  · rw [Cache.getElem?_updateAdapter_of_ne hab]
    exact (refl now cache).adapters b

/-- The steps of a question. -/
theorem ask_step (a : AdapterId) (point : InquiryPoint) (files : Option Tree) (cache : Cache) :
    cache.Calm now ((CacheTask.ask a point).step now files cache).1 := by
  show cache.Calm now (cache.stepAdapter a (point.step now files)).1
  unfold Cache.stepAdapter
  split
  · exact refl now cache
  next adapter hadapter =>
    refine updateAdapter fun found hfound => ?_
    obtain rfl : adapter = found := Option.some.inj (hadapter.symm.trans hfound)
    exact point.calm_step files adapter

theorem ask_cancel (a : AdapterId) (point : InquiryPoint) (cache : Cache) :
    cache.Calm now ((CacheTask.ask a point).cancel cache) :=
  updateAdapter fun adapter _ => (point.alike_cancel adapter).calm

/-- What happens to a session besides the steps of operations. -/
theorem occur (event : ServerEvent) (cache : Cache) :
    cache.Calm now (cacheRules.occur now event cache) :=
  updateAdapter fun adapter _ => ⟨rfl, Session.shifts_undergo now event.event adapter.session⟩

theorem session? (h : cache.Calm now cache') (hs : cache.session? a = some s) :
    ∃ s', cache'.session? a = some s' ∧ s.Shifts now s' := by
  obtain ⟨adapter, hadapter, rfl⟩ := Option.map_eq_some_iff.mp hs
  have hcalm := h.adapters a
  rw [hadapter] at hcalm
  cases hadapter' : cache'.adapters[a]? with
  | none =>
    rw [hadapter'] at hcalm
    cases hcalm
  | some adapter' =>
    rw [hadapter'] at hcalm
    cases hcalm with
    | some hcalm =>
      refine ⟨adapter'.session, ?_, hcalm.shifts⟩
      rw [Cache.session?, hadapter']
      rfl

theorem isIn (h : cache.Calm now cache') (hkept : own.IsIn cache) : own.IsIn cache' where
  found := h.mapped ▸ hkept.found
  holds := by
    rw [Cache.slotAt, h.slots]
    exact hkept.holds
  made := by
    obtain ⟨s, hs⟩ := hkept.made
    obtain ⟨s', hs', -⟩ := h.session? hs
    exact ⟨s', hs'⟩

end Cache.Calm

namespace ReconnectPoint

variable {point : ReconnectPoint}

/-- It matters only whether the session may be launched again. -/
theorem stepsLeft_mono {later : Instant} (hheads : point.Heads own cache)
    (hsettings : cache'.settings = cache.settings)
    (hsessions : ∀ s, cache.session? own.adapter = some s → ∃ s',
      cache'.session? own.adapter = some s' ∧ (s.isCool now = true → s'.isCool later = true)) :
    point.stepsLeft later cache' ≤ point.stepsLeft now cache := by
  have hsame : attempts cache' = attempts cache := by rw [attempts, hsettings, attempts]
  cases hheads with
  | tries hold failed restarts ensure held left kept =>
    obtain ⟨s, hs⟩ := kept.made
    obtain ⟨s', hs', hcool⟩ := hsessions s hs
    simp only [stepsLeft, hs, hs', hsame, Option.map_some, Option.getD_some]
    have hle : ensure.stepsLeft later s' ≤ ensure.stepsLeft now s :=
      EnsurePoint.stepsLeft_mono hcool
    omega
  | checks hold failed restarts guardPoint =>
    cases guardPoint <;> simp only [stepsLeft, hsame] <;> exact Nat.le_refl _
  | starts | finds | queues | pauses | evicts =>
    simp only [stepsLeft, hsame]
    exact Nat.le_refl _

/-- Nobody loses his way while nobody needs a slot. -/
theorem Heads.calm (h : point.Heads own cache) (hcalm : cache.Calm now cache') :
    point.Heads own cache' := by
  have hsame : attempts cache' = attempts cache := by rw [attempts, hcalm.settings, attempts]
  cases h with
  | starts kept => exact .starts (hcalm.isIn kept)
  | finds server kept => exact .finds server (hcalm.isIn kept)
  | queues hold held kept => exact .queues hold held (hcalm.isIn kept)
  | tries hold failed restarts ensure held left kept cools =>
    refine .tries hold failed restarts ensure held (hsame ▸ left) (hcalm.isIn kept) ?_
    intro resume hresume
    obtain ⟨s, hs, hcools⟩ := cools resume hresume
    obtain ⟨s', hs', hshifts⟩ := hcalm.session? hs
    exact ⟨s', hs', hshifts.coolsUntil hcools⟩
  | checks hold failed restarts guardPoint held left kept =>
    exact .checks hold failed restarts guardPoint held (hsame ▸ left) (hcalm.isIn kept)
  | pauses hold failed resume held left kept =>
    exact .pauses hold failed resume held (hsame ▸ left) (hcalm.isIn kept)
  | evicts hold stop error held made =>
    obtain ⟨s, hs⟩ := made
    obtain ⟨s', hs', -⟩ := hcalm.session? hs
    exact .evicts hold stop error held ⟨s', hs'⟩

theorem Heads.stepsLeft_calm (h : point.Heads own cache) (hcalm : cache.Calm now cache') :
    point.stepsLeft now cache' ≤ point.stepsLeft now cache := by
  refine stepsLeft_mono h hcalm.settings fun s hs => ?_
  obtain ⟨s', hs', hshifts⟩ := hcalm.session? hs
  exact ⟨s', hs', hshifts.isCool⟩

theorem Heads.stepsLeft_later {later : Instant} (h : point.Heads own cache) (hle : now ≤ later) :
    point.stepsLeft later cache ≤ point.stepsLeft now cache :=
  stepsLeft_mono h rfl fun s hs => ⟨s, hs, Session.isCool_later hle⟩

end ReconnectPoint

end SymbolSearch
