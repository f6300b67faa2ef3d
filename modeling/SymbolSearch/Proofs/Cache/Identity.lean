import Mathlib
import SymbolSearch.Proofs.Cache.Moments

/-!
# One session for each key

* `Knows` — an adapter that was made stays known.
* `Homed` — every session that is not closed is in a slot, or somebody closes it.
* `CacheCourse.OneSession` — what is promised; `CacheCourse.oneSession_after` shows it.
-/

namespace SymbolSearch

/-! ### Adapters stay known -/

/-- Whatever adapter is there in the first cache is there in the second, for the same key. -/
def Knows (cache cache' : Cache) : Prop :=
  ∀ (a : AdapterId) (adapter : Adapter), cache.adapters[a]? = some adapter →
    ∃ adapter', cache'.adapters[a]? = some adapter' ∧ adapter'.key = adapter.key

namespace Knows

variable {cache middle cache' : Cache}

theorem refl (cache : Cache) : Knows cache cache := fun _ adapter h => ⟨adapter, h, rfl⟩

theorem trans (h : Knows cache middle) (h' : Knows middle cache') : Knows cache cache' := by
  intro a adapter hadapter
  obtain ⟨between, hbetween, hkey⟩ := h a adapter hadapter
  obtain ⟨last, hlast, hkey'⟩ := h' a between hbetween
  exact ⟨last, hlast, hkey'.trans hkey⟩

theorem of_updateAdapter {id : AdapterId} {change : Adapter → Adapter}
    (hkey : ∀ adapter, cache.adapters[id]? = some adapter → (change adapter).key = adapter.key) :
    Knows cache (cache.updateAdapter id change) := by
  intro a adapter hadapter
  by_cases ha : id = a
  · subst ha
    exact ⟨change adapter, by simp [Cache.updateAdapter, hadapter], hkey adapter hadapter⟩
  · exact ⟨adapter, by simp [Cache.updateAdapter, ha, hadapter], rfl⟩

theorem of_move {now : Instant} {mayDesert : Prop} {visit visit' : Visit}
    (hmove : VisitMove now mayDesert visit visit') : Knows visit.cache visit'.cache := by
  cases hmove with
  | touches cache stance taken id change calm =>
    exact of_updateAdapter fun adapter hadapter => (calm adapter hadapter).key
  | works cache seat rest taken id change key | stops cache seat rest taken id change key =>
    exact of_updateAdapter key
  | makes cache seat rest taken server empty =>
    intro a adapter hadapter
    have hlt : a < cache.adapters.length := (List.getElem?_eq_some_iff.mp hadapter).1
    simp only [Cache.adapterIn, empty]
    exact ⟨adapter, (List.getElem?_append_left hlt).trans hadapter, rfl⟩
  | opens | takes | approaches | enters | finds | pauses | empties | closes | leaves | turnsBack
  | drops | unmaps => exact refl _

theorem of_moves {now : Instant} {mayDesert : Prop} {visit visit' : Visit}
    (hmoves : VisitMoves now mayDesert visit visit') : Knows visit.cache visit'.cache := by
  induction hmoves with
  | refl => exact refl _
  | tail _ hmove ih => exact ih.trans (of_move hmove)

end Knows

/-! ### Sessions that are not closed -/

/-- Whether an adapter is in a slot, or somebody closes its session. -/
def AtHome (cache : Cache) (stanceOf : Nat → Stance) (a : AdapterId) : Prop :=
  (∃ id, (cache.slotAt id).adapter = some a) ∨
    ∃ i seat rest, stanceOf i = .inside seat rest (.closes a)

/-- Every session that is not closed is in a slot, or somebody closes it. -/
def Homed (cache : Cache) (stanceOf : Nat → Stance) : Prop :=
  ∀ a adapter, cache.adapters[a]? = some adapter → adapter.session.state ≠ .closed →
    AtHome cache stanceOf a

section Homed

variable {cache cache' : Cache} {stanceOf : Nat → Stance} {stance stance' : Stance} {i count : Nat}
  {a : AdapterId}

theorem AtHome.update (h : AtHome cache (Function.update stanceOf i stance) a)
    (hslot : ∀ id, (cache.slotAt id).adapter = some a →
      AtHome cache' (Function.update stanceOf i stance') a)
    (hcloses : ∀ seat rest, stance = .inside seat rest (.closes a) →
      AtHome cache' (Function.update stanceOf i stance') a) :
    AtHome cache' (Function.update stanceOf i stance') a := by
  rcases h with ⟨id, hid⟩ | ⟨j, seat, rest, hj⟩
  · exact hslot id hid
  · by_cases hji : j = i
    · subst hji
      rw [Function.update_self] at hj
      exact hcloses seat rest hj
    · refine .inr ⟨j, seat, rest, ?_⟩
      rw [Function.update_of_ne hji] at hj ⊢
      exact hj

/-- The adapters stay, each in its slot, and nobody stops closing a session. -/
theorem Homed.update (h : Homed cache (Function.update stanceOf i stance))
    (hadapters : cache'.adapters = cache.adapters)
    (hslot : ∀ id, (cache'.slotAt id).adapter = (cache.slotAt id).adapter)
    (hcloses : ∀ seat rest a, stance ≠ .inside seat rest (.closes a)) :
    Homed cache' (Function.update stanceOf i stance') := by
  intro a adapter hadapter hopen
  rw [hadapters] at hadapter
  refine (h a adapter hadapter hopen).update (fun id hid => .inl ⟨id, ?_⟩) fun seat rest heq => ?_
  · rw [hslot]
    exact hid
  · exact absurd heq (hcloses seat rest a)

/-- One adapter changes, which cannot bring a closed session back unless it is at home. -/
theorem Homed.updateAdapter (h : Homed cache stanceOf) {change : Adapter → Adapter}
    (hopen : ∀ adapter, cache.adapters[a]? = some adapter →
      (change adapter).session.state ≠ .closed →
        adapter.session.state ≠ .closed ∨ AtHome cache stanceOf a) :
    Homed (cache.updateAdapter a change) stanceOf := by
  intro b adapter hadapter hstate
  by_cases hab : a = b
  · subst hab
    rw [Cache.updateAdapter, List.getElem?_modify_eq] at hadapter
    obtain ⟨before, hbefore, rfl⟩ := Option.map_eq_some_iff.mp hadapter
    rcases hopen before hbefore hstate with hopen | hhome
    · exact h a before hbefore hopen
    · exact hhome
  · have hsame : (cache.updateAdapter a change).adapters[b]? = cache.adapters[b]? := by
      simp [Cache.updateAdapter, hab]
    exact h b adapter (hsame.symm.trans hadapter) hstate

theorem Adapter.Calm.closed {now : Instant} {adapter adapter' : Adapter}
    (h : adapter.Calm now adapter') (hclosed : adapter.session.state = .closed) :
    adapter'.session.state = .closed := by
  cases h.shifts with
  | stays core => exact (Session.state_of_core core).trans hclosed
  | fails core =>
    have hstate : adapter'.session.state = adapter.session.recordFailure.state :=
      (congrArg Session.state core :)
    simp [hstate, Session.recordFailure, hclosed]
  | succeeds core =>
    have hstate : adapter'.session.state = adapter.session.recordSuccess.state :=
      (congrArg Session.state core :)
    simp [hstate, Session.recordSuccess, hclosed]
  | lost up =>
    rw [hclosed] at up
    cases up

/-- No move of one who is not given up leaves a session without a home. -/
theorem Homed.move {now : Instant} {mayDesert : Prop} {visit visit' : Visit}
    (hmove : VisitMove now mayDesert visit visit') (hstays : ¬mayDesert)
    (htidy : Tidy visit.cache count (Function.update stanceOf i visit.stance))
    (h : Homed visit.cache (Function.update stanceOf i visit.stance)) :
    Homed visit'.cache (Function.update stanceOf i visit'.stance) := by
  cases hmove with
  | touches cache stance taken id change calm =>
    refine h.updateAdapter fun adapter hadapter hopen => .inl fun hclosed => ?_
    exact hopen ((calm adapter hadapter).closed hclosed)
  | opens cache taken key fresh =>
    refine h.update rfl (fun id => ?_) (by rintro _ _ _ ⟨⟩)
    rcases Nat.lt_trichotomy id cache.slots.length with hlt | rfl | hgt
    · rw [Cache.slotAt, Cache.slotAt, Cache.openSlot, List.getElem?_append_left hlt]
    · simp [Cache.slotAt, Cache.openSlot]
    · simp [Cache.slotAt, Cache.openSlot, List.getElem?_eq_none (Nat.le_of_lt hgt),
        List.getElem?_append_right (Nat.le_of_lt hgt), Nat.sub_ne_zero_of_lt hgt]
  | takes | approaches | turnsBack | drops =>
    exact h.update rfl (Cache.adapter_updateSlot fun _ => rfl) (by rintro _ _ _ ⟨⟩)
  | enters | finds | pauses => exact h.update rfl (fun _ => rfl) (by rintro _ _ _ ⟨⟩)
  | makes cache seat rest taken server empty =>
    have hlt : seat.slot < cache.slots.length := by
      refine htidy.mapped_lt seat.claim (htidy.claimed i _ ?_)
      rw [Function.update_self]
      exact List.mem_cons_self
    intro a adapter hadapter hopen
    simp only [Cache.adapterIn, empty] at hadapter ⊢
    by_cases ha : a = cache.adapters.length
    · -- The new adapter is in the slot.
      refine .inl ⟨seat.slot, ?_⟩
      subst ha
      exact congrArg Slot.adapter (Cache.slotAt_updateSlot_self (by exact hlt) _)
    · have hold : cache.adapters[a]? = some adapter := by
        have hlen : a < cache.adapters.length + 1 := by
          simpa [Cache.updateSlot] using (List.getElem?_eq_some_iff.mp hadapter).1
        have hlt' : a < cache.adapters.length := Nat.lt_of_le_of_ne (Nat.lt_succ_iff.mp hlen) ha
        exact (List.getElem?_append_left hlt').symm.trans hadapter
      refine (h a adapter hold hopen).update (fun id hid => .inl ⟨id, ?_⟩) (by rintro _ _ ⟨⟩)
      have hne : seat.slot ≠ id := by
        rintro rfl
        rw [empty] at hid
        cases hid
      exact (congrArg Slot.adapter (Cache.slotAt_updateSlot_of_ne hne _)).trans hid
  | works cache seat rest taken id change key =>
    have hinside := htidy.works i seat rest _ (Function.update_self ..)
    exact h.updateAdapter fun _ _ _ => .inr (.inl ⟨seat.slot, hinside⟩)
  | empties cache seat rest id =>
    intro a adapter hadapter hopen
    have hinside := htidy.works i seat rest _ (Function.update_self ..)
    refine (h a adapter hadapter hopen).update (fun slot hslot => ?_) (by rintro _ _ ⟨⟩)
    by_cases hne : seat.slot = slot
    · -- The adapter that was there is the one whose session is closed.
      subst hne
      obtain rfl : a = id := Option.some.inj (hslot.symm.trans hinside)
      exact .inr ⟨i, seat, rest, Function.update_self ..⟩
    · exact .inl ⟨slot, (congrArg Slot.adapter (Cache.slotAt_updateSlot_of_ne hne _)).trans hslot⟩
  | stops cache seat rest taken id change key =>
    exact h.updateAdapter fun _ _ _ => .inr (.inr ⟨i, seat, rest, Function.update_self ..⟩)
  | closes cache seat rest taken id session found closed =>
    intro a adapter hadapter hopen
    refine (h a adapter hadapter hopen).update (fun slot hslot => .inl ⟨slot, hslot⟩) ?_
    rintro _ _ ⟨⟩
    rw [Cache.session?, hadapter] at found
    obtain rfl := Option.some.inj found
    exact absurd closed hopen
  | leaves cache seat rest taken work done =>
    refine h.update rfl (Cache.adapter_updateSlot fun _ => rfl) ?_
    rintro _ _ a ⟨⟩
    exact done.elim hstays fun hwork => hwork a rfl
  | unmaps cache stance taken key id found unused empty =>
    intro a adapter hadapter hopen
    exact h a adapter hadapter hopen

theorem Homed.moves {now : Instant} {mayDesert : Prop} {visit visit' : Visit}
    (hmoves : VisitMoves now mayDesert visit visit') (hstays : ¬mayDesert) (hi : i < count)
    (htidy : Tidy visit.cache count (Function.update stanceOf i visit.stance))
    (h : Homed visit.cache (Function.update stanceOf i visit.stance)) :
    Homed visit'.cache (Function.update stanceOf i visit'.stance) := by
  induction hmoves with
  | refl => exact h
  | tail hmoves hmove ih => exact ih.move hmove hstays (htidy.moves hmoves hi)

end Homed

/-- Two sessions for one key that are both at home are one. -/
theorem Tidy.eq_of_atHome {cache : Cache} {count : Nat} {stanceOf : Nat → Stance} {a b : AdapterId}
    {adapter adapter' : Adapter} (h : Tidy cache count stanceOf)
    (ha : AtHome cache stanceOf a) (hb : AtHome cache stanceOf b)
    (hadapter : cache.adapters[a]? = some adapter) (hadapter' : cache.adapters[b]? = some adapter')
    (hkey : adapter.key = adapter'.key) : a = b := by
  have hslot {c : AdapterId} {found : Adapter} {id : SlotId} (hc : cache.adapters[c]? = some found)
      (hid : (cache.slotAt id).adapter = some c) : (found.key, id) ∈ cache.mapped := by
    obtain ⟨other, hother, hmem⟩ := h.kept id c hid
    obtain rfl := Option.some.inj (hother.symm.trans hc)
    exact hmem
  have hcloses {c : AdapterId} {found : Adapter} {i : Nat} {seat : Seat}
      {rest : List (CacheKey × SlotId)} (hc : cache.adapters[c]? = some found)
      (hi : stanceOf i = .inside seat rest (.closes c)) :
      (found.key, seat.slot) ∈ cache.mapped ∧ (cache.slotAt seat.slot).adapter = none := by
    obtain ⟨hempty, other, hother, hotherKey⟩ := h.works i seat rest _ hi
    obtain rfl := Option.some.inj (hother.symm.trans hc)
    have hclaim := h.claimed i seat.claim (by rw [hi]; exact List.mem_cons_self)
    rw [hotherKey]
    exact ⟨hclaim, hempty⟩
  -- Both have their home at the one slot of the key.
  have hsame {id id' : SlotId} (hmem : (adapter.key, id) ∈ cache.mapped)
      (hmem' : (adapter'.key, id') ∈ cache.mapped) : id = id' :=
    (Prod.mk.inj (List.inj_on_of_nodup_map h.keys hmem hmem' hkey)).2
  rcases ha with ⟨id, hid⟩ | ⟨i, seat, rest, hi⟩
  · rcases hb with ⟨id', hid'⟩ | ⟨j, seat', rest', hj⟩
    · obtain rfl := hsame (hslot hadapter hid) (hslot hadapter' hid')
      exact Option.some.inj (hid.symm.trans hid')
    · obtain ⟨hmem, hempty⟩ := hcloses hadapter' hj
      obtain rfl := hsame (hslot hadapter hid) hmem
      rw [hempty] at hid
      cases hid
  · obtain ⟨hmem, hempty⟩ := hcloses hadapter hi
    rcases hb with ⟨id', hid'⟩ | ⟨j, seat', rest', hj⟩
    · obtain rfl := hsame hmem (hslot hadapter' hid')
      rw [hempty] at hid'
      cases hid'
    · have hslots := hsame hmem (hcloses hadapter' hj).1
      obtain rfl := h.inside_unique ⟨seat, rest, _, hi, rfl⟩ ⟨seat', rest', _, hj, hslots.symm⟩
      obtain ⟨-, -, hwork⟩ := Stance.inside.inj (hi.symm.trans hj)
      exact Work.closes.inj hwork

namespace CacheCourse

variable {course : CacheCourse} {event : CacheEvent}

/-! ### One session for each key -/

/-- An adapter that was made stays known, for the same key. -/
theorem made_next (course : CacheCourse) (event : CacheEvent) :
    Knows course.shared (cacheRules.next course event).shared := by
  obtain ⟨i, hmoves, -⟩ := visit_next course event
  exact Knows.of_moves hmoves

theorem made_after (servers : ServerTable) (settings : SearchSettings) (events : List CacheEvent) :
    ∀ moment ∈ cacheRules.history (start servers settings) events,
      Knows moment.1.shared (cacheRules.after (start servers settings) events).shared := by
  refine cacheRules.history_induction
    (motive := fun past course => ∀ moment ∈ past, Knows moment.1.shared course.shared)
    (by rintro _ ⟨⟩) (fun past course event h moment hmoment => ?_) events
  rcases List.mem_append.mp hmoment with hbefore | hlast
  · exact (h moment hbefore).trans (made_next course event)
  · obtain rfl := List.mem_singleton.mp hlast
    exact made_next course event

theorem homed_next (h : Homed course.shared course.stanceOf) (htidy : course.IsTidy)
    (hstays : ¬event.GivesUp) :
    Homed (cacheRules.next course event).shared (stanceOf (cacheRules.next course event)) := by
  obtain ⟨i, count, hi, htidy, hmoves, hstance⟩ := htidy.visit event
  rw [← Function.update_eq_self i course.stanceOf] at h
  rw [hstance]
  exact h.moves hmoves hstays hi htidy

theorem homed_after (servers : ServerTable) (settings : SearchSettings) (events : List CacheEvent)
    (hstay : ∀ event ∈ events, ¬event.GivesUp) :
    Homed (cacheRules.after (start servers settings) events).shared
      (stanceOf (cacheRules.after (start servers settings) events)) := by
  have hboth := cacheRules.history_induction
    (motive := fun past course =>
      ((∀ moment ∈ past, ¬moment.2.GivesUp) → Homed course.shared (stanceOf course)) ∧
        IsTidy course)
    ⟨fun _ a _ hadapter => (by cases hadapter), isTidy_start servers settings⟩
    (fun past course event h => ⟨fun hpast => homed_next
      (h.1 fun moment hmoment => hpast moment (List.mem_append_left _ hmoment)) h.2
      (hpast (course, event) List.mem_concat_self), h.2.next event⟩) events
  refine hboth.1 fun moment hmoment => hstay moment.2 ?_
  rw [← cacheRules.map_history (start servers settings) events]
  exact List.mem_map_of_mem hmoment

/-- What is promised of the sessions of a cache. -/
structure OneSession (past : List CacheMoment) (course : CacheCourse) : Prop where
  /-- Every adapter that was ever made is still known, for the same key. -/
  made : ∀ moment ∈ past, Knows moment.1.shared course.shared
  /-- Of all the sessions for one key, at most one is not closed. -/
  alone : ∀ (a b : AdapterId) (adapter adapter' : Adapter),
    course.shared.adapters[a]? = some adapter → course.shared.adapters[b]? = some adapter' →
      adapter.key = adapter'.key → adapter.session.state ≠ .closed →
        adapter'.session.state ≠ .closed → a = b
  /-- All who get hold of an adapter for one key get the same one, as long as nobody takes it out
      in between. -/
  same : ∀ (before between later : List CacheMoment) (first second : CacheMoment) (key : CacheKey)
    (a b : AdapterId), past = before ++ first :: between ++ second :: later →
      first.handle? = some (key, a) → second.handle? = some (key, b) →
        (∀ other ∈ between, other.evicted? ≠ some key) → a = b

/-- As long as no operation is given up, the cache has one session for each key, whatever the
    operations do side by side. -/
theorem oneSession_after (servers : ServerTable) (settings : SearchSettings)
    (events : List CacheEvent) (hstay : ∀ event ∈ events, ¬event.GivesUp) :
    OneSession (cacheRules.history (start servers settings) events)
      (cacheRules.after (start servers settings) events) := by
  obtain ⟨count, htidy⟩ := isTidy_after servers settings events
  have hhomed := homed_after servers settings events hstay
  constructor
  · exact made_after servers settings events
  · intro a b adapter adapter' hadapter hadapter' hkey hopen hopen'
    exact htidy.eq_of_atHome (hhomed a adapter hadapter hopen) (hhomed b adapter' hadapter' hopen')
      hadapter hadapter' hkey
  · intro before between later first second key a b hpast hfirst hsecond hstays
    -- The adapter is still in its slot when the second operation gets hold of it.
    obtain ⟨htidy, hcurrent⟩ := CrowdRules.history_until
      (fun course : CacheCourse => course.shared.current? key = some a)
      (fun moment : CacheMoment => moment.handle? = some (key, a))
      (fun moment : CacheMoment => moment.evicted? = some key) (isTidy_after servers settings)
      (fun _ _ htidy => htidy.current_of_handle)
      (fun _ _ htidy hcurrent hnot => (current_next htidy hcurrent).resolve_right hnot)
      hpast hfirst hstays
    have hnot : second.evicted? ≠ some key := by
      rw [CacheMoment.evicted?_of_handle? hsecond]
      rintro ⟨⟩
    have hkept := (current_next htidy hcurrent).resolve_right hnot
    exact Option.some.inj (hkept.symm.trans (htidy.current_of_handle hsecond))

/-- Two tasks look up one workspace side by side. -/
def twoLookups : List CacheEvent :=
  [.begin (.find default "/"), .begin (.find default "/"), .step 0 none, .step 1 none,
    .step 1 (some {}), .step 0 (some {}), .step 0 none, .step 1 none, .step 0 none]

/-- The task that asked for the guard first makes the adapter, and the other one gets it too. -/
theorem oneSession_twoLookups :
    (∀ event ∈ twoLookups, ¬event.GivesUp) ∧
      (cacheRules.history (start [(default, default)] {}) twoLookups).filterMap
        CacheMoment.handle? = [(⟨default, "/"⟩, 0), (⟨default, "/"⟩, 0)] ∧
      OneSession (cacheRules.history (start [(default, default)] {}) twoLookups)
        (cacheRules.after (start [(default, default)] {}) twoLookups) := by
  have hstay : ∀ event ∈ twoLookups, ¬event.GivesUp := by simp [twoLookups, CrowdEvent.GivesUp]
  have hhandles : (cacheRules.history (start [(default, default)] {}) twoLookups).filterMap
      CacheMoment.handle? = [(⟨default, "/"⟩, 0), (⟨default, "/"⟩, 0)] := by cbv
  exact ⟨hstay, hhandles, oneSession_after [(default, default)] {} twoLookups hstay⟩

end CacheCourse
end SymbolSearch
