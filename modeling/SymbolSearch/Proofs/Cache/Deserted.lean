import Mathlib
import SymbolSearch.Proofs.Cache.Parting
import SymbolSearch.Proofs.Cache.Sparing

/-!
# Slots that are left empty

* `CacheMoment.vain?` — the key for which somebody finds that there is nothing to be reset, and
  `CacheCourse.LeftInVain` a key to which nobody has come back since.
* `CacheCourse.deserted_iff_leftInVain` — those are the keys that lead to empty slots that nobody
  has.
* `CacheCourse.Swept` — what is promised; `CacheCourse.swept_after` shows it, and
  `CacheCourse.not_forall_full` that one reset is enough for a slot to be left empty.
-/

namespace SymbolSearch

variable {cache : Cache} {key : CacheKey} {id : SlotId} {claim : CacheKey × SlotId}

/-! ### One operation among others -/

namespace Tidy

variable {count : Nat} {stanceOf : Nat → Stance}

theorem holders_ne_zero (h : Tidy cache count stanceOf) {i : Nat}
    (hclaim : claim ∈ (stanceOf i).claims) : (cache.slotAt claim.2).holders ≠ 0 := by
  have hi : i < count := by
    by_contra hle
    rw [h.away i (Nat.le_of_not_lt hle)] at hclaim
    cases hclaim
  intro hzero
  rw [h.holders] at hzero
  have hnone := Finset.sum_eq_zero_iff.mp hzero i (Finset.mem_range.mpr hi)
  exact Stance.claimsOf_eq_zero.mp hnone claim hclaim rfl

/-- Everybody stands where he believes to stand. -/
theorem stands (h : Tidy cache count stanceOf) (i : Nat) : (stanceOf i).Stands cache where
  booked := fun claim hclaim =>
    ⟨h.lookup_of_mem (h.claimed i claim hclaim), h.holders_ne_zero hclaim⟩
  works := h.works i

/-- Nobody is counted for a slot whose key nobody has. -/
theorem holders_eq_zero (h : Tidy cache count stanceOf) (hmem : (key, id) ∈ cache.mapped)
    (hfree : ∀ i, ∀ claim ∈ (stanceOf i).claims, claim.1 ≠ key) :
    (cache.slotAt id).holders = 0 := by
  rw [h.holders]
  refine Finset.sum_eq_zero fun i _ => Stance.claimsOf_eq_zero.mpr ?_
  rintro claim hclaim rfl
  have hsame := List.inj_on_of_nodup_map h.ids (h.claimed i claim hclaim) hmem rfl
  exact hfree i claim hclaim (congrArg Prod.fst hsame)

/-- Nobody has a slot that is deserted. -/
theorem free_of_deserted (h : Tidy cache count stanceOf) (hdeserted : cache.Deserted key) :
    ∀ i, ∀ claim ∈ (stanceOf i).claims, claim.1 ≠ key := by
  rintro i claim hclaim rfl
  obtain ⟨id, hlookup, hunused, -⟩ := hdeserted
  have hfound := h.lookup_of_mem (h.claimed i claim hclaim)
  obtain rfl : claim.2 = id := Option.some.inj (hfound.symm.trans hlookup)
  exact h.holders_ne_zero hclaim hunused

/-- What belongs to a key: the slot to which it leads. -/
theorem fenced (h : Tidy cache count stanceOf) (key : CacheKey) :
    Belongings.Fenced ⟨(· = key), fun id => (key, id) ∈ cache.mapped, fun _ => False⟩ cache where
  slot_lt := fun id hid => h.mapped_lt (key, id) hid
  found := fun _ _ hmem hid =>
    congrArg Prod.fst (List.inj_on_of_nodup_map h.ids hmem hid rfl)
  made := fun _ hnone => hnone.elim
  kept := fun _ _ _ hnone => hnone.elim

end Tidy

namespace CacheMoment

/-- The key for which somebody finds at a moment that there is nothing to be reset. -/
def vain? (moment : CacheMoment) : Option CacheKey :=
  (cacheRules.step? moment).bind fun (_, task, progress) => task.vain? moment.1.shared progress

end CacheMoment

namespace CacheCourse

variable {course : CacheCourse} {event : CacheEvent}

/-- No operation has the slot of a key. -/
def Free (course : CacheCourse) (key : CacheKey) : Prop :=
  ∀ i, ∀ claim ∈ (course.stanceOf i).claims, claim.1 ≠ key

/-- What becomes of a slot that nobody has before an event or after it: nothing. -/
theorem IsTidy.deserted_next_iff (h : course.IsTidy) (hstays : ¬event.GivesUp)
    (hbefore : course.Free key) (hafter : Free (cacheRules.next course event) key) :
    (cacheRules.next course event).shared.Deserted key ↔ course.shared.Deserted key := by
  have hmoves := cacheRules.next_moves course event
  generalize cacheRules.next course event = course' at hafter hmoves ⊢
  have hput {i : Nat} {task : CacheTask} {input : Option Tree} {shared : Cache}
      {progress : Progress CacheTask CacheReply} {standing : Standing CacheTask (Option CacheReply)}
      (stands : course.task? i = some task)
      (step : task.step course.now input course.shared = (shared, progress))
      (hpoint : standing.point? = progress.point?)
      (hafter : Free (course.put i shared standing) key) :
      shared.Deserted key ↔ course.shared.Deserted key := by
    obtain ⟨count, htidy⟩ := h
    have hfenced := htidy.fenced key
    have hstance := stanceOf_of_task? stands
    have hspares : course.shared.Spares ⟨(· = key), fun id => (key, id) ∈ course.shared.mapped,
        fun _ => False⟩ (task.step course.now input course.shared).1 := by
      refine task.spares_step hfenced ⟨fun claim hclaim => ?_, fun _ _ _ _ => id⟩ ?_
        fun _ _ _ => id
      · rw [← hstance] at hclaim
        exact hfenced.lacks_of_mem (htidy.claimed i claim hclaim) (hbefore i claim hclaim)
      · intro claim hclaim
        refine hafter i claim ?_
        rw [stanceOf_put stands, Function.update_self, hpoint]
        rw [step] at hclaim
        exact hclaim
    rw [step] at hspares
    have hlookup : shared.mapped.lookup key = course.shared.mapped.lookup key :=
      hspares.lookup key rfl
    have hslot {id : SlotId} (hfound : course.shared.mapped.lookup key = some id) :
        shared.slotAt id = course.shared.slotAt id := by
      have hsame : shared.slots[id]? = course.shared.slots[id]? :=
        hspares.slot id (Cache.mem_mapped_of_lookup hfound)
      rw [Cache.slotAt, Cache.slotAt, hsame]
    constructor
    · rintro ⟨id, hfound, hunused, hempty⟩
      rw [hlookup] at hfound
      rw [hslot hfound] at hunused hempty
      exact ⟨id, hfound, hunused, hempty⟩
    · rintro ⟨id, hfound, hunused, hempty⟩
      rw [← hslot hfound] at hunused hempty
      exact ⟨id, hlookup.trans hfound, hunused, hempty⟩
  cases hmoves with
  | blocks | misses | begins | occurs | waits => exact Iff.rfl
  | moves i input task task' shared stands step =>
    refine hput stands step ?_ hafter
    rfl
  | finishes i input task result shared stands step =>
    refine hput stands step ?_ hafter
    rfl
  | givesUp i => exact absurd ⟨i, rfl⟩ hstays

/-- Whoever leaves a slot empty came in vain to reset it. -/
theorem IsTidy.vain_of_deserted (h : course.IsTidy) (hstays : ¬event.GivesUp)
    (hbefore : ¬course.Free key) (hdeserted : (cacheRules.next course event).shared.Deserted key) :
    CacheMoment.vain? (course, event) = some key := by
  have hafter : Free (cacheRules.next course event) key := by
    obtain ⟨count, htidy⟩ := h.next event
    exact htidy.free_of_deserted hdeserted
  obtain ⟨j, hj⟩ := not_forall.mp hbefore
  push Not at hj
  obtain ⟨claim, hclaim, rfl⟩ := hj
  have hmoves := cacheRules.next_moves course event
  generalize cacheRules.next course event = course' at hafter hdeserted hmoves
  have hsame (hstance : stanceOf course' j = course.stanceOf j) : False := by
    rw [← hstance] at hclaim
    exact hafter j claim hclaim rfl
  have hput {i : Nat} {task : CacheTask} {input : Option Tree} {shared : Cache}
      {progress : Progress CacheTask CacheReply} {standing : Standing CacheTask (Option CacheReply)}
      (stands : course.task? i = some task)
      (step : task.step course.now input course.shared = (shared, progress))
      (hblocked : progress ≠ .blocked) (hpoint : standing.point? = progress.point?)
      (hafter : Free (course.put i shared standing) claim.1)
      (hsame : stanceOf (course.put i shared standing) j = course.stanceOf j → False)
      (hdeserted : shared.Deserted claim.1) :
      CacheMoment.vain? (course, .step i input) = some claim.1 := by
    rw [CacheMoment.vain?, cacheRules.step?_step stands]
    have hstance : stanceOf (course.put i shared standing) =
        Function.update course.stanceOf i (progress.stance CacheTask.stance) := by
      rw [stanceOf_put stands, hpoint]
      rfl
    by_cases hji : j = i
    · subst hji
      obtain ⟨count, htidy⟩ := h
      have hstands := htidy.stands j
      rw [stanceOf_of_task? stands] at hclaim hstands
      have hgone : claim ∉ (progress.stance CacheTask.stance).claims := by
        intro hmem
        refine hafter j claim ?_ rfl
        rw [hstance, Function.update_self]
        exact hmem
      refine task.not_deserted_of_parts hstands ?_ hclaim ?_ ?_
      · rw [step]
        exact hblocked
      · rw [step]
        exact hgone
      · rw [step]
        exact hdeserted
    · rw [hstance, Function.update_of_ne hji] at hsame
      exact absurd rfl hsame
  cases hmoves with
  | blocks | misses | occurs | waits => exact (hsame rfl).elim
  | begins call =>
    refine (hsame ?_).elim
    rw [stanceOf_concat]
  | moves i input task task' shared stands step =>
    exact hput stands step (by rintro ⟨⟩) rfl hafter hsame hdeserted
  | finishes i input task result shared stands step =>
    exact hput stands step (by rintro ⟨⟩) rfl hafter hsame hdeserted
  | givesUp i => exact absurd ⟨i, rfl⟩ hstays

/-- Whoever comes in vain to reset a session leaves the slot empty, unless somebody else has it. -/
theorem IsTidy.deserted_of_vain (h : course.IsTidy)
    (hvain : CacheMoment.vain? (course, event) = some key)
    (hafter : Free (cacheRules.next course event) key) :
    (cacheRules.next course event).shared.Deserted key := by
  obtain ⟨⟨i, task, progress⟩, hstep, hkey⟩ := Option.bind_eq_some_iff.mp hvain
  obtain ⟨input, rfl, stands, hprogress⟩ := cacheRules.step?_eq_some hstep
  have htidy' := h.next (.step i input)
  obtain ⟨hold, result, rfl, rfl, hempty, rfl⟩ : ∃ hold result,
      task = .revive (.entering (.queued hold)) ∧ progress = .finished result ∧
        (course.shared.slotAt hold.slot).adapter = none ∧ hold.key = key := task.vain_cases hkey
  have hseat : (course.stanceOf i).seat? = some hold.seat := by
    rw [stanceOf_of_task? stands]
    rfl
  have hmem : (hold.key, hold.slot) ∈ course.shared.mapped := h.mem_mapped hseat
  have hleaves : (CacheTask.revive (.entering (.queued hold))).step course.now input course.shared =
      (course.shared.leaveHold hold, .finished (.revived (.ok false))) := by
    have hsecond : ((CacheTask.revive (.entering (.queued hold))).step course.now input
      course.shared).2 = .finished result := hprogress
    simp only [CacheTask.step, RevivePoint.step, Stepped.map] at hsecond ⊢
    rcases EntryPoint.step_queued input hold course.shared with hwaits | henters
    · rw [hwaits] at hsecond
      cases hsecond
    · simp only [henters, hempty]
      rfl
  rw [cacheRules.next_of_finished stands hleaves] at hafter htidy' ⊢
  obtain ⟨count', htidy'⟩ := htidy'
  have hmem' : (hold.key, hold.slot) ∈ (course.shared.leaveHold hold).mapped := hmem
  refine ⟨hold.slot, htidy'.lookup_of_mem hmem', htidy'.holders_eq_zero hmem' hafter, ?_⟩
  exact (adapter_leaveHold _ _ _).trans hempty

/-! ### What is left empty -/

/-- Somebody came in vain to reset the session for a key, and nobody has come back since. -/
def LeftInVain (past : List CacheMoment) (course : CacheCourse) (key : CacheKey) : Prop :=
  ∃ before moment later, past = before ++ moment :: later ∧
    CacheMoment.vain? moment = some key ∧ (∀ other ∈ later, Free other.1 key) ∧ course.Free key

/-- A key is deserted exactly if somebody left its slot in vain, as long as no operation is given
    up. -/
theorem deserted_iff_leftInVain (servers : ServerTable) (settings : SearchSettings)
    (events : List CacheEvent) (hstay : ∀ event ∈ events, ¬event.GivesUp) (key : CacheKey) :
    (cacheRules.after (start servers settings) events).shared.Deserted key ↔
      LeftInVain (cacheRules.history (start servers settings) events)
        (cacheRules.after (start servers settings) events) key := by
  have hall := cacheRules.history_induction
    (motive := fun past course => IsTidy course ∧
      ((∀ moment ∈ past, ¬moment.2.GivesUp) →
        (course.shared.Deserted key ↔ LeftInVain past course key)))
    ⟨isTidy_start servers settings, fun _ => ?_⟩ (fun past course event ih => ?_) events
  · refine hall.2 fun moment hmoment => hstay moment.2 ?_
    rw [← cacheRules.map_history (start servers settings) events]
    exact List.mem_map_of_mem hmoment
  · -- At the start no key leads anywhere.
    constructor
    · rintro ⟨id, hlookup, -⟩
      cases hlookup
    · rintro ⟨before, moment, later, hpast, -⟩
      simp at hpast
  · obtain ⟨htidy, hiff⟩ := ih
    refine ⟨htidy.next event, fun hstays => ?_⟩
    have hevent : ¬event.GivesUp := hstays _ List.mem_concat_self
    have hiff := hiff fun moment hmoment => hstays moment (List.mem_append_left _ hmoment)
    constructor
    · intro hdeserted
      have hafter : Free (cacheRules.next course event) key := by
        obtain ⟨count, htidy'⟩ := htidy.next event
        exact htidy'.free_of_deserted hdeserted
      by_cases hbefore : Free course key
      · -- It was deserted before, and this event has nothing to do with it.
        rw [htidy.deserted_next_iff hevent hbefore hafter, hiff] at hdeserted
        obtain ⟨before, moment, later, rfl, hvain, hfree, -⟩ := hdeserted
        refine ⟨before, moment, later ++ [(course, event)], by simp, hvain, ?_, hafter⟩
        intro other hother
        rcases List.mem_append.mp hother with hlater | hlast
        · exact hfree other hlater
        · obtain rfl := List.mem_singleton.mp hlast
          exact hbefore
      · exact ⟨past, (course, event), [], rfl, htidy.vain_of_deserted hevent hbefore hdeserted,
          by rintro _ ⟨⟩, hafter⟩
    · rintro ⟨before, moment, later, hpast, hvain, hfree, hafter⟩
      rcases List.eq_nil_or_concat later with rfl | ⟨rest, last, rfl⟩
      · obtain ⟨-, hlast⟩ := List.append_inj' hpast rfl
        obtain rfl := List.singleton_inj.mp hlast
        exact htidy.deserted_of_vain hvain hafter
      · have hpast' : past ++ [(course, event)] = (before ++ moment :: rest) ++ [last] := by
          rw [hpast]
          simp
        obtain ⟨rfl, hlast⟩ := List.append_inj' hpast' rfl
        obtain rfl := List.singleton_inj.mp hlast
        have hbefore : Free course key := hfree (course, event) (by simp)
        rw [htidy.deserted_next_iff hevent hbefore hafter, hiff]
        exact ⟨before, moment, rest, rfl, hvain, fun other hother => hfree other (by simp [hother]),
          hbefore⟩

/-- No operation of the cache is in progress; questions to its adapters may be. -/
def AtRest (course : CacheCourse) : Prop :=
  ∀ i task, course.task? i = some task → ∃ a point, task = .ask a point

end CacheCourse

namespace Cache

/-- Every key that leads to a slot leads to an adapter. -/
def Full (cache : Cache) : Prop :=
  ∀ entry ∈ cache.mapped, (cache.slotAt entry.2).adapter.isSome = true

/-- The report on the sessions has one entry for each key that leads to a slot, and no others. -/
def ListsMapped (cache : Cache) : Prop :=
  (cache.statuses.map SessionStatus.key).Perm (cache.mapped.map Prod.fst)

/-- The report has one entry for each key that leads to an adapter. -/
theorem perm_statuses {count : Nat} {stanceOf : Nat → Stance} (h : Tidy cache count stanceOf) :
    (cache.statuses.map SessionStatus.key).Perm
      ((cache.mapped.filter fun entry => (cache.slotAt entry.2).adapter.isSome).map Prod.fst) := by
  have hsorted := List.mergeSort_perm (cache.mapped.filterMap fun entry => do
    let session ← cache.session? (← (cache.slotAt entry.2).adapter)
    return (⟨entry.1, session.state, session.restarts, session.failures⟩ : SessionStatus))
    statusBefore
  refine (hsorted.map SessionStatus.key).trans (List.Perm.of_eq ?_)
  have hknown (id : SlotId) (a : AdapterId) (hkept : (cache.slotAt id).adapter = some a) :
      ∃ session, cache.session? a = some session := by
    obtain ⟨adapter, hadapter, -⟩ := h.kept id a hkept
    exact ⟨adapter.session, by rw [session?, hadapter]; rfl⟩
  induction cache.mapped with
  | nil => rfl
  | cons entry entries ih =>
    obtain ⟨key, id⟩ := entry
    cases hkept : (cache.slotAt id).adapter with
    | none => simpa [hkept] using ih
    | some a =>
      obtain ⟨session, hsession⟩ := hknown id a hkept
      simpa [hkept, hsession] using ih

theorem listsMapped_iff {count : Nat} {stanceOf : Nat → Stance} (h : Tidy cache count stanceOf) :
    cache.ListsMapped ↔ cache.Full := by
  have hlisted := perm_statuses h
  constructor
  · intro hlists
    have hlength := (hlisted.symm.trans hlists).length_eq
    rw [List.length_map, List.length_map] at hlength
    exact List.length_filter_eq_length_iff.mp hlength
  · intro hfull
    rw [List.filter_eq_self.mpr hfull] at hlisted
    exact hlisted

end Cache

namespace CacheCourse

variable {course : CacheCourse}

/-- Nobody has a slot while no operation is in progress. -/
theorem AtRest.free (h : course.AtRest) (key : CacheKey) : course.Free key := by
  intro i claim hclaim
  cases htask : course.task? i with
  | none =>
    rw [stanceOf, htask] at hclaim
    cases hclaim
  | some task =>
    obtain ⟨a, point, rfl⟩ := h i task htask
    rw [stanceOf_of_task? htask] at hclaim
    cases hclaim

/-- Then all keys lead to adapters, unless one is deserted. -/
theorem AtRest.full_iff (h : course.AtRest) (htidy : course.IsTidy) :
    course.shared.Full ↔ ∀ key, ¬course.shared.Deserted key := by
  obtain ⟨count, htidy⟩ := htidy
  constructor
  · rintro hfull key ⟨id, hlookup, -, hempty⟩
    have hsome := hfull (key, id) (Cache.mem_mapped_of_lookup hlookup)
    rw [hempty] at hsome
    cases hsome
  · rintro hnone ⟨key, id⟩ hmem
    by_contra hempty
    rw [Option.not_isSome_iff_eq_none] at hempty
    exact hnone key ⟨id, htidy.lookup_of_mem hmem, htidy.holders_eq_zero hmem (h.free key), hempty⟩

/-- What is promised of the slots of a cache. -/
structure Swept (past : List CacheMoment) (course : CacheCourse) : Prop where
  /-- A key leads to an empty slot that nobody has exactly if somebody came in vain to reset its
      session, and nobody has come back since. -/
  deserted : ∀ key, course.shared.Deserted key ↔ LeftInVain past course key
  /-- Unless somebody did, every key leads to an adapter while no operation is in progress. -/
  full : course.AtRest → (course.shared.Full ↔ ∀ key, ¬LeftInVain past course key)
  /-- Unless somebody did, the report on the sessions has all keys that lead to a slot. -/
  listed : course.AtRest → (course.shared.ListsMapped ↔ ∀ key, ¬LeftInVain past course key)

/-- As long as no operation is given up, the only slots that are left empty are those whose session
    somebody came in vain to reset. -/
theorem swept_after (servers : ServerTable) (settings : SearchSettings) (events : List CacheEvent)
    (hstay : ∀ event ∈ events, ¬event.GivesUp) :
    Swept (cacheRules.history (start servers settings) events)
      (cacheRules.after (start servers settings) events) := by
  have hdeserted := deserted_iff_leftInVain servers settings events hstay
  have htidy := isTidy_after servers settings events
  have hfull (hrest : AtRest (cacheRules.after (start servers settings) events)) :
      (cacheRules.after (start servers settings) events).shared.Full ↔
        ∀ key, ¬LeftInVain (cacheRules.history (start servers settings) events)
          (cacheRules.after (start servers settings) events) key := by
    rw [hrest.full_iff htidy]
    exact forall_congr' fun key => not_congr (hdeserted key)
  refine ⟨hdeserted, hfull, fun hrest => ?_⟩
  obtain ⟨count, htidy⟩ := htidy
  rw [Cache.listsMapped_iff htidy]
  exact hfull hrest

/-- A session is reset for which there was never an adapter. -/
def resetInVain : List CacheEvent :=
  [.begin (.revive default "/"), .step 0 none, .step 0 (some {}), .step 0 none]

theorem swept_after_resetInVain :
    (∀ event ∈ resetInVain, ¬event.GivesUp) ∧
      Swept (cacheRules.history (start [(default, default)] {}) resetInVain)
        (cacheRules.after (start [(default, default)] {}) resetInVain) := by
  have hstay : ∀ event ∈ resetInVain, ¬event.GivesUp := by
    simp [resetInVain, CrowdEvent.GivesUp]
  exact ⟨hstay, swept_after [(default, default)] {} resetInVain hstay⟩

/-- Its slot is left in the table, empty. -/
theorem not_forall_full :
    ¬∀ (servers : ServerTable) (settings : SearchSettings) (events : List CacheEvent),
      (∀ event ∈ events, ¬event.GivesUp) →
        AtRest (cacheRules.after (start servers settings) events) →
          (cacheRules.after (start servers settings) events).shared.Full ∧
            (cacheRules.after (start servers settings) events).shared.ListsMapped := by
  intro hall
  have hstay : ∀ event ∈ resetInVain, ¬event.GivesUp := by
    simp [resetInVain, CrowdEvent.GivesUp]
  have hended : (cacheRules.after (start [(default, default)] {}) resetInVain).tasks.all
      (fun standing => standing.point?.isNone) = true := by cbv
  have hempty : (cacheRules.after (start [(default, default)] {}) resetInVain).shared.mapped.map
      (fun entry => ((cacheRules.after (start [(default, default)] {}) resetInVain).shared.slotAt
        entry.2).adapter) = [none] := by cbv
  have hrest : AtRest (cacheRules.after (start [(default, default)] {}) resetInVain) := by
    intro i task htask
    have hnone := List.all_eq_true.mp hended _ (Crowd.mem_of_task? htask)
    cases hnone
  have hfull := (hall [(default, default)] {} resetInVain hstay hrest).1
  obtain ⟨entry, hmem, hslot⟩ := List.mem_map.mp (hempty ▸ List.mem_singleton_self none)
  have hsome := hfull entry hmem
  rw [hslot] at hsome
  cases hsome

end CacheCourse
end SymbolSearch
