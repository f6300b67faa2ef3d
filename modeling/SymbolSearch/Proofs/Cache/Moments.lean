import SymbolSearch.Proofs.Cache.Sessions
import SymbolSearch.Proofs.Cache.Slots
import SymbolSearch.Proofs.Cache.Visits

/-!
# Moments of a course of a cache

* `CacheMoment.handle?` — the adapter that an operation gets hold of at a moment, and
  `CacheMoment.evicted?` the key whose session is taken out of its slot.
* `CacheCourse.IsTidy` — the slots are in good order; `CacheCourse.isTidy_after` shows that they are
  so after any events.
* `CacheCourse.current_next` — an adapter leaves its slot only when it is taken out;
  `CacheCourse.IsTidy.current_of_handle` — whoever gets hold of one, it is in the slot of its key.
-/

namespace SymbolSearch

/-! ### Moments of a course -/

/-- The adapter that an operation works with after a step, or returns, with its key. -/
def CacheTask.handle? (task : CacheTask) :
    Progress CacheTask CacheReply → Option (CacheKey × AdapterId)
  | .moved after => after.stance.kept?
  | .finished (.found (.ok adapter)) | .finished (.ensured (.ok adapter)) =>
    task.stance.seat?.map fun seat => (seat.key, adapter)
  | _ => none

/-- Whether an operation has the guard of the slot of a key. -/
def CacheTask.Inside (key : CacheKey) (task : CacheTask) : Prop :=
  ∃ seat rest work, task.stance = .inside seat rest work ∧ seat.key = key

theorem CacheTask.stance_of_own? {task : CacheTask} {a : AdapterId} {own : SessionTask}
    (h : task.own? = some (a, own)) :
    ∃ seat rest, task.stance = .inside seat rest (.keeps a) ∨
      task.stance = .inside seat rest (.closes a) := by
  cases task with
  | find | findFor | ask => cases h
  | ensure point =>
    cases point with
    | entering | checking | pausing => cases h
    | trying attempt ensure =>
      cases h
      exact ⟨attempt.hold.seat, [], .inl rfl⟩
    | evicting hold id stop error =>
      cases h
      exact ⟨hold.seat, [], .inr rfl⟩
  | revive point =>
    cases point with
    | entering => cases h
    | resetting hold id guardPoint =>
      cases h
      exact ⟨hold.seat, [], .inl rfl⟩
  | disconnect point =>
    cases point with
    | starting | finding | working | queued => cases h
    | stopping key slot ticket rest closed id stop =>
      cases h
      exact ⟨⟨key, slot, ticket⟩, rest, .inr rfl⟩

/-- Whoever makes an attempt has the guard of the slot, and works with its adapter. -/
theorem ReconnectPoint.stance_of_attempt? {point : ReconnectPoint} {attempt : Attempt}
    (h : point.attempt? = some attempt) :
    (CacheTask.ensure point).stance = .inside attempt.hold.seat [] (.keeps attempt.adapter) := by
  cases point with
  | entering | pausing | evicting => cases h
  | trying found | checking found =>
    obtain rfl := Option.some.inj h
    rfl

namespace CacheMoment

/-- The adapter that an operation gets hold of at a moment, or still has, with its key. -/
def handle? (moment : CacheMoment) : Option (CacheKey × AdapterId) :=
  (cacheRules.step? moment).bind fun (_, task, progress) => task.handle? progress

/-- The session on which the operation works that goes on at a moment, and what it does there. -/
def own? (moment : CacheMoment) : Option (AdapterId × SessionTask) :=
  (cacheRules.step? moment).bind fun (_, task, _) => task.own?

/-- The key whose session is taken out of its slot at a moment, to be closed. -/
def evicted? (moment : CacheMoment) : Option CacheKey :=
  (cacheRules.step? moment).bind fun (_, task, progress) => task.evicts progress

/-- Nobody takes a session out who ends. -/
theorem evicted?_of_finished {moment : CacheMoment} {i : Nat} {task : CacheTask} {reply : CacheReply}
    (h : cacheRules.step? moment = some (i, task, .finished reply)) : moment.evicted? = none := by
  rw [evicted?, h]
  exact Stance.evicted_has _ _

/-- Nobody gets hold of an adapter by taking one out. -/
theorem evicted?_of_handle? {moment : CacheMoment} {handle : CacheKey × AdapterId}
    (h : moment.handle? = some handle) : moment.evicted? = none := by
  obtain ⟨⟨i, task, progress⟩, hstep, hhandle⟩ := Option.bind_eq_some_iff.mp h
  rw [evicted?, hstep]
  show task.evicts progress = none
  cases progress with
  | blocked => exact Stance.evicted_has _ _
  | finished result => exact Stance.evicted_has _ _
  | moved after =>
    have hkept : after.stance.kept? = some handle := hhandle
    have hclosing : after.stance.closing? = none := by
      cases hstance : after.stance with
      | has | queued => rfl
      | inside seat rest work =>
        rw [hstance] at hkept
        cases work with
        | nothing | keeps => rfl
        | closes => cases hkept
    show task.stance.evicted after.stance = none
    rw [Stance.evicted, hclosing]
    cases task.stance.closing? <;> rfl

end CacheMoment

/-! ### Any event -/

namespace CacheCourse

variable {course : CacheCourse} {i : Nat} {task : CacheTask} {shared : Cache}

theorem stanceOf_of_task? (hi : course.task? i = some task) : course.stanceOf i = task.stance := by
  rw [stanceOf, hi]
  rfl

theorem stanceOf_put (hi : course.task? i = some task)
    (standing : Standing CacheTask (Option CacheReply)) :
    stanceOf (course.put i shared standing) =
      Function.update course.stanceOf i
        ((standing.point?.map CacheTask.stance).getD (.has [])) := by
  funext j
  by_cases hj : j = i
  · subst hj
    rw [Function.update_self, stanceOf, Crowd.task?_put_self hi]
  · rw [Function.update_of_ne hj, stanceOf, Crowd.task?_put_of_ne (Ne.symm hj)]
    rfl

/-- A call that begins has no slot yet. -/
theorem stanceOf_concat (course : CacheCourse) (call : CacheCall) :
    stanceOf { course with tasks := course.tasks ++ [.waiting (cacheRules.enter call)] } =
      course.stanceOf := by
  funext j
  by_cases hj : j = course.tasks.length
  · rw [hj, stanceOf, Crowd.task?_concat_self, stanceOf, Crowd.task?_length]
    cases call <;> rfl
  · rw [stanceOf, Crowd.task?_concat_of_ne hj]
    rfl

/-- A step of an operation is nothing but moves. -/
theorem visit_put (hi : course.task? i = some task) {input : Option Tree}
    {progress : Progress CacheTask CacheReply} {mayDesert : Prop}
    (hstep : task.step course.now input course.shared = (shared, progress))
    (hblocked : progress ≠ .blocked) {standing : Standing CacheTask (Option CacheReply)}
    (hpoint : standing.point? = progress.point?) :
    VisitMoves course.now mayDesert ⟨course.shared, course.stanceOf i, none⟩
        ⟨shared, stanceOf (course.put i shared standing) i,
          CacheMoment.evicted? (course, .step i input)⟩ ∧
      stanceOf (course.put i shared standing) =
        Function.update course.stanceOf i (stanceOf (course.put i shared standing) i) := by
  have hvisit : VisitMoves course.now mayDesert ⟨course.shared, task.stance, none⟩
      ⟨(task.step course.now input course.shared).1,
        (task.step course.now input course.shared).2.stance CacheTask.stance,
        task.evicts (task.step course.now input course.shared).2⟩ :=
    task.visit_step input course.shared (by rw [hstep]; exact hblocked)
  rw [hstep] at hvisit
  have hevicted : CacheMoment.evicted? (course, .step i input) = task.evicts progress := by
    rw [CacheMoment.evicted?, cacheRules.step?_step hi]
    show task.evicts (task.step course.now input course.shared).2 = _
    rw [hstep]
  rw [stanceOf_put hi, Function.update_self, hevicted, stanceOf_of_task? hi, hpoint]
  exact ⟨hvisit, rfl⟩

/-- Every event is nothing but moves of one operation. -/
theorem visit_next (course : CacheCourse) (event : CacheEvent) :
    ∃ i, VisitMoves course.now event.GivesUp ⟨course.shared, course.stanceOf i, none⟩
        ⟨(cacheRules.next course event).shared, stanceOf (cacheRules.next course event) i,
          CacheMoment.evicted? (course, event)⟩ ∧
      stanceOf (cacheRules.next course event) =
        Function.update course.stanceOf i (stanceOf (cacheRules.next course event) i) := by
  have hmoves := cacheRules.next_moves course event
  generalize cacheRules.next course event = course' at hmoves
  cases hmoves with
  | blocks i input blocked =>
    have hnone : CacheMoment.evicted? (course, .step i input) = none := by
      rw [CacheMoment.evicted?]
      cases hstep : cacheRules.step? (course, .step i input) with
      | none => rfl
      | some step =>
        obtain ⟨j, task, progress⟩ := step
        obtain rfl := cacheRules.eq_blocked_of_step? blocked hstep
        exact Stance.evicted_has _ _
    rw [hnone]
    exact ⟨i, .refl, (Function.update_eq_self i _).symm⟩
  | misses i stands => exact ⟨i, .refl, (Function.update_eq_self i _).symm⟩
  | begins call =>
    rw [stanceOf_concat]
    exact ⟨0, .refl, (Function.update_eq_self 0 _).symm⟩
  | moves i input task task' shared stands step =>
    exact ⟨i, visit_put stands step (by rintro ⟨⟩) rfl⟩
  | finishes i input task result shared stands step =>
    exact ⟨i, visit_put stands step (by rintro ⟨⟩) rfl⟩
  | givesUp i task stands =>
    have hgives : CrowdEvent.GivesUp (.giveUp i : CacheEvent) = True :=
      propext ⟨fun _ => trivial, fun _ => ⟨i, rfl⟩⟩
    refine ⟨i, ?_⟩
    rw [stanceOf_put stands, Function.update_self, stanceOf_of_task? stands, hgives]
    exact ⟨task.visit_cancel course.shared, rfl⟩
  | occurs event =>
    refine ⟨0, .single (.touches course.shared (course.stanceOf 0) none event.adapter _ ?_),
      (Function.update_eq_self 0 _).symm⟩
    exact fun adapter _ => ⟨rfl, Session.shifts_undergo course.now event.event adapter.session⟩
  | waits time => exact ⟨0, .refl, (Function.update_eq_self 0 _).symm⟩

/-- The accounts of the sessions change only as an operation makes a step with its own session, or
    without the guard. -/
theorem accounted_next (course : CacheCourse) (event : CacheEvent) :
    course.shared.Accounted course.now (CacheMoment.own? (course, event))
      (cacheRules.next course event).shared := by
  have hmoves := cacheRules.next_moves course event
  generalize cacheRules.next course event = course' at hmoves
  have hput {i : Nat} {task : CacheTask} {input : Option Tree} {shared : Cache}
      {progress : Progress CacheTask CacheReply} (stands : course.task? i = some task)
      (step : task.step course.now input course.shared = (shared, progress)) :
      course.shared.Accounted course.now (CacheMoment.own? (course, .step i input)) shared := by
    have hown : CacheMoment.own? (course, .step i input) = task.own? := by
      rw [CacheMoment.own?, cacheRules.step?_step stands]
      rfl
    have haccounted : course.shared.Accounted course.now task.own?
        (task.step course.now input course.shared).1 := task.accounted_step input course.shared
    rw [step] at haccounted
    rw [hown]
    exact haccounted
  cases hmoves with
  | blocks | misses | begins | waits => exact (Cache.Keeps.refl _).accounted
  | moves i input task task' shared stands step => exact hput stands step
  | finishes i input task result shared stands step => exact hput stands step
  | givesUp i task stands => exact (task.keeps_cancel course.shared).accounted
  | occurs event =>
    exact Cache.Accounted.updateAdapter fun adapter _ =>
      .inl (Session.shifts_undergo course.now event.event adapter.session).drifts

/-- The slots are in good order. -/
def IsTidy (course : CacheCourse) : Prop := ∃ count, Tidy course.shared count course.stanceOf

/-- Every event is nothing but moves of one operation, which finds the slots in good order. -/
theorem IsTidy.visit (h : course.IsTidy) (event : CacheEvent) :
    ∃ i count, i < count ∧
      Tidy course.shared count (Function.update course.stanceOf i (course.stanceOf i)) ∧
      VisitMoves course.now event.GivesUp ⟨course.shared, course.stanceOf i, none⟩
        ⟨(cacheRules.next course event).shared, stanceOf (cacheRules.next course event) i,
          CacheMoment.evicted? (course, event)⟩ ∧
      stanceOf (cacheRules.next course event) =
        Function.update course.stanceOf i (stanceOf (cacheRules.next course event) i) := by
  obtain ⟨count, htidy⟩ := h
  obtain ⟨i, hmoves, hstance⟩ := visit_next course event
  have hlonger := htidy.mono (Nat.le_max_left count (i + 1))
  rw [← Function.update_eq_self i course.stanceOf] at hlonger
  exact ⟨i, max count (i + 1), Nat.le_max_right count (i + 1), hlonger, hmoves, hstance⟩

theorem IsTidy.next (h : course.IsTidy) (event : CacheEvent) :
    IsTidy (cacheRules.next course event) := by
  obtain ⟨i, count, hi, htidy, hmoves, hstance⟩ := h.visit event
  refine ⟨count, ?_⟩
  rw [hstance]
  exact htidy.moves hmoves hi

theorem isTidy_start (servers : ServerTable) (settings : SearchSettings) :
    (start servers settings).IsTidy := by
  refine ⟨0, List.nodup_nil, List.nodup_nil, by rintro _ ⟨⟩, by rintro _ _ ⟨⟩, fun _ _ => rfl,
    fun _ => rfl, fun _ => .nobody _ (fun _ => rfl) fun _ => Stance.not_isInside_has _, ?_, ?_⟩
  · rintro id a ⟨⟩
  · rintro i seat rest work ⟨⟩

theorem isTidy_after (servers : ServerTable) (settings : SearchSettings)
    (events : List CacheEvent) : IsTidy (cacheRules.after (start servers settings) events) :=
  cacheRules.history_induction (motive := fun _ course => IsTidy course)
    (isTidy_start servers settings) (fun _ _ event h => h.next event) events

/-- An adapter leaves its slot only when it is taken out. -/
theorem current_next (h : course.IsTidy) {event : CacheEvent} {key : CacheKey} {a : AdapterId}
    (hcurrent : course.shared.current? key = some a) :
    (cacheRules.next course event).shared.current? key = some a ∨
      CacheMoment.evicted? (course, event) = some key := by
  obtain ⟨i, count, hi, htidy, hmoves, -⟩ := h.visit event
  exact htidy.current_moves hmoves hi hcurrent

end CacheCourse

namespace CacheCourse

variable {course : CacheCourse} {event : CacheEvent} {i : Nat} {task : CacheTask} {key : CacheKey}
  {a : AdapterId}

/-! ### Adapters that operations get hold of -/

theorem adapter_leaveHold (cache : Cache) (hold : Hold) (id : SlotId) :
    ((cache.leaveHold hold).slotAt id).adapter = (cache.slotAt id).adapter := by
  have hleave : ((cache.leaveSlot hold.slot hold.ticket).slotAt id).adapter =
      (cache.slotAt id).adapter := by
    refine Cache.adapter_updateSlot ?_ id
    exact fun _ => rfl
  have hdrop : ((cache.leaveHold hold).slotAt id).adapter =
      ((cache.leaveSlot hold.slot hold.ticket).slotAt id).adapter := by
    refine Cache.adapter_updateSlot ?_ id
    exact fun _ => rfl
  exact hdrop.trans hleave

/-- A slot for which an operation waits, or whose guard it has, can be found. -/
theorem IsTidy.mem_mapped (h : course.IsTidy) {seat : Seat}
    (hseat : (course.stanceOf i).seat? = some seat) : (seat.key, seat.slot) ∈ course.shared.mapped := by
  obtain ⟨count, htidy⟩ := h
  refine htidy.claimed i seat.claim ?_
  cases hstance : course.stanceOf i with
  | has rest =>
    rw [hstance] at hseat
    cases hseat
  | queued found rest | inside found rest work =>
    rw [hstance] at hseat
    obtain rfl := Option.some.inj hseat
    exact List.mem_cons_self

/-- The adapter of one who works with it is in the slot. -/
theorem IsTidy.current_of_kept (h : course.IsTidy)
    (hkept : (course.stanceOf i).kept? = some (key, a)) : course.shared.current? key = some a := by
  have hstance : ∃ seat rest, course.stanceOf i = .inside seat rest (.keeps a) ∧ seat.key = key := by
    cases hstance : course.stanceOf i with
    | has | queued =>
      rw [hstance] at hkept
      cases hkept
    | inside seat rest work =>
      rw [hstance] at hkept
      cases work with
      | nothing | closes =>
        cases hkept
      | keeps found =>
        obtain ⟨rfl, rfl⟩ := Prod.mk.inj (Option.some.inj hkept)
        exact ⟨seat, rest, rfl, rfl⟩
  obtain ⟨seat, rest, hinside, rfl⟩ := hstance
  have hseat : (course.stanceOf i).seat? = some seat := by
    rw [hinside]
    rfl
  have hmem := h.mem_mapped hseat
  obtain ⟨count, htidy⟩ := h
  exact htidy.current_iff.mpr ⟨seat.slot, hmem, htidy.works i seat rest _ hinside⟩

/-- Whoever makes an attempt makes it with the adapter in the slot. -/
theorem IsTidy.adapter_of_attempt? (h : course.IsTidy) {point : ReconnectPoint} {attempt : Attempt}
    (hi : course.task? i = some (.ensure point)) (hattempt : point.attempt? = some attempt) :
    (course.shared.slotAt attempt.hold.slot).adapter = some attempt.adapter := by
  have hinside := (stanceOf_of_task? hi).trans (ReconnectPoint.stance_of_attempt? hattempt)
  obtain ⟨count, htidy⟩ := h
  exact htidy.works i attempt.hold.seat [] _ hinside

theorem IsTidy.current_of_attempt? (h : course.IsTidy) {point : ReconnectPoint} {attempt : Attempt}
    (hi : course.task? i = some (.ensure point)) (hattempt : point.attempt? = some attempt) :
    course.shared.current? attempt.hold.key = some attempt.adapter := by
  refine h.current_of_kept (i := i) ?_
  rw [stanceOf_of_task? hi, ReconnectPoint.stance_of_attempt? hattempt]
  rfl

/-- An adapter in the slot of a key is for this key. -/
theorem IsTidy.key_of_current (h : course.IsTidy) (hcurrent : course.shared.current? key = some a) :
    ∃ adapter, course.shared.adapters[a]? = some adapter ∧ adapter.key = key := by
  obtain ⟨count, htidy⟩ := h
  obtain ⟨id, hmem, hslot⟩ := htidy.current_iff.mp hcurrent
  obtain ⟨adapter, hadapter, hkept⟩ := htidy.kept id a hslot
  have hsame := List.inj_on_of_nodup_map htidy.ids hkept hmem rfl
  exact ⟨adapter, hadapter, (Prod.mk.inj hsame).1⟩

/-- Whoever works on the session in the slot of a key has the guard of this slot. -/
theorem IsTidy.inside_of_own (h : course.IsTidy) (hi : course.task? i = some task)
    {own : SessionTask} (hown : task.own? = some (a, own))
    (hcurrent : course.shared.current? key = some a) : task.Inside key := by
  obtain ⟨adapter, hadapter, hkey⟩ := h.key_of_current hcurrent
  obtain ⟨count, htidy⟩ := h
  obtain ⟨seat, rest, hstance⟩ := task.stance_of_own? hown
  refine ⟨seat, rest, ?_⟩
  rcases hstance with hkeeps | hcloses
  · have hinside : course.stanceOf i = .inside seat rest (.keeps a) :=
      (stanceOf_of_task? hi).trans hkeeps
    obtain ⟨found, hfound, hseat⟩ := htidy.key_eq hinside (htidy.works i seat rest _ hinside)
    obtain rfl : adapter = found := Option.some.inj (hadapter.symm.trans hfound)
    exact ⟨_, hkeeps, hseat.symm.trans hkey⟩
  · have hinside : course.stanceOf i = .inside seat rest (.closes a) :=
      (stanceOf_of_task? hi).trans hcloses
    obtain ⟨-, found, hfound, hseat⟩ := htidy.works i seat rest _ hinside
    obtain rfl : adapter = found := Option.some.inj (hadapter.symm.trans hfound)
    exact ⟨_, hcloses, hseat.symm.trans hkey⟩

/-- Only one operation has the guard of the slot of a key. -/
theorem IsTidy.eq_of_inside (h : course.IsTidy) {j : Nat} {other : CacheTask}
    (hi : course.task? i = some task) (hj : course.task? j = some other) (htask : task.Inside key)
    (hother : other.Inside key) : i = j := by
  obtain ⟨seat, rest, work, hstance, rfl⟩ := htask
  obtain ⟨seat', rest', work', hstance', hkey⟩ := hother
  have hi' := (stanceOf_of_task? hi).trans hstance
  have hj' := (stanceOf_of_task? hj).trans hstance'
  have hseat : (course.stanceOf i).seat? = some seat := by
    rw [hi']
    rfl
  have hseat' : (course.stanceOf j).seat? = some seat' := by
    rw [hj']
    rfl
  have hmem := h.mem_mapped hseat
  have hmem' := h.mem_mapped hseat'
  obtain ⟨count, htidy⟩ := h
  have hslots := List.inj_on_of_nodup_map htidy.keys hmem hmem' hkey.symm
  exact htidy.inside_unique ⟨seat, rest, work, hi', rfl⟩
    ⟨seat', rest', work', hj', (Prod.mk.inj hslots).2.symm⟩

/-- Nobody else works on the session of an attempt. -/
theorem IsTidy.drifts_of_attempt? (h : course.IsTidy) {point : ReconnectPoint} {attempt : Attempt}
    (hi : course.task? i = some (.ensure point)) (hattempt : point.attempt? = some attempt)
    (hother : ∀ task progress, cacheRules.step? (course, event) ≠ some (i, task, progress))
    {account : Account} (haccount : course.shared.account? attempt.adapter = some account) :
    ∃ account', (cacheRules.next course event).shared.account? attempt.adapter = some account' ∧
      account.Drifts course.now account' := by
  obtain ⟨s, hs, rfl⟩ := Option.map_eq_some_iff.mp haccount
  obtain ⟨account', haccount', hdrifts | ⟨own, hown, -⟩⟩ :=
    accounted_next course event attempt.adapter s hs
  · exact ⟨account', haccount', hdrifts⟩
  · obtain ⟨⟨j, task, progress⟩, hstep, hmine⟩ := Option.bind_eq_some_iff.mp hown
    obtain ⟨input, rfl, stands, -⟩ := cacheRules.step?_eq_some hstep
    have hinside := h.inside_of_own stands hmine (h.current_of_attempt? hi hattempt)
    have hattends : (CacheTask.ensure point).Inside attempt.hold.key :=
      ⟨attempt.hold.seat, [], _, ReconnectPoint.stance_of_attempt? hattempt, rfl⟩
    obtain rfl := h.eq_of_inside stands hi hinside hattends
    exact absurd hstep (hother task progress)

/-- The adapter that is found is in its slot from then on. -/
theorem adapter_adapterIn {cache : Cache} {id : SlotId} (hlt : id < cache.slots.length)
    (key : CacheKey) (server : ServerConfig) :
    ((cache.adapterIn key server id).2.slotAt id).adapter = some (cache.adapterIn key server id).1 := by
  cases hslot : (cache.slotAt id).adapter with
  | none =>
    simp only [Cache.adapterIn, hslot]
    exact congrArg Slot.adapter (Cache.slotAt_updateSlot_self (by exact hlt) _)
  | some found =>
    simp only [Cache.adapterIn, hslot]

theorem mapped_adapterIn (cache : Cache) (key : CacheKey) (server : ServerConfig) (id : SlotId) :
    (cache.adapterIn key server id).2.mapped = cache.mapped := by
  unfold Cache.adapterIn
  split <;> rfl

/-- Whoever finds an adapter had the guard of its slot. -/
theorem found_cases {files : Option Tree} {entry : EntryPoint} {cache m : Cache}
    (h : cache.stepAdapterFor files entry = (m, .finished (.ok a))) :
    ∃ hold, entry = .queued hold ∧ (cache.adapterIn hold.key hold.server hold.slot).1 = a ∧
      m = (cache.adapterIn hold.key hold.server hold.slot).2.leaveHold hold := by
  unfold Cache.stepAdapterFor at h
  split at h
  next => cases h
  next => cases h
  next => cases h
  next cache' hold hentry =>
    obtain ⟨rfl, hqueued⟩ := entry.finished_cases hentry
    obtain ⟨rfl, hresult⟩ := Prod.mk.inj h
    exact ⟨hold, hqueued hold rfl, Except.ok.inj (Progress.finished.inj hresult), rfl⟩

/-- Whoever gets a session had looked at it. -/
theorem ensured_cases {now : Instant} {files : Option Tree} {point : ReconnectPoint}
    {cache m : Cache} (h : point.step now files cache = (m, .finished (.ok a))) :
    ∃ attempt guardPoint, point = .checking attempt guardPoint ∧ attempt.adapter = a ∧
      (∀ id, (m.slotAt id).adapter = (cache.slotAt id).adapter) ∧ m.mapped = cache.mapped := by
  have hmoves := point.step_moves now files cache
  rw [h] at hmoves
  generalize hstepped : (m, Progress.finished (Except.ok a)) = stepped at hmoves
  cases hmoves with
  | succeeds attempt ticket s found live =>
    have hslot := ReconnectPoint.slotAt_stepSession cache attempt.adapter
      (Session.stepAlive (.queued ticket))
    have hmapped := ReconnectPoint.mapped_stepSession cache attempt.adapter
      (Session.stepAlive (.queued ticket))
    generalize (cache.stepSession attempt.adapter (Session.stepAlive (.queued ticket))).1 = middle
      at hslot hmapped hstepped
    unfold ReconnectPoint.succeed at hstepped
    obtain ⟨rfl, hresult⟩ := Prod.mk.inj hstepped
    refine ⟨attempt, _, rfl, (Except.ok.inj (Progress.finished.inj hresult)).symm, fun id => ?_, ?_⟩
    · rw [adapter_leaveHold, ← hslot]
      split <;> rfl
    · rw [← hmapped]
      split <;> rfl
  | blocks | comes | refuses | begins | tries | checks | exhausts | pauses | evicts | misses | stops
  | ends => cases hstepped

/-- Whatever adapter an operation gets hold of is in the slot of its key. -/
theorem IsTidy.current_of_handle (h : course.IsTidy)
    (hgets : CacheMoment.handle? (course, event) = some (key, a)) :
    (cacheRules.next course event).shared.current? key = some a := by
  have htidy' := h.next event
  obtain ⟨⟨i, task, progress⟩, hstep, hhandle⟩ := Option.bind_eq_some_iff.mp hgets
  obtain ⟨input, rfl, stands, hprogress⟩ := cacheRules.step?_eq_some hstep
  have hstance := stanceOf_of_task? stands
  have hprogress : (task.step course.now input course.shared).2 = progress := hprogress
  generalize hstepped : task.step course.now input course.shared = stepped at hprogress
  obtain ⟨m, progress'⟩ := stepped
  obtain rfl : progress' = progress := hprogress
  cases progress' with
  | blocked => cases hhandle
  | moved after =>
    rw [cacheRules.next_of_moved stands hstepped] at htidy' ⊢
    refine htidy'.current_of_kept (i := i) ?_
    rw [stanceOf_put stands, Function.update_self]
    exact hhandle
  | finished reply =>
    rw [cacheRules.next_of_finished stands hstepped] at htidy' ⊢
    obtain ⟨count, htidy'⟩ := htidy'
    have hcurrent {hold : Hold} (hseat : task.stance.seat? = some hold.seat)
        (hmapped : m.mapped = course.shared.mapped)
        (hslot : (m.slotAt hold.slot).adapter = some a) : m.current? hold.key = some a := by
      have hmem : (hold.key, hold.slot) ∈ course.shared.mapped := h.mem_mapped (hstance ▸ hseat)
      exact htidy'.current_iff.mpr ⟨hold.slot, hmapped ▸ hmem, hslot⟩
    have hsecond : (task.step course.now input course.shared).2 = .finished reply := by
      rw [hstepped]
    have hfirst : (task.step course.now input course.shared).1 = m := by rw [hstepped]
    show m.current? key = some a
    cases task with
    | find entry =>
      obtain ⟨result, hresult, rfl⟩ := Progress.eq_finished_of_map hsecond
      cases result with
      | error error => cases hhandle
      | ok found =>
        obtain ⟨hold, rfl, hid, hcache⟩ := found_cases (Prod.ext hfirst hresult)
        obtain ⟨rfl, rfl⟩ := Prod.mk.inj (Option.some.inj hhandle)
        have hseat : (course.stanceOf i).seat? = some hold.seat := by
          rw [hstance]
          rfl
        have hmem : (hold.key, hold.slot) ∈ course.shared.mapped := h.mem_mapped hseat
        have hlt : hold.slot < course.shared.slots.length := by
          obtain ⟨count, htidy⟩ := h
          exact htidy.mapped_lt _ hmem
        refine hcurrent rfl ?_ ?_
        · rw [hcache]
          exact mapped_adapterIn course.shared hold.key hold.server hold.slot
        · rw [hcache, adapter_leaveHold, adapter_adapterIn hlt, hid]
    | ensure point =>
      obtain ⟨result, hresult, rfl⟩ := Progress.eq_finished_of_map hsecond
      cases result with
      | error error => cases hhandle
      | ok found =>
        obtain ⟨attempt, guardPoint, rfl, rfl, hslots, hmapped⟩ :=
          ensured_cases (Prod.ext hfirst hresult)
        obtain ⟨rfl, rfl⟩ := Prod.mk.inj (Option.some.inj hhandle)
        refine hcurrent rfl hmapped ?_
        obtain ⟨count, htidy⟩ := h
        rw [hslots]
        exact htidy.works i attempt.hold.seat [] (.keeps attempt.adapter) hstance
    | findFor workspace file =>
      simp only [CacheTask.step] at hsecond
      split at hsecond
      · cases hsecond
        cases hhandle
      · cases hsecond
    | revive point =>
      obtain ⟨result, -, rfl⟩ := Progress.eq_finished_of_map hsecond
      cases hhandle
    | disconnect point =>
      obtain ⟨result, -, rfl⟩ := Progress.eq_finished_of_map hsecond
      cases hhandle
    | ask id point =>
      obtain ⟨result, -, rfl⟩ := Progress.eq_finished_of_map hsecond
      cases hhandle

end CacheCourse
end SymbolSearch
