import SymbolSearch.Proofs.Cache.Exhaustion

/-!
# How getting a session goes on and ends

What an operation that gets a session has done so far, as the past of the course tells it.

* `launchesOf` — the number of launches that an operation has asked for.
* `CacheMoment.Begins`, `CacheMoment.Looks` and `CacheMoment.Evicts` — the moments at which an attempt
  begins, at which its session is found to take requests, and at which a session is taken out.
* `ReconnectPoint.Traced` — what lies behind an operation, by the point at which it stands;
  `CacheCourse.tracked_after` shows that it does.
* `EnsureEnd` — the ways in which a call that gets a session can end.
* `CacheCourse.Ensures` — what is promised of these calls; `CacheCourse.ensures_after` shows it for any
  course of a cache.
-/

namespace SymbolSearch

/-! ### Attempts -/

/-! ### Moments of an operation -/

namespace CacheMoment

/-- The cache after a moment. -/
def after (moment : CacheMoment) : Cache := (cacheRules.next moment.1 moment.2).shared

/-- Whether an operation begins an attempt, which knows the restarts of its session from then. -/
def Begins (i : Nat) (attempt : Attempt) (moment : CacheMoment) : Prop :=
  ∃ point ticket session, cacheRules.step? moment =
      some (i, .ensure point, .moved (.ensure (.trying attempt (.queued ticket)))) ∧
    point.attempt? = none ∧ moment.after.session? attempt.adapter = some session ∧
    session.restarts = attempt.restarts

/-- Whether an operation finds that the session of its attempt takes requests, and goes on to look
    whether the server runs. -/
def Looks (i : Nat) (attempt : Attempt) (moment : CacheMoment) : Prop :=
  ∃ point guardPoint session, cacheRules.step? moment =
      some (i, .ensure point, .moved (.ensure (.checking attempt guardPoint))) ∧
    moment.after.session? attempt.adapter = some session ∧ session.state.acceptsRequests = true

/-- Whether an operation takes an adapter out of the slot of a key. -/
def Evicts (i : Nat) (key : CacheKey) (a : AdapterId) (moment : CacheMoment) : Prop :=
  ∃ task progress, cacheRules.step? moment = some (i, task, progress) ∧
    task.evicts progress = some key ∧ moment.1.shared.current? key = some a

end CacheMoment

/-- The number of launches that an operation has asked for. -/
def launchesOf : List CacheMoment → Nat → Nat :=
  cacheRules.stepsOf fun task progress => (task.launch? progress).isSome

/-- Whoever asks for a launch goes on. -/
theorem CacheTask.launch?_of_not_moved {task : CacheTask} {progress : Progress CacheTask CacheReply}
    (h : ∀ after, progress ≠ .moved after) : task.launch? progress = none := by
  cases hlaunch : task.launch? progress with
  | none => rfl
  | some key =>
    obtain ⟨_, _, _, _, -, hmoved, -⟩ := CacheTask.eq_of_launch? hlaunch
    exact absurd hmoved (h _)

/-! ### What lies behind an operation -/

/-- Whether an error is one for which the session is evicted: the server cannot be launched at all,
    or all attempts have failed. -/
def CacheError.IsFinal (attempts : Nat) (ecosystem : Ecosystem) (error : CacheError) : Prop :=
  (∃ command, error = .session ecosystem (.commandNotFound command)) ∨
    error = .reconnectFailed ecosystem attempts

/-- What lies behind one who gets a session, and may make a number of attempts. -/
def ReconnectPoint.Traced (attempts : Nat) (past : List CacheMoment) (i : Nat) :
    ReconnectPoint → Prop
  | .entering _ => launchesOf past i = 0
  | .trying attempt ensure =>
    attempt.failed < attempts ∧ (∃ moment ∈ past, moment.Begins i attempt) ∧
      launchesOf past i ≤ attempt.failed + if ensure.starts then 1 else 0
  | .checking attempt _ =>
    attempt.failed < attempts ∧ (∃ moment ∈ past, moment.Begins i attempt) ∧
      (∃ moment ∈ past, moment.Looks i attempt) ∧ launchesOf past i ≤ attempt.failed + 1
  | .pausing _ failed _ => failed < attempts ∧ launchesOf past i ≤ failed
  | .evicting hold a _ error =>
    error.IsFinal attempts hold.key.ecosystem ∧ (∃ moment ∈ past, moment.Evicts i hold.key a) ∧
      launchesOf past i ≤ attempts

namespace ReconnectPoint

variable {attempts : Nat} {past past' : List CacheMoment} {i : Nat} {point : ReconnectPoint}

/-- More has happened, but no launch of this operation. -/
theorem Traced.mono (h : point.Traced attempts past i) (hsub : past ⊆ past')
    (hlaunches : launchesOf past' i = launchesOf past i) : point.Traced attempts past' i := by
  have hlater {happens : CacheMoment → Prop} (hbefore : ∃ moment ∈ past, happens moment) :
      ∃ moment ∈ past', happens moment := by
    obtain ⟨moment, hmem, hhappens⟩ := hbefore
    exact ⟨moment, hsub hmem, hhappens⟩
  cases point with
  | entering entry => exact hlaunches.trans h
  | trying attempt ensure =>
    obtain ⟨hfailed, hbegun, hbound⟩ := h
    exact ⟨hfailed, hlater hbegun, hlaunches ▸ hbound⟩
  | checking attempt guardPoint =>
    obtain ⟨hfailed, hbegun, hlooked, hbound⟩ := h
    exact ⟨hfailed, hlater hbegun, hlater hlooked, hlaunches ▸ hbound⟩
  | pausing hold failed resume =>
    obtain ⟨hfailed, hbound⟩ := h
    exact ⟨hfailed, hlaunches ▸ hbound⟩
  | evicting hold a stop error =>
    obtain ⟨hfinal, htaken, hbound⟩ := h
    exact ⟨hfinal, hlater htaken, hlaunches ▸ hbound⟩

theorem Traced.launches_le (h : point.Traced attempts past i) : launchesOf past i ≤ attempts := by
  cases point with
  | entering entry =>
    have hnone : launchesOf past i = 0 := h
    rw [hnone]
    exact Nat.zero_le _
  | trying attempt ensure =>
    obtain ⟨hfailed, -, hbound⟩ := h
    have hstarts : (if ensure.starts then 1 else 0) ≤ 1 := by split <;> omega
    omega
  | checking attempt guardPoint =>
    obtain ⟨hfailed, -, -, hbound⟩ := h
    omega
  | pausing hold failed resume =>
    obtain ⟨hfailed, hbound⟩ := h
    omega
  | evicting hold a stop error => exact h.2.2

/-- What lies behind an attempt that goes on. -/
theorem Traced.of_attempt? (h : point.Traced attempts past i) {attempt : Attempt}
    (hattempt : point.attempt? = some attempt) :
    attempt.failed < attempts ∧ (∃ moment ∈ past, moment.Begins i attempt) ∧
      launchesOf past i ≤ attempt.failed + 1 := by
  cases point with
  | entering | pausing | evicting => cases hattempt
  | trying found ensure =>
    obtain rfl := Option.some.inj hattempt
    obtain ⟨hfailed, hbegun, hbound⟩ := h
    have hstarts : (if ensure.starts then 1 else 0) ≤ 1 := by split <;> omega
    exact ⟨hfailed, hbegun, by omega⟩
  | checking found guardPoint =>
    obtain rfl := Option.some.inj hattempt
    obtain ⟨hfailed, hbegun, -, hbound⟩ := h
    exact ⟨hfailed, hbegun, hbound⟩

end ReconnectPoint

/-- A step of an attempt asks for a launch, or it does not start a server that was not being
    started. -/
theorem EnsurePoint.starts_step {now : Instant} {s : Session} {ensure ensure' : EnsurePoint}
    (h : (ensure.step now s).2 = .moved ensure') :
    (∃ ticket ticket', ensure = .queued ticket ∧ ensure' = .launching ticket') ∨
      ensure'.starts = ensure.starts := by
  have hblocked : ((SessionTask.ensure ensure).step now s).2 ≠ .blocked := by
    show ((ensure.step now s).map SessionTask.ensure SessionReply.ensured).2 ≠ .blocked
    rw [Stepped.map, h]
    rintro ⟨⟩
  have haccounted := (SessionTask.ensure ensure).accounted_step now s hblocked
  have hprogress : ((SessionTask.ensure ensure).step now s).2 = .moved (.ensure ensure') :=
    congrArg (Progress.map SessionTask.ensure SessionReply.ensured) h
  generalize (SessionTask.ensure ensure).step now s = stepped at haccounted hprogress
  cases haccounted with
  | launches s' progress asks =>
    obtain ⟨ticket, ticket', htask, hmoved⟩ := SessionTask.eq_of_asksForLaunch asks
    cases htask
    rw [hmoved] at hprogress
    cases hprogress
    exact .inl ⟨ticket, ticket', rfl, rfl⟩
  | resets s' progress ticket asks reset =>
    obtain rfl : progress = _ := hprogress
    cases reset
  | effects s' progress asks not_reset effect starts => exact .inr (starts _ hprogress)

/-! ### Those who get a session -/

/-- Whoever does something else goes on to do something else. -/
theorem CacheTask.step_ne_ensure {now : Instant} {input : Option Tree} {cache : Cache}
    {task task' : CacheTask} (hstep : (task.step now input cache).2 = .moved task')
    (hkind : ∀ point, task ≠ .ensure point) : ∀ point, task' ≠ .ensure point := by
  cases task with
  | ensure point => exact absurd rfl (hkind point)
  | findFor workspace file =>
    simp only [CacheTask.step] at hstep
    split at hstep
    · cases hstep
    · cases hstep
      rintro _ ⟨⟩
  | find | revive | disconnect | ask =>
    obtain ⟨_, -, rfl⟩ := Progress.eq_moved_of_map hstep
    rintro _ ⟨⟩

namespace CacheCourse

/-- The slots are in good order, and the settings are as they were given. -/
def Settled (settings : SearchSettings) (course : CacheCourse) : Prop :=
  course.IsTidy ∧ course.shared.settings = settings

theorem settings_next (course : CacheCourse) (event : CacheEvent) :
    (cacheRules.next course event).shared.settings = course.shared.settings := by
  obtain ⟨i, hmoves, -⟩ := visit_next course event
  exact hmoves.given.1

theorem settled_after (servers : ServerTable) (settings : SearchSettings)
    (events : List CacheEvent) :
    Settled settings (cacheRules.after (start servers settings) events) := by
  refine ⟨isTidy_after servers settings events, ?_⟩
  refine cacheRules.history_induction
    (motive := fun _ course => course.shared.settings = settings) rfl ?_ events
  intro past course event h
  exact (settings_next course event).trans h

/-- What holds of everybody who gets a session when he begins, when he goes on, and while he waits,
    holds of all of them that have not ended. -/
theorem reconnect_induction (servers : ServerTable) (settings : SearchSettings)
    (holds : List CacheMoment → CacheCourse → Nat → ReconnectPoint → Prop)
    (hbegins : ∀ past course ecosystem workspace, (∀ moment ∈ past, ∀ task progress,
        cacheRules.step? moment ≠ some (course.tasks.length, task, progress)) →
      holds (past ++ [(course, .begin (.ensure ecosystem workspace))])
        (cacheRules.next course (.begin (.ensure ecosystem workspace))) course.tasks.length
        (.entering (.starting ecosystem workspace)))
    (hmoves : ∀ past course i input point point' m, Settled settings course →
      course.task? i = some (.ensure point) →
      point.step course.now input course.shared = (m, .moved point') →
      holds past course i point →
      holds (past ++ [(course, .step i input)]) (course.put i m (.waiting (.ensure point'))) i
        point')
    (hblocks : ∀ past course i input point, course.task? i = some (.ensure point) →
      (point.step course.now input course.shared).2 = .blocked → holds past course i point →
      holds (past ++ [(course, .step i input)]) course i point)
    (hothers : ∀ past course event i point, Settled settings course →
      course.task? i = some (.ensure point) →
      (∀ task progress, cacheRules.step? (course, event) ≠ some (i, task, progress)) →
      holds past course i point →
      holds (past ++ [(course, event)]) (cacheRules.next course event) i point)
    (events : List CacheEvent) {i : Nat} {point : ReconnectPoint}
    (hi : (cacheRules.after (start servers settings) events).task? i = some (.ensure point)) :
    holds (cacheRules.history (start servers settings) events)
      (cacheRules.after (start servers settings) events) i point := by
  refine CrowdRules.standing_induction (Settled settings)
    (fun past course i task => ∀ point, task = .ensure point → holds past course i point)
    (settled_after servers settings) (by rintro i; rfl) ?_ ?_ ?_ ?_ events hi point rfl
  · rintro past course call - hborn point hpoint
    cases call with
    | ensure ecosystem workspace =>
      cases hpoint
      exact hbegins past course ecosystem workspace hborn
    | find | findFor | revive | disconnect | disconnectAll | ask => cases hpoint
  · rintro past course i input task task' shared hsettled stands step ih point' rfl
    cases task with
    | ensure point =>
      have hmapped : (point.step course.now input course.shared).map CacheTask.ensure
          CacheReply.ensured = (shared, .moved (.ensure point')) := step
      obtain ⟨found, hpoint, hsame⟩ := Progress.eq_moved_of_map (congrArg Prod.snd hmapped)
      cases hsame
      have hshared : (point.step course.now input course.shared).1 = shared :=
        congrArg Prod.fst hmapped
      exact hmoves past course i input point point' shared hsettled stands
        (Prod.ext hshared hpoint) (ih point rfl)
    | find | findFor | revive | disconnect | ask =>
      exact absurd rfl (CacheTask.step_ne_ensure (congrArg Prod.snd step) (by rintro _ ⟨⟩) point')
  · rintro past course i input task stands blocked ih point rfl
    exact hblocks past course i input point stands (Progress.eq_blocked_of_map blocked)
      (ih point rfl)
  · rintro past course event i task hsettled stands hother ih point rfl
    exact hothers past course event i point hsettled stands hother (ih point rfl)

variable {attempts : Nat} {past : List CacheMoment} {course : CacheCourse} {event : CacheEvent}
  {i : Nat} {point point' : ReconnectPoint} {input : Option Tree} {m : Cache}

/-- Whoever gets a session and goes on has behind him what he has done now. -/
theorem traced_step (htidy : course.IsTidy) (hattempts : course.shared.settings.attempts = attempts)
    (hi : course.task? i = some (.ensure point))
    (hstep : point.step course.now input course.shared = (m, .moved point'))
    (h : point.Traced attempts past i) :
    point'.Traced attempts (past ++ [(course, .step i input)]) i := by
  have hmoves := point.step_moves course.now input course.shared
  rw [hstep] at hmoves
  have htask : cacheRules.step course.now input (.ensure point) course.shared =
      (m, .moved (.ensure point')) := by
    show (point.step course.now input course.shared).map CacheTask.ensure CacheReply.ensured = _
    rw [hstep]
    rfl
  have hmoment : cacheRules.step? (course, .step i input) =
      some (i, .ensure point, .moved (.ensure point')) := by
    rw [cacheRules.step?_step hi, htask]
  have hafter : CacheMoment.after (course, .step i input) = m := by
    rw [CacheMoment.after, cacheRules.next_of_moved hi htask]
    rfl
  have hmem : (course, .step i input) ∈ past ++ [(course, .step i input)] := List.mem_concat_self
  have hlaunches : launchesOf (past ++ [(course, .step i input)]) i =
      launchesOf past i +
        if ((CacheTask.ensure point).launch? (.moved (.ensure point'))).isSome then 1 else 0 :=
    CrowdRules.stepsOf_of_step? hmoment
  have hsame (hno : (CacheTask.ensure point).launch? (.moved (.ensure point')) = none) :
      launchesOf (past ++ [(course, .step i input)]) i = launchesOf past i := by
    rw [hlaunches, hno]
    rfl
  have hnone {attempt : Attempt} (hattempt : point.attempt? = some attempt)
      (hover : point'.attempt? = none ∨ ∃ guardPoint, point' = .checking attempt guardPoint) :
      (CacheTask.ensure point).launch? (.moved (.ensure point')) = none := by
    cases hlaunch : (CacheTask.ensure point).launch? (.moved (.ensure point')) with
    | none => rfl
    | some key =>
      obtain ⟨_, _, _, _, -, hmoved, -⟩ := CacheTask.eq_of_launch? hlaunch
      cases hmoved
      rcases hover with hover | ⟨_, hover⟩
      · cases hover
      · cases hover
  have hlonger : past ⊆ past ++ [(course, .step i input)] := List.subset_append_left _ _
  generalize hstepped : (m, Progress.moved point') = stepped at hmoves
  cases hmoves with
  | comes entry entry' =>
    cases hstepped
    exact (hsame rfl).trans h
  | begins point hold failed m id s ticket ready found =>
    cases hstepped
    have hbegins : CacheMoment.Begins i ⟨hold, failed, id, s.restarts⟩ (course, .step i input) := by
      refine ⟨point, ticket, s, hmoment, ?_, hafter ▸ found, rfl⟩
      rcases ready with ⟨rfl, -⟩ | ⟨resume, rfl⟩
      · rfl
      · rfl
    have hbound : failed < attempts ∧ launchesOf past i ≤ failed := by
      rcases ready with ⟨rfl, rfl⟩ | ⟨resume, rfl⟩
      · have hzero : launchesOf past i = 0 := h
        rw [hzero, ← hattempts]
        exact ⟨Nat.lt_of_lt_of_le Nat.zero_lt_one (Nat.le_max_right _ _), Nat.le_refl 0⟩
      · exact h
    have hno : (CacheTask.ensure point).launch? (.moved (.ensure
        (.trying ⟨hold, failed, id, s.restarts⟩ (.queued ticket)))) = none := by
      rcases ready with ⟨rfl, -⟩ | ⟨resume, rfl⟩
      · rfl
      · rfl
    refine ⟨hbound.1, ⟨_, hmem, hbegins⟩, ?_⟩
    rw [hsame hno]
    exact hbound.2
  | tries attempt ensure ensure' s found step =>
    cases hstepped
    obtain ⟨hfailed, hbegun, hbound⟩ := h
    obtain ⟨moment, hbefore, hbegins⟩ := hbegun
    refine ⟨hfailed, ⟨moment, hlonger hbefore, hbegins⟩, ?_⟩
    rcases EnsurePoint.starts_step step with ⟨ticket, ticket', rfl, rfl⟩ | hstarts
    · -- The one launch of this attempt is asked for now.
      have hzero : launchesOf past i ≤ attempt.failed := hbound
      rw [hlaunches]
      exact Nat.succ_le_succ hzero
    · have hno : (CacheTask.ensure (.trying attempt ensure)).launch?
          (.moved (.ensure (.trying attempt ensure'))) = none := by
        cases hlaunch : (CacheTask.ensure (.trying attempt ensure)).launch?
            (.moved (.ensure (.trying attempt ensure'))) with
        | none => rfl
        | some key =>
          obtain ⟨_, _, _, _, htask, hmoved, -⟩ := CacheTask.eq_of_launch? hlaunch
          cases htask
          cases hmoved
          cases hstarts
      rw [hsame hno, hstarts]
      exact hbound
  | checks point attempt m s ticket trying found accepts =>
    cases hstepped
    obtain ⟨hfailed, ⟨moment, hbefore, hbegins⟩, hbound⟩ := h.of_attempt? trying
    refine ⟨hfailed, ⟨moment, hlonger hbefore, hbegins⟩, ⟨_, hmem, point, _, s, hmoment,
      hafter ▸ found, accepts⟩, ?_⟩
    rw [hsame (hnone trying (.inr ⟨_, rfl⟩))]
    exact hbound
  | pauses point attempt m resume trying again =>
    cases hstepped
    obtain ⟨-, -, hbound⟩ := h.of_attempt? trying
    refine ⟨hattempts ▸ again, ?_⟩
    rw [hsame (hnone trying (.inl rfl))]
    exact hbound
  | evicts point attempt m id stop error trying taken final =>
    cases hstepped
    obtain ⟨hfailed, -, hbound⟩ := h.of_attempt? trying
    refine ⟨?_, ⟨_, hmem, _, _, hmoment, ?_, ?_⟩, ?_⟩
    · rw [Attempt.IsFinal, hattempts] at final
      refine final.imp_right ?_
      rintro ⟨hlast, rfl⟩
      exact congrArg _ (Nat.le_antisymm hfailed hlast)
    · have hstance : (CacheTask.ensure point).stance.closing? = none := by
        rw [ReconnectPoint.stance_of_attempt? trying]
        rfl
      exact Stance.evicted_of_none hstance
    · have hseat : (course.stanceOf i).seat? = some attempt.hold.seat := by
        rw [stanceOf_of_task? hi, ReconnectPoint.stance_of_attempt? trying]
        rfl
      have hmapped := htidy.mem_mapped hseat
      obtain ⟨count, htidy⟩ := htidy
      exact htidy.current_iff.mpr ⟨attempt.hold.slot, hmapped, taken⟩
    · rw [hsame (hnone trying (.inl rfl))]
      omega
  | stops hold id stop stop' error m =>
    cases hstepped
    exact ReconnectPoint.Traced.mono h hlonger (hsame rfl)
  | blocks | refuses | succeeds | exhausts | misses | ends => cases hstepped

/-! ### Any course -/

/-- The launches that an operation asks for are no more than the attempts that it may make. -/
theorem traced_after (servers : ServerTable) (settings : SearchSettings) (events : List CacheEvent)
    (hi : (cacheRules.after (start servers settings) events).task? i = some (.ensure point)) :
    point.Traced settings.attempts (cacheRules.history (start servers settings) events) i := by
  refine reconnect_induction servers settings
    (fun past _ i point => point.Traced settings.attempts past i) ?_ ?_ ?_ ?_ events hi
  · intro past course ecosystem workspace hborn
    exact (CrowdRules.stepsOf_of_others (by rintro _ _ ⟨⟩)).trans (CrowdRules.stepsOf_eq_zero hborn)
  · intro past course i input point point' m hsettled stands step hbehind
    exact traced_step hsettled.1 (congrArg SearchSettings.attempts hsettled.2) stands step hbehind
  · intro past course i input point stands blocked hbehind
    have hprogress : (cacheRules.step course.now input (.ensure point) course.shared).2 = .blocked :=
      congrArg (Progress.map CacheTask.ensure CacheReply.ensured) blocked
    have hmoment : cacheRules.step? (course, .step i input) = some (i, .ensure point, .blocked) := by
      rw [cacheRules.step?_step stands, hprogress]
    refine hbehind.mono (List.subset_append_left _ _) ?_
    refine (CrowdRules.stepsOf_of_step? hmoment).trans ?_
    rw [CacheTask.launch?_of_not_moved (by rintro _ ⟨⟩)]
    rfl
  · intro past course event i point hsettled stands hother hbehind
    exact hbehind.mono (List.subset_append_left _ _) (CrowdRules.stepsOf_of_others hother)

theorem launchesOf_le (servers : ServerTable) (settings : SearchSettings)
    (events : List CacheEvent) (i : Nat) :
    launchesOf (cacheRules.history (start servers settings) events) i ≤ settings.attempts := by
  induction events using List.reverseRecOn with
  | nil => exact Nat.zero_le _
  | append_singleton events event ih =>
    by_cases hstep : ∃ task progress, cacheRules.step?
        (cacheRules.after (start servers settings) events, event) = some (i, task, progress)
    · obtain ⟨task, progress, hstep⟩ := hstep
      cases hlaunch : task.launch? progress with
      | none =>
        rw [cacheRules.history_concat, launchesOf, CrowdRules.stepsOf_of_step? hstep, hlaunch]
        exact ih
      | some key =>
        -- Whoever asks for a launch goes on with his attempt.
        obtain ⟨attempt, ticket, attempt', ticket', rfl, rfl, -⟩ := CacheTask.eq_of_launch? hlaunch
        obtain ⟨input, rfl, stands, hprogress⟩ := cacheRules.step?_eq_some hstep
        have hi : (cacheRules.after (start servers settings) (events ++ [.step i input])).task? i =
            some (.ensure (.trying attempt' (.launching ticket'))) := by
          rw [cacheRules.after_concat, cacheRules.next_of_moved stands (Prod.ext rfl hprogress),
            Crowd.task?_put_self stands]
          rfl
        exact (traced_after servers settings _ hi).launches_le
    · rw [cacheRules.history_concat, launchesOf, CrowdRules.stepsOf_of_others fun task progress h =>
        hstep ⟨task, progress, h⟩]
      exact ih

end CacheCourse

/-! ### Ends -/

open Session

/-- How a call that gets a session ends, by where it stood and what it returns. -/
inductive EnsureEnd (past : List CacheMoment) (course : CacheCourse) (event : CacheEvent) (i : Nat) :
    ReconnectPoint → Except CacheError AdapterId → Prop where
  /-- There is no server for the ecosystem, and no slot was touched. -/
  | unknown (ecosystem : Ecosystem) (workspace : Path)
      (unserved : course.shared.servers.server? ecosystem = none)
      (untouched : CacheMoment.after (course, event) = course.shared) :
      EnsureEnd past course event i (.entering (.starting ecosystem workspace))
        (.error (.unknownEcosystem ecosystem.name))
  /-- The workspace cannot be read, and no slot was touched. -/
  | unreadable (ecosystem : Ecosystem) (server : ServerConfig) (workspace : Path) (tree : Tree)
      (error : FileError) (given : event = .step i (some tree))
      (unreadable : tree.canonical workspace = .error error)
      (untouched : CacheMoment.after (course, event) = course.shared) :
      EnsureEnd past course event i (.entering (.finding ecosystem server workspace))
        (.error (.workspaceUnreadable workspace error.message))
  /-- The adapter is in its slot.  Its session was found to take requests and its server to run;
      the session still takes requests unless it was lost since then.  If the session was restarted
      in this attempt, the adapter has forgotten all answers. -/
  | ready (attempt : Attempt) (guardPoint : GuardPoint) (session : Session) (adapter : Adapter)
      (current : (CacheMoment.after (course, event)).current? attempt.hold.key =
        some attempt.adapter)
      (begun : ∃ moment ∈ past, moment.Begins i attempt)
      (looked : ∃ moment ∈ past, moment.Looks i attempt)
      (checked : course.shared.session? attempt.adapter = some session)
      (live : session.hasLiveConnection = true)
      (takes : session.state.acceptsRequests = true ∨ session.state = .crashed)
      (kept : (CacheMoment.after (course, event)).adapters[attempt.adapter]? = some adapter)
      (same : adapter.session.restarts = session.restarts)
      (forgets : session.restarts ≠ attempt.restarts → adapter.memo.entries = []) :
      EnsureEnd past course event i (.checking attempt guardPoint) (.ok attempt.adapter)
  /-- The session has crashed, and stays in its slot.  It has no restarts left, unless it is the
      launcher that has reported so. -/
  | exhausted (attempt : Attempt) (ensure : EnsurePoint) (restarts : Nat) (before session : Session)
      (current : (CacheMoment.after (course, event)).current? attempt.hold.key =
        some attempt.adapter)
      (found : course.shared.session? attempt.adapter = some before)
      (kept : (CacheMoment.after (course, event)).session? attempt.adapter = some session)
      (crashed : session.state = .crashed)
      (spent : (∃ ticket, ensure = .queued ticket) ∧ restarts = session.restarts ∧
          session.settings.maxRestarts ≤ session.restarts ∨
        (∃ ticket, ensure = .launching ticket) ∧
          before.launch = .finished (.error (.restartBudgetExhausted restarts))) :
      EnsureEnd past course event i (.trying attempt ensure)
        (.error (.session attempt.hold.key.ecosystem (.restartBudgetExhausted restarts)))
  /-- The adapter was taken out of its slot, which is empty, and its session is closed. -/
  | evicted (hold : Hold) (a : AdapterId) (stop : StopPoint) (error : CacheError)
      (session : Session)
      (final : error.IsFinal course.shared.settings.attempts hold.key.ecosystem)
      (taken : ∃ moment ∈ past, moment.Evicts i hold.key a)
      (emptied : (CacheMoment.after (course, event)).current? hold.key = none)
      (removed : (CacheMoment.after (course, event)).session? a = some session)
      (closed : session.state = .closed) :
      EnsureEnd past course event i (.evicting hold a stop error) (.error error)

/-! ### Steps at the end -/

theorem EntryPoint.refused_cases {files : Option Tree} {cache m : Cache} {entry : EntryPoint}
    {error : CacheError} (h : entry.step files cache = (m, .finished (.error error))) :
    (∃ ecosystem workspace, entry = .starting ecosystem workspace ∧
        cache.servers.server? ecosystem = none ∧ error = .unknownEcosystem ecosystem.name) ∨
      ∃ ecosystem server workspace tree fault, entry = .finding ecosystem server workspace ∧
        files = some tree ∧ tree.canonical workspace = .error fault ∧
        error = .workspaceUnreadable workspace fault.message := by
  cases entry with
  | starting ecosystem workspace =>
    simp only [step] at h
    split at h
    next hserver =>
      cases h
      exact .inl ⟨ecosystem, workspace, rfl, hserver, rfl⟩
    next => cases h
  | finding ecosystem server workspace =>
    simp only [step] at h
    split at h
    next => cases h
    next tree =>
      split at h
      next fault hcanonical =>
        cases h
        exact .inr ⟨ecosystem, server, workspace, tree, fault, rfl, rfl, hcanonical, rfl⟩
      next => cases h
  | queued hold =>
    simp only [step] at h
    split at h <;> cases h

namespace Cache

theorem session?_stepSession {π ρ : Type} {cache : Cache} {a : AdapterId} {s : Session}
    (hs : cache.session? a = some s) (step : Session → Stepped Session π ρ) :
    (cache.stepSession a step).1.session? a = some (step s).1 := by
  obtain ⟨adapter, hadapter, rfl⟩ := Option.map_eq_some_iff.mp hs
  rw [Cache.stepSession, stepAdapter, hadapter]
  exact session?_updateAdapter_self hadapter _

end Cache

namespace ReconnectPoint

variable {cache : Cache} {hold : Hold} {attempt : Attempt}

theorem session?_giveUp (hold : Hold) (error : CacheError) (cache : Cache) (a : AdapterId) :
    (giveUp hold error cache).1.session? a = cache.session? a := by
  have hadapters : (giveUp hold error cache).1.adapters = cache.adapters :=
    adapters_unmapSlot cache hold.key hold.slot
  rw [Cache.session?, hadapters]
  rfl

/-- Whoever gives up leaves no adapter in an empty slot. -/
theorem current?_giveUp (hlookup : cache.mapped.lookup hold.key = some hold.slot)
    (hempty : (cache.slotAt hold.slot).adapter = none) (error : CacheError) :
    (giveUp hold error cache).1.current? hold.key = none := by
  have hslot : ((giveUp hold error cache).1.slotAt hold.slot).adapter = none := by
    have hleaves := CacheCourse.adapter_leaveHold (cache.unmapSlot hold.key hold.slot) hold hold.slot
    refine hleaves.trans ?_
    unfold Cache.unmapSlot
    dsimp only
    split <;> exact hempty
  have hmapped : (giveUp hold error cache).1.mapped = (cache.unmapSlot hold.key hold.slot).mapped :=
    rfl
  rw [Cache.current?, hmapped]
  unfold Cache.unmapSlot
  dsimp only
  split
  · have hnone : (cache.mapped.filter fun entry => entry.1 ≠ hold.key).lookup hold.key = none := by
      rw [List.lookup_eq_none_iff]
      intro entry hentry
      have hne : entry.1 ≠ hold.key := of_decide_eq_true (List.mem_filter.mp hentry).2
      exact bne_iff_ne.mpr hne.symm
    rw [hnone]
    rfl
  · rw [hlookup]
    exact hslot

/-- Whoever succeeds leaves the adapter with the session that he has found. If the session was
    restarted, the adapter has forgotten all answers. -/
theorem adapter_succeed {adapter : Adapter}
    (hadapter : cache.adapters[attempt.adapter]? = some adapter) :
    ∃ adapter', (succeed attempt cache).1.adapters[attempt.adapter]? = some adapter' ∧
      adapter'.session = adapter.session ∧
      (adapter.session.restarts ≠ attempt.restarts → adapter'.memo.entries = []) := by
  have hsession : cache.session? attempt.adapter = some adapter.session := by
    rw [Cache.session?, hadapter]
    rfl
  simp only [succeed, hsession]
  split
  next hsame => exact ⟨adapter, hadapter, rfl, fun hne => absurd hsame hne⟩
  next =>
    refine ⟨adapter.invalidate, ?_, rfl, fun _ => rfl⟩
    show (cache.updateAdapter attempt.adapter Adapter.invalidate).adapters[attempt.adapter]? = _
    rw [Cache.updateAdapter, List.getElem?_modify_eq, hadapter]
    rfl

end ReconnectPoint

/-! ### Sessions that are looked at -/

/-- Whether a session that is looked at takes requests, or was lost meanwhile. -/
def ReconnectPoint.Served (cache : Cache) : ReconnectPoint → Prop
  | .checking attempt _ => ∃ account, cache.account? attempt.adapter = some account ∧
      (account.state.acceptsRequests = true ∨ account.state = .crashed)
  | _ => True

/-- Whoever goes on to look at a session has found that it takes requests. -/
theorem ReconnectPoint.served_step {now : Instant} {files : Option Tree} {cache m : Cache}
    {point point' : ReconnectPoint} (h : point.step now files cache = (m, .moved point')) :
    point'.Served m := by
  have hmoves := point.step_moves now files cache
  rw [h] at hmoves
  generalize hstepped : (m, Progress.moved point') = stepped at hmoves
  cases hmoves with
  | checks point attempt m s ticket trying found accepts =>
    cases hstepped
    exact ⟨s.account, Cache.account?_of_session? found, .inl accepts⟩
  | comes | begins | tries | pauses | evicts | stops =>
    cases hstepped
    trivial
  | blocks | refuses | succeeds | exhausts | misses | ends => cases hstepped

theorem Account.Drifts.served {now : Instant} {account account' : Account}
    (h : account.Drifts now account')
    (hserved : account.state.acceptsRequests = true ∨ account.state = .crashed) :
    account'.state.acceptsRequests = true ∨ account'.state = .crashed := by
  cases h with
  | stays same => exact same ▸ hserved
  | counts takes same takes' => exact .inl takes'
  | lost up crashed => exact .inr (congrArg Account.state crashed)

namespace CacheCourse

variable {course : CacheCourse} {event : CacheEvent} {i : Nat} {past : List CacheMoment}
  {point : ReconnectPoint}

theorem served_after (servers : ServerTable) (settings : SearchSettings) (events : List CacheEvent)
    (hi : (cacheRules.after (start servers settings) events).task? i = some (.ensure point)) :
    point.Served (cacheRules.after (start servers settings) events).shared := by
  refine reconnect_induction servers settings (fun _ course _ point => point.Served course.shared)
    ?_ ?_ ?_ ?_ events hi
  · intro past course ecosystem workspace hborn
    trivial
  · intro past course i input point point' m hsettled stands step hserved
    exact ReconnectPoint.served_step step
  · intro past course i input point stands blocked hserved
    exact hserved
  · intro past course event i point hsettled stands hother hserved
    cases point with
    | entering | trying | pausing | evicting => trivial
    | checking attempt guardPoint =>
      obtain ⟨account, haccount, htakes⟩ := hserved
      obtain ⟨account', haccount', hdrifts⟩ :=
        hsettled.1.drifts_of_attempt? stands rfl hother haccount
      exact ⟨account', haccount', hdrifts.served htakes⟩

/-! ### Any course -/

/-- Every call that gets a session ends in one of the ways that there are. -/
theorem ensureEnd {settings : SearchSettings} (hsettled : Settled settings course)
    (htraced : course.task? i = some (.ensure point) → point.Traced settings.attempts past i)
    (hserved : course.task? i = some (.ensure point) → point.Served course.shared)
    {result : Except CacheError AdapterId}
    (hstep : cacheRules.step? (course, event) =
      some (i, .ensure point, .finished (.ensured result))) :
    EnsureEnd past course event i point result := by
  obtain ⟨input, rfl, stands, hprogress⟩ := cacheRules.step?_eq_some hstep
  obtain ⟨found, hresult, hsame⟩ := Progress.eq_finished_of_map hprogress
  cases hsame
  obtain ⟨htidy, hsettings⟩ := hsettled
  have htraced := htraced stands
  have hserved := hserved stands
  have hafter : CacheMoment.after (course, .step i input) =
      (point.step course.now input course.shared).1 := by
    have htask : cacheRules.step course.now input (.ensure point) course.shared =
        ((point.step course.now input course.shared).1, .finished (.ensured result)) :=
      Prod.ext rfl hprogress
    rw [CacheMoment.after, cacheRules.next_of_finished stands htask]
    rfl
  have hcurrent {attempt : Attempt} (hattempt : point.attempt? = some attempt) :
      (CacheMoment.after (course, .step i input)).current? attempt.hold.key =
        some attempt.adapter := by
    refine (current_next htidy (htidy.current_of_attempt? stands hattempt)).resolve_right ?_
    rw [CacheMoment.evicted?_of_finished hstep]
    rintro ⟨⟩
  have hmoves := point.step_moves course.now input course.shared
  generalize point.step course.now input course.shared = stepped at hresult hafter hmoves
  cases hmoves with
  | refuses entry error step =>
    cases hresult
    rcases EntryPoint.refused_cases step with ⟨ecosystem, workspace, rfl, hserver, rfl⟩ |
      ⟨ecosystem, server, workspace, tree, fault, rfl, rfl, hcanonical, rfl⟩
    · exact .unknown ecosystem workspace hserver hafter
    · exact .unreadable ecosystem server workspace tree fault rfl hcanonical hafter
  | succeeds attempt ticket s found live =>
    cases hresult
    obtain ⟨-, hbegun, hlooked, -⟩ := htraced
    obtain ⟨account, haccount, haccepts⟩ := hserved
    rw [Cache.account?_of_session? found] at haccount
    obtain rfl := Option.some.inj haccount
    have hlooks := Cache.session?_stepSession found (Session.stepAlive (.queued ticket))
    obtain ⟨adapter, hadapter, hsession⟩ := Option.map_eq_some_iff.mp hlooks
    obtain ⟨adapter', hadapter', hsame, hforgets⟩ :
        ∃ adapter', (ReconnectPoint.succeed attempt _).1.adapters[attempt.adapter]? = some adapter' ∧
          adapter'.session = adapter.session ∧
          (adapter.session.restarts ≠ attempt.restarts → adapter'.memo.entries = []) :=
      ReconnectPoint.adapter_succeed hadapter
    have hrestarts : adapter.session.restarts = s.restarts := by
      rw [hsession]
      exact (congrArg Account.restarts (SessionTask.account_stepAlive (.queued ticket) s) :)
    refine .ready attempt _ s adapter' (hcurrent rfl) hbegun hlooked found live haccepts
      (hafter ▸ hadapter') ?_ ?_
    · rw [hsame, hrestarts]
    · rw [← hrestarts]
      exact hforgets
  | exhausts attempt ensure s restarts found step =>
    cases hresult
    have hsession : (CacheMoment.after (course, .step i input)).session? attempt.adapter =
        some (ensure.step course.now s).1 := by
      rw [hafter]
      exact Cache.session?_stepSession found (ensure.step course.now)
    rcases EnsurePoint.exhausted_cases step with ⟨hqueued, hspent, hsame, haccount⟩ |
      ⟨hlaunching, hlaunch, hcrashed⟩
    · refine .exhausted attempt ensure restarts s _ (hcurrent rfl) found hsession ?_
        (.inl ⟨hqueued, ?_, ?_⟩)
      · exact (congrArg Account.state haccount :).trans hspent.1
      · exact hsame.trans (congrArg Account.restarts haccount :).symm
      · rw [← haccount] at hspent
        exact hspent.2
    · exact .exhausted attempt ensure restarts s _ (hcurrent rfl) found hsession hcrashed
        (.inr ⟨hlaunching, hlaunch⟩)
  | misses point attempt m error trying empty =>
    -- The slot of an attempt is not empty.
    have hadapter := htidy.adapter_of_attempt? stands trying
    rw [hadapter] at empty
    cases empty
  | ends hold a stop error s found closed =>
    cases hresult
    obtain ⟨hfinal, htaken, -⟩ := htraced
    have hinside : course.stanceOf i = .inside hold.seat [] (.closes a) := stanceOf_of_task? stands
    have hseat : (course.stanceOf i).seat? = some hold.seat := by
      rw [hinside]
      rfl
    have hmapped := htidy.mem_mapped hseat
    obtain ⟨count, htidy⟩ := htidy
    obtain ⟨hempty, -⟩ := htidy.works i hold.seat [] _ hinside
    refine .evicted hold a stop error s (hsettings ▸ hfinal) htaken ?_ ?_ closed
    · rw [hafter]
      refine ReconnectPoint.current?_giveUp ?_ ?_ error
      · rw [ReconnectPoint.mapped_stepSession]
        exact htidy.lookup_of_mem hmapped
      · rw [ReconnectPoint.slotAt_stepSession]
        exact hempty
    · rw [hafter, ReconnectPoint.session?_giveUp]
      exact found
  | blocks | comes | begins | tries | checks | pauses | evicts | stops => cases hresult

/-- What is promised of those who get a session, from the beginning to a moment of a course. -/
structure Ensures (settings : SearchSettings) (past : List CacheMoment) (course : CacheCourse) :
    Prop where
  launches : ∀ i, launchesOf past i ≤ settings.attempts
  ends : ∀ event i point result, cacheRules.step? (course, event) =
      some (i, .ensure point, .finished (.ensured result)) →
    EnsureEnd past course event i point result
  /-- Nobody launches a server for a key whose session was found to have no restarts left, unless
      the session has been reset or disconnected in between. -/
  exhausted : ∀ before found between launch later key i,
    past = before ++ found :: between ++ launch :: later →
    found.exhausted? = some key → launch.launch? = some (i, key) →
    ∃ moment ∈ between, moment.freed? = some key

end CacheCourse

end SymbolSearch
