import SymbolSearch.Proofs.Adapter.Course
import SymbolSearch.Proofs.Cache.Sessions

/-!
# Jobs at the adapters of a cache

An operation on a cache does what it does in the slots, and besides has at most one operation on an
adapter under way: its job. An adapter sees nothing but such jobs.

* `CacheTask.job?` — the job of an operation.
* `JobMove` — what can happen to one adapter and to the job there: the adapter is made, a job begins,
  goes on or is given up, or answers are forgotten.
* `Cache.Works` — an operation does nothing else with any adapter; `CacheTask.works_step` and
  `CacheTask.works_cancel` show it for every operation.
-/

namespace SymbolSearch

/-- An operation on an adapter that is under way. -/
abbrev Job := AdapterId × AdapterTask

/-- The operation on one adapter, if the job is there. -/
def jobOn (job? : Option Job) (a : AdapterId) : Option AdapterTask :=
  job?.bind fun job => if job.1 = a then some job.2 else none

/-- The point that an operation on a session comes to is a job at an adapter. -/
def sessionJob {π ρ : Type} (a : AdapterId) (make : π → SessionTask) (progress : Progress π ρ) :
    Option Job :=
  progress.point?.map fun point => (a, .onSession (make point))

/-! ### What an operation has under way -/

/-- What one does on an adapter who gets a session. -/
def ReconnectPoint.job? : ReconnectPoint → Option Job
  | .trying attempt ensure => some (attempt.adapter, .onSession (.ensure ensure))
  | .checking attempt guardPoint => some (attempt.adapter, .onSession (.checkAlive guardPoint))
  | .evicting _ a stop _ => some (a, .onSession (.stop stop))
  | .entering _ | .pausing _ _ _ => none

/-- What one does on an adapter who resets a session. -/
def RevivePoint.job? : RevivePoint → Option Job
  | .resetting _ a guardPoint => some (a, .onSession (.reset guardPoint))
  | .entering _ => none

/-- What one does on an adapter who closes sessions. -/
def DisconnectPoint.job? : DisconnectPoint → Option Job
  | .stopping _ _ _ _ _ a stop => some (a, .onSession (.stop stop))
  | _ => none

/-- The job of an operation on a cache. -/
def CacheTask.job? : CacheTask → Option Job
  | .find _ | .findFor _ _ => none
  | .ensure point => point.job?
  | .revive point => point.job?
  | .disconnect point => point.job?
  | .ask a point => some (a, .inquiry point)

/-! ### One adapter -/

/-- An adapter, if it is made, and the job there. -/
abbrev Workplace := Option Adapter × Option AdapterTask

/-- What can happen to one adapter and to the job there. -/
inductive JobMove (now : Instant) (files : Option Tree) : Workplace → Workplace → Prop where
  | made (task? : Option AdapterTask) (ecosystem : Ecosystem) (root : Path) (server : ServerConfig)
      (session : SessionSettings) (settings : AdapterSettings) :
      JobMove now files (none, task?)
        (some (.ofServer ecosystem root server session settings), task?)
  | begins (adapter? : Option Adapter) (call : AdapterCall) :
      JobMove now files (adapter?, none) (adapter?, some call.task)
  | goesOn (adapter : Adapter) (task : AdapterTask)
      (goes : (task.step now files adapter).2 ≠ .blocked) :
      JobMove now files (some adapter, some task)
        (some (task.step now files adapter).1, (task.step now files adapter).2.point?)
  | givesUp (adapter? : Option Adapter) (task : AdapterTask) :
      JobMove now files (adapter?, some task) (adapter?.map task.cancel, none)
  | forgets (adapter : Adapter) (task? : Option AdapterTask) :
      JobMove now files (some adapter, task?) (some adapter.invalidate, task?)

/-- Any number of moves. -/
abbrev JobMoves (now : Instant) (files : Option Tree) :=
  Relation.ReflTransGen (JobMove now files)

/-- What an operation with one job after the other does with the adapters of a cache. -/
def Cache.Works (now : Instant) (files : Option Tree) (cache : Cache) (before? : Option Job)
    (cache' : Cache) (after? : Option Job) : Prop :=
  ∀ a : AdapterId, JobMoves now files (cache.adapters[a]?, jobOn before? a)
    (cache'.adapters[a]?, jobOn after? a)

variable {now : Instant} {files : Option Tree} {cache middle cache' : Cache}
  {before? after? : Option Job} {a : AdapterId}

theorem jobOn_self (a : AdapterId) (task : AdapterTask) : jobOn (some (a, task)) a = some task :=
  if_pos rfl

theorem jobOn_of_ne {b : AdapterId} (h : a ≠ b) (task : AdapterTask) :
    jobOn (some (a, task)) b = none := if_neg h

theorem jobOn_map (task? : Option AdapterTask) (a : AdapterId) :
    jobOn (task?.map fun task => (a, task)) a = task? := by
  cases task? with
  | none => rfl
  | some task => exact jobOn_self a task

theorem jobOn_map_of_ne {b : AdapterId} (h : a ≠ b) (task? : Option AdapterTask) :
    jobOn (task?.map fun task => (a, task)) b = none := by
  cases task? with
  | none => rfl
  | some task => exact jobOn_of_ne h task

namespace Cache

theorem getElem?_updateAdapter_self (cache : Cache) (a : AdapterId) (change : Adapter → Adapter) :
    (cache.updateAdapter a change).adapters[a]? = (cache.adapters[a]?).map change := by
  simp [updateAdapter]

theorem getElem?_updateAdapter_of_ne {b : AdapterId} (h : a ≠ b) (cache : Cache)
    (change : Adapter → Adapter) :
    (cache.updateAdapter a change).adapters[b]? = cache.adapters[b]? := by
  simp [updateAdapter, h]

namespace Works

theorem refl (now : Instant) (files : Option Tree) (cache : Cache) (before? : Option Job) :
    cache.Works now files before? cache before? := fun _ => .refl

/-- What is done with slots is no matter of the adapters. -/
theorem rearranged (h : cache.Works now files before? middle after?)
    (hadapters : cache'.adapters = middle.adapters) : cache.Works now files before? cache' after? := by
  intro b
  rw [hadapters]
  exact h b

/-- A job begins. -/
theorem begins (h : cache.Works now files before? middle none) (a : AdapterId) (call : AdapterCall) :
    cache.Works now files before? middle (some (a, call.task)) := by
  intro b
  by_cases hab : a = b
  · subst hab
    rw [jobOn_self]
    exact (h a).tail (.begins _ call)
  · rw [jobOn_of_ne hab]
    exact h b

/-- The job goes on. -/
theorem goesOn {adapter : Adapter} {task : AdapterTask}
    (h : cache.Works now files before? middle (some (a, task)))
    (ha : middle.adapters[a]? = some adapter)
    (hgoes : (task.step now files adapter).2 ≠ .blocked) :
    cache.Works now files before? (middle.updateAdapter a fun _ => (task.step now files adapter).1)
      ((task.step now files adapter).2.point?.map fun task => (a, task)) := by
  intro b
  have hb := h b
  by_cases hab : a = b
  · subst hab
    rw [jobOn_self, ha] at hb
    rw [getElem?_updateAdapter_self, ha, jobOn_map]
    exact hb.tail (.goesOn adapter task hgoes)
  · rw [jobOn_of_ne hab] at hb
    rw [getElem?_updateAdapter_of_ne hab, jobOn_map_of_ne hab]
    exact hb

/-- The job is given up. -/
theorem givesUp {task : AdapterTask} (h : cache.Works now files before? middle (some (a, task))) :
    cache.Works now files before? (middle.updateAdapter a task.cancel) none := by
  intro b
  have hb := h b
  by_cases hab : a = b
  · subst hab
    rw [jobOn_self] at hb
    rw [getElem?_updateAdapter_self]
    exact hb.tail (.givesUp _ task)
  · rw [jobOn_of_ne hab] at hb
    rw [getElem?_updateAdapter_of_ne hab]
    exact hb

/-- Answers of an adapter are forgotten. -/
theorem forgets (h : cache.Works now files before? middle after?) (a : AdapterId) :
    cache.Works now files before? (middle.updateAdapter a Adapter.invalidate) after? := by
  intro b
  have hb := h b
  by_cases hab : a = b
  · subst hab
    rw [getElem?_updateAdapter_self]
    cases hadapter : middle.adapters[a]? with
    | none =>
      rw [hadapter] at hb
      exact hb
    | some adapter =>
      rw [hadapter] at hb
      exact hb.tail (.forgets adapter _)
  · rw [getElem?_updateAdapter_of_ne hab]
    exact hb

/-- The adapter of a slot is made if there is none. -/
theorem adapterIn (h : cache.Works now files before? middle after?) (key : CacheKey)
    (server : ServerConfig) (slot : SlotId) :
    cache.Works now files before? (middle.adapterIn key server slot).2 after? := by
  cases hslot : (middle.slotAt slot).adapter with
  | some found =>
    simp only [Cache.adapterIn, hslot]
    exact h
  | none =>
    simp only [Cache.adapterIn, hslot]
    generalize hmade : Adapter.ofServer key.ecosystem key.root server middle.settings.session
      middle.settings.adapter = made
    have hlonger : cache.Works now files before?
        { middle with adapters := middle.adapters ++ [made] } after? := ?_
    · exact hlonger.rearranged rfl
    intro b
    have hb := h b
    show JobMoves now files _ ((middle.adapters ++ [made])[b]?, _)
    rcases Nat.lt_trichotomy b middle.adapters.length with hlt | rfl | hgt
    · rw [List.getElem?_append_left hlt]
      exact hb
    · rw [List.getElem?_eq_none (Nat.le_refl _)] at hb
      rw [List.getElem?_concat_length, ← hmade]
      exact hb.tail (.made _ key.ecosystem key.root server _ _)
    · have hlength : (middle.adapters ++ [made]).length ≤ b := by
        rw [List.length_append, List.length_singleton]
        exact hgt
      rw [List.getElem?_eq_none (Nat.le_of_lt hgt)] at hb
      rw [List.getElem?_eq_none hlength]
      exact hb

/-- The job goes on that is an operation on the session. -/
theorem stepSession {π ρ : Type} {step : Session → Stepped Session π ρ} {make : π → SessionTask}
    {reply : ρ → SessionReply} {task : SessionTask}
    (h : cache.Works now files before? middle (some (a, .onSession task)))
    (hstep : ∀ s, task.step now s = (step s).map make reply)
    (hgoes : (middle.stepSession a step).2 ≠ .blocked) :
    cache.Works now files before? (middle.stepSession a step).1
      (sessionJob a make (middle.stepSession a step).2) := by
  rcases middle.stepSession_cases a step with heq | ⟨adapter, ha, heq⟩
  · rw [heq] at hgoes
    exact absurd rfl hgoes
  · rw [heq] at hgoes ⊢
    have hsame : AdapterTask.step now files (.onSession task) adapter =
        ({ adapter with session := (step adapter.session).1 },
          ((step adapter.session).2.map make reply).map .onSession .ofSession) := by
      simp only [AdapterTask.step, hstep]
      rfl
    have hgone := h.goesOn ha (by
      rw [hsame]
      intro hblocked
      exact hgoes (Progress.eq_blocked_of_map (Progress.eq_blocked_of_map hblocked)))
    rw [hsame] at hgone
    have hjob : sessionJob a make (step adapter.session).2 =
        (((step adapter.session).2.map make reply).map AdapterTask.onSession
          AdapterReply.ofSession).point?.map fun task => (a, task) := by
      cases (step adapter.session).2 <;> rfl
    rw [hjob]
    exact hgone

end Works
end Cache

/-! ### Getting a session -/

namespace ReconnectPoint

variable {stepped : Reconnected}

/-- Where a step of getting a session leads, if it need not wait. -/
def WorksTo (now : Instant) (files : Option Tree) (cache : Cache) (before? : Option Job)
    (stepped : Reconnected) : Prop :=
  stepped.2 ≠ .blocked → cache.Works now files before? stepped.1 (stepped.2.point?.bind job?)

theorem works_giveUp (h : cache.Works now files before? middle none) (hold : Hold)
    (error : CacheError) : WorksTo now files cache before? (giveUp hold error middle) :=
  fun _ => h.rearranged (adapters_unmapSlot middle hold.key hold.slot)

theorem works_afterStop {stepped : Stepped Cache StopPoint Unit}
    (h : stepped.2 ≠ .blocked →
      cache.Works now files before? stepped.1 (sessionJob a SessionTask.stop stepped.2))
    (hold : Hold) (error : CacheError) :
    WorksTo now files cache before? (afterStop hold a error stepped) := by
  obtain ⟨m, progress⟩ := stepped
  cases progress with
  | blocked => exact fun hblocked => absurd rfl hblocked
  | moved stop => exact fun _ => h nofun
  | finished => exact works_giveUp (h nofun) hold error

theorem works_evict (h : cache.Works now files before? middle none) (hold : Hold)
    (error : CacheError) : WorksTo now files cache before? (evict now hold error middle) := by
  have hempty : cache.Works now files before? (middle.emptySlot hold.slot).2 none := h.rearranged rfl
  unfold evict
  split
  next hslot =>
    rw [hslot] at hempty
    exact works_giveUp hempty hold error
  next id m hslot =>
    rw [hslot] at hempty
    exact works_afterStop ((hempty.begins id .stop).stepSession fun _ => rfl) hold error

theorem works_afterFailure (h : cache.Works now files before? middle none) (attempt : Attempt) :
    WorksTo now files cache before? (afterFailure now attempt middle) := by
  simp only [afterFailure]
  split
  · exact works_evict h attempt.hold _
  · exact fun _ => h

theorem works_succeed (h : cache.Works now files before? middle none) (attempt : Attempt) :
    WorksTo now files cache before? (succeed attempt middle) := by
  intro _
  simp only [succeed]
  split
  · exact h.rearranged rfl
  · exact (h.forgets attempt.adapter).rearranged rfl

theorem works_afterCheck {attempt : Attempt} {stepped : Stepped Cache GuardPoint Bool}
    (h : stepped.2 ≠ .blocked → cache.Works now files before? stepped.1
      (sessionJob attempt.adapter SessionTask.checkAlive stepped.2)) :
    WorksTo now files cache before? (afterCheck now attempt stepped) := by
  obtain ⟨m, progress⟩ := stepped
  cases progress with
  | blocked => exact fun hblocked => absurd rfl hblocked
  | moved guardPoint => exact fun _ => h nofun
  | finished alive =>
    cases alive with
    | true => exact works_succeed (h nofun) attempt
    | false => exact works_afterFailure (h nofun) attempt

theorem works_afterEnsure {attempt : Attempt}
    {stepped : Stepped Cache EnsurePoint (Except SessionError Unit)}
    (h : stepped.2 ≠ .blocked → cache.Works now files before? stepped.1
      (sessionJob attempt.adapter SessionTask.ensure stepped.2)) :
    WorksTo now files cache before? (afterEnsure now attempt stepped) := by
  obtain ⟨m, progress⟩ := stepped
  cases progress with
  | blocked => exact fun hblocked => absurd rfl hblocked
  | moved ensure => exact fun _ => h nofun
  | finished result =>
    have hdone : cache.Works now files before? m none := h nofun
    cases result with
    | ok =>
      exact works_afterCheck ((hdone.begins attempt.adapter .checkAlive).stepSession fun _ => rfl)
    | error error =>
      simp only [afterEnsure]
      split
      · exact fun _ => hdone.rearranged rfl
      · split
        · exact works_evict hdone attempt.hold _
        · exact works_afterFailure hdone attempt

theorem works_begin (h : cache.Works now files before? middle none) (hold : Hold) (failed : Nat) :
    WorksTo now files cache before? (begin now hold failed middle) := by
  have hmade := h.adapterIn hold.key hold.server hold.slot
  simp only [begin]
  generalize middle.adapterIn hold.key hold.server hold.slot = made at hmade
  obtain ⟨id, m⟩ := made
  exact works_afterEnsure ((hmade.begins id .ensure).stepSession fun _ => rfl)

theorem works_step (now : Instant) (files : Option Tree) (point : ReconnectPoint) (cache : Cache) :
    WorksTo now files cache point.job? (point.step now files cache) := by
  have hstart := Cache.Works.refl now files cache point.job?
  cases point with
  | entering entry =>
    have hentry : cache.Works now files none (entry.step files cache).1 none :=
      hstart.rearranged (entry.adapters_step files cache)
    simp only [step]
    generalize entry.step files cache = stepped at hentry
    obtain ⟨m, progress⟩ := stepped
    cases progress with
    | blocked => exact fun hblocked => absurd rfl hblocked
    | moved entry' => exact fun _ => hentry
    | finished result =>
      cases result with
      | error error => exact fun _ => hentry
      | ok hold => exact works_begin hentry hold 0
  | trying attempt ensure => exact works_afterEnsure (hstart.stepSession fun _ => rfl)
  | checking attempt guardPoint => exact works_afterCheck (hstart.stepSession fun _ => rfl)
  | pausing hold failed resume =>
    simp only [step]
    split
    · exact works_begin hstart hold failed
    · exact fun hblocked => absurd rfl hblocked
  | evicting hold id stop error =>
    exact works_afterStop (hstart.stepSession fun _ => rfl) hold error

theorem works_cancel (now : Instant) (files : Option Tree) (point : ReconnectPoint) (cache : Cache) :
    cache.Works now files point.job? (point.cancel cache) none := by
  have hstart := Cache.Works.refl now files cache point.job?
  cases point with
  | entering entry => exact hstart.rearranged (entry.adapters_cancel cache)
  | trying attempt ensure => exact hstart.givesUp.rearranged rfl
  | checking attempt guardPoint => exact hstart.givesUp.rearranged rfl
  | pausing hold failed resume => exact hstart.rearranged rfl
  | evicting hold id stop error => exact hstart.givesUp.rearranged rfl

end ReconnectPoint

/-! ### Resetting and closing sessions -/

namespace RevivePoint

theorem works_afterReset {hold : Hold} {stepped : Stepped Cache GuardPoint Bool}
    (h : stepped.2 ≠ .blocked →
      cache.Works now files before? stepped.1 (sessionJob a SessionTask.reset stepped.2))
    (hgoes : (afterReset hold a stepped).2 ≠ .blocked) :
    cache.Works now files before? (afterReset hold a stepped).1
      ((afterReset hold a stepped).2.point?.bind RevivePoint.job?) := by
  obtain ⟨m, progress⟩ := stepped
  cases progress with
  | blocked => exact absurd rfl hgoes
  | moved guardPoint => exact h nofun
  | finished changed =>
    have hdone := h nofun
    exact hdone.rearranged rfl

theorem works_step (now : Instant) (files : Option Tree) (point : RevivePoint) (cache : Cache)
    (hgoes : (point.step files cache).2 ≠ .blocked) :
    cache.Works now files point.job? (point.step files cache).1
      ((point.step files cache).2.point?.bind job?) := by
  have hstart := Cache.Works.refl now files cache point.job?
  cases point with
  | entering entry =>
    have hentry : cache.Works now files none (entry.step files cache).1 none :=
      hstart.rearranged (entry.adapters_step files cache)
    simp only [step] at hgoes ⊢
    generalize entry.step files cache = stepped at hentry hgoes
    obtain ⟨m, progress⟩ := stepped
    cases progress with
    | blocked => exact absurd rfl hgoes
    | moved entry' => exact hentry
    | finished result =>
      cases result with
      | error error => exact hentry
      | ok hold =>
        dsimp only at hgoes ⊢
        split
        next => exact hentry.rearranged rfl
        next id hslot =>
          rw [hslot] at hgoes
          exact works_afterReset (((hentry.forgets id).begins id .reset).stepSession fun _ => rfl)
            hgoes
  | resetting hold id guardPoint => exact works_afterReset (hstart.stepSession fun _ => rfl) hgoes

end RevivePoint

namespace DisconnectPoint

variable {key : CacheKey} {slot : SlotId} {ticket : Ticket} {rest : List (CacheKey × SlotId)}
  {closed : Nat}

theorem works_release (h : cache.Works now files before? middle none) :
    cache.Works now files before? (release key slot ticket rest closed middle).1 none :=
  h.rearranged (ReconnectPoint.adapters_unmapSlot middle key slot)

theorem works_afterStop {stepped : Stepped Cache StopPoint Unit}
    (h : stepped.2 ≠ .blocked →
      cache.Works now files before? stepped.1 (sessionJob a SessionTask.stop stepped.2))
    (hgoes : (afterStop key slot ticket rest closed a stepped).2 ≠ .blocked) :
    cache.Works now files before? (afterStop key slot ticket rest closed a stepped).1
      ((afterStop key slot ticket rest closed a stepped).2.point?.bind DisconnectPoint.job?) := by
  obtain ⟨m, progress⟩ := stepped
  cases progress with
  | blocked => exact absurd rfl hgoes
  | moved stop => exact h nofun
  | finished => exact works_release (h nofun)

theorem works_step (now : Instant) (files : Option Tree) (point : DisconnectPoint) (cache : Cache)
    (hgoes : (point.step now files cache).2 ≠ .blocked) :
    cache.Works now files point.job? (point.step now files cache).1
      ((point.step now files cache).2.point?.bind job?) := by
  have hstart := Cache.Works.refl now files cache point.job?
  cases point with
  | starting => exact hstart.rearranged (adapters_gather cache cache.mapped)
  | finding workspace =>
    simp only [step] at hgoes ⊢
    split
    next => exact hstart
    next tree => exact hstart.rearranged (adapters_gather cache _)
  | working rest closed =>
    cases rest with
    | nil => exact hstart
    | cons claim rest => exact hstart.rearranged rfl
  | queued key slot ticket rest closed =>
    have hempty : cache.Works now files none (cache.emptySlot slot).2 none := hstart.rearranged rfl
    simp only [step] at hgoes ⊢
    split
    next hholds =>
      rw [if_pos hholds] at hgoes
      split
      next m hslot =>
        rw [hslot] at hempty
        exact works_release hempty
      next id m hslot =>
        rw [hslot] at hempty hgoes
        exact works_afterStop ((hempty.begins id .stop).stepSession fun _ => rfl) hgoes
    next => exact hstart
  | stopping key slot ticket rest closed id stop =>
    exact works_afterStop (hstart.stepSession fun _ => rfl) hgoes

end DisconnectPoint

/-! ### Any operation -/

namespace CacheTask

theorem job?_bind {π ρ : Type} {make : π → CacheTask} {reply : ρ → CacheReply}
    (pointJob? : π → Option Job) (hmake : ∀ point, (make point).job? = pointJob? point)
    (progress : Progress π ρ) :
    (progress.map make reply).point?.bind job? = progress.point?.bind pointJob? := by
  cases progress with
  | blocked | finished => rfl
  | moved point => exact hmake point

/-- A step of an operation is nothing but moves at the adapters. -/
theorem works_step (now : Instant) (files : Option Tree) (task : CacheTask) (cache : Cache)
    (hgoes : (task.step now files cache).2 ≠ .blocked) :
    cache.Works now files task.job? (task.step now files cache).1
      ((task.step now files cache).2.point?.bind job?) := by
  have hstart := Cache.Works.refl now files cache task.job?
  cases task with
  | find entry =>
    have hentry : cache.Works now files none (entry.step files cache).1 none :=
      hstart.rearranged (entry.adapters_step files cache)
    rw [step, Stepped.map, job?_bind (fun _ => none) fun _ => rfl]
    show cache.Works now files none (cache.stepAdapterFor files entry).1 _
    rw [show ((cache.stepAdapterFor files entry).2.point?.bind fun _ => (none : Option Job)) = none
      from by cases (cache.stepAdapterFor files entry).2 <;> rfl]
    unfold Cache.stepAdapterFor
    generalize entry.step files cache = stepped at hentry
    obtain ⟨m, progress⟩ := stepped
    cases progress with
    | blocked | moved => exact hentry
    | finished result =>
      cases result with
      | error error => exact hentry
      | ok hold => exact (hentry.adapterIn hold.key hold.server hold.slot).rearranged rfl
  | findFor workspace file =>
    simp only [step]
    split
    · exact hstart
    · exact hstart
  | ensure point =>
    rw [step, Stepped.map, job?_bind _ fun _ => rfl]
    exact point.works_step now files cache (Stepped.ne_blocked_of_map hgoes)
  | revive point =>
    rw [step, Stepped.map, job?_bind _ fun _ => rfl]
    exact point.works_step now files cache (Stepped.ne_blocked_of_map hgoes)
  | disconnect point =>
    rw [step, Stepped.map, job?_bind _ fun _ => rfl]
    exact point.works_step now files cache (Stepped.ne_blocked_of_map hgoes)
  | ask id point =>
    rw [step, Stepped.map,
      job?_bind (fun point => some (id, .inquiry point)) fun _ => rfl]
    have hblocked := Stepped.ne_blocked_of_map hgoes
    show cache.Works now files (some (id, .inquiry point))
      (cache.stepAdapter id (point.step now files)).1 _
    unfold Cache.stepAdapter at hblocked ⊢
    cases hadapter : cache.adapters[id]? with
    | none =>
      rw [hadapter] at hblocked
      exact absurd rfl hblocked
    | some adapter =>
      rw [hadapter] at hblocked
      have hgoesOn : (AdapterTask.step now files (.inquiry point) adapter).2 ≠ .blocked := fun h =>
        hblocked (Progress.eq_blocked_of_map h)
      have hgone := hstart.goesOn hadapter hgoesOn
      have hjob : ((point.step now files adapter).2.point?.bind fun point =>
          some (id, AdapterTask.inquiry point)) =
          (AdapterTask.step now files (.inquiry point) adapter).2.point?.map
            fun task => (id, task) := by
        show _ = ((point.step now files adapter).2.map AdapterTask.inquiry
          AdapterReply.sourced).point?.map _
        cases (point.step now files adapter).2 <;> rfl
      show cache.Works now files _ _ ((point.step now files adapter).2.point?.bind fun point =>
        some (id, AdapterTask.inquiry point))
      rw [hjob]
      exact hgone

/-- So is the end of an operation that is given up. -/
theorem works_cancel (now : Instant) (files : Option Tree) (task : CacheTask) (cache : Cache) :
    cache.Works now files task.job? (task.cancel cache) none := by
  have hstart := Cache.Works.refl now files cache task.job?
  cases task with
  | find entry => exact hstart.rearranged (entry.adapters_cancel cache)
  | findFor workspace file => exact hstart
  | ensure point => exact point.works_cancel now files cache
  | revive point =>
    cases point with
    | entering entry => exact hstart.rearranged (entry.adapters_cancel cache)
    | resetting hold id guardPoint => exact hstart.givesUp.rearranged rfl
  | disconnect point =>
    cases point with
    | starting | finding => exact hstart
    | working rest => exact hstart.rearranged (DisconnectPoint.adapters_dropAll rest cache)
    | queued key slot ticket rest =>
      exact hstart.rearranged (DisconnectPoint.adapters_dropAll rest _)
    | stopping key slot ticket rest closed id stop =>
      exact hstart.givesUp.rearranged (DisconnectPoint.adapters_dropAll rest _)
  | ask id point => exact hstart.givesUp

end CacheTask
end SymbolSearch
