import SymbolSearch.Proofs.Cache.Moments

/-!
# Exhausted budgets

A session whose restarts are used up stays in its slot, and nobody launches a server for it until it
is reset or disconnected.

* `CacheMoment.launch?`, `CacheMoment.exhausted?` and `CacheMoment.freed?` — what a moment of a course
  is for the budget of a key.
* `CacheCourse.Spent` — the budget of a key is used up; `CacheCourse.Spent.next` says how long, and
  `CacheCourse.Spent.not_launch` what follows.
-/

namespace SymbolSearch

open Session

/-! ### Moments -/

namespace CacheTask

/-- The key for which a step asks for a launch. -/
def launch? : CacheTask → Progress CacheTask CacheReply → Option CacheKey
  | .ensure (.trying attempt (.queued _)), .moved (.ensure (.trying _ (.launching _))) =>
    some attempt.hold.key
  | _, _ => none

/-- The key whose session is found to have no restarts left. -/
def exhausts? : CacheTask → Progress CacheTask CacheReply → Option CacheKey
  | .ensure (.trying attempt (.queued _)),
      .finished (.ensured (.error (.session _ (.restartBudgetExhausted _)))) =>
    some attempt.hold.key
  | _, _ => none

/-- The key whose session is reset, or taken out of its slot to be disconnected. -/
def frees? : CacheTask → Progress CacheTask CacheReply → Option CacheKey
  | .revive (.resetting hold _ _), .finished (.revived (.ok true)) => some hold.key
  | .disconnect point, progress => (disconnect point).evicts progress
  | _, _ => none

variable {task : CacheTask} {progress : Progress CacheTask CacheReply} {key : CacheKey}

theorem eq_of_launch? (h : task.launch? progress = some key) :
    ∃ attempt ticket attempt' ticket', task = .ensure (.trying attempt (.queued ticket)) ∧
      progress = .moved (.ensure (.trying attempt' (.launching ticket'))) ∧
      attempt.hold.key = key := by
  unfold launch? at h
  split at h
  · exact ⟨_, _, _, _, rfl, rfl, Option.some.inj h⟩
  · cases h

theorem eq_of_exhausts? (h : task.exhausts? progress = some key) :
    ∃ attempt ticket ecosystem restarts, task = .ensure (.trying attempt (.queued ticket)) ∧
      progress =
        .finished (.ensured (.error (.session ecosystem (.restartBudgetExhausted restarts)))) ∧
      attempt.hold.key = key := by
  unfold exhausts? at h
  split at h
  · exact ⟨_, _, _, _, rfl, rfl, Option.some.inj h⟩
  · cases h

end CacheTask

namespace CacheMoment

/-- The launch that is asked for at a moment: by which operation, and for which key. -/
def launch? (moment : CacheMoment) : Option (Nat × CacheKey) :=
  (cacheRules.step? moment).bind fun (i, task, progress) =>
    (task.launch? progress).map fun key => (i, key)

/-- The key whose session is found to have no restarts left at a moment. -/
def exhausted? (moment : CacheMoment) : Option CacheKey :=
  (cacheRules.step? moment).bind fun (_, task, progress) => task.exhausts? progress

/-- The key whose session is reset or disconnected at a moment. -/
def freed? (moment : CacheMoment) : Option CacheKey :=
  (cacheRules.step? moment).bind fun (_, task, progress) => task.frees? progress

end CacheMoment

/-! ### Steps in a session without restarts -/

/-- Whether a session has crashed and has no restarts left. -/
def Account.IsSpent (account : Account) : Prop :=
  account.state = .crashed ∧ account.settings.maxRestarts ≤ account.restarts

theorem Account.Drifts.of_crashed {now : Instant} {account account' : Account}
    (h : account.Drifts now account') (hcrashed : account.state = .crashed) :
    account' = account := by
  cases h with
  | stays same => exact same
  | counts takes =>
    rw [hcrashed] at takes
    cases takes
  | lost up =>
    rw [hcrashed] at up
    cases up

theorem EnsurePoint.step_spent {s : Session} (hspent : s.account.IsSpent) (now : Instant)
    (ticket : Ticket) :
    (queued ticket).step now s = (s, .blocked) ∨
      (queued ticket).step now s = finish ticket s (.error (.restartBudgetExhausted s.restarts)) := by
  obtain ⟨hcrashed, hbudget⟩ := hspent
  have hstate : s.state = .crashed := hcrashed
  have hleft : s.settings.maxRestarts ≤ s.restarts := hbudget
  simp only [step]
  split
  · right
    simp only [decide, hstate, if_pos hleft]
  · exact .inl rfl

/-- The budget is reported as exhausted when it is, or when the launcher says so. -/
theorem EnsurePoint.exhausted_cases {now : Instant} {s : Session} {ensure : EnsurePoint}
    {restarts : Nat}
    (h : (ensure.step now s).2 = .finished (.error (.restartBudgetExhausted restarts))) :
    (∃ ticket, ensure = .queued ticket) ∧ s.account.IsSpent ∧ restarts = s.restarts ∧
        (ensure.step now s).1.account = s.account ∨
      (∃ ticket, ensure = .launching ticket) ∧
        s.launch = .finished (.error (.restartBudgetExhausted restarts)) ∧
        (ensure.step now s).1.state = .crashed := by
  have hmoves := ensure.step_moves now s
  generalize ensure.step now s = stepped at h hmoves
  cases hmoves with
  | answers ticket result holds exhausted =>
    cases h
    obtain ⟨hcrashed, hleft, hsame⟩ := exhausted restarts rfl
    exact .inl ⟨⟨ticket, rfl⟩, ⟨hcrashed, hleft⟩, hsame, rfl⟩
  | fails ticket error launched =>
    cases h
    exact .inr ⟨⟨ticket, rfl⟩, launched, rfl⟩
  | crashes _ ticket m error before quiet greeting =>
    cases h
    exact absurd rfl (greeting restarts)
  | blocks | joins | wakes | cools | launches | relaunches | links | greets | succeeds => cases h

/-- Whoever resets a session that has crashed succeeds as soon as he has the guard. -/
theorem Session.stepReset_crashed {s : Session} (hcrashed : s.state = .crashed)
    (point : GuardPoint) :
    (s.stepReset point).1.account = s.account ∨ (s.stepReset point).2 = .finished true := by
  have hmoves := point.step_moves resetNow s
  unfold stepReset
  generalize point.step resetNow s = stepped at hmoves
  cases hmoves with
  | blocks | joins => exact .inl rfl
  | acts ticket holds =>
    right
    simp only [resetNow, hcrashed]

namespace CacheTask

/-- Whether an operation does nothing with a session but wait for its guard, to bring it up or to
    reset it. -/
def Waits (task : CacheTask) : Prop :=
  (∃ attempt ticket, task = .ensure (.trying attempt (.queued ticket))) ∨
    ∃ hold id guardPoint, task = .revive (.resetting hold id guardPoint)

theorem Waits.closing? {task : CacheTask} (h : task.Waits) : task.stance.closing? = none := by
  rcases h with ⟨attempt, ticket, rfl⟩ | ⟨hold, id, guardPoint, rfl⟩
  · rfl
  · rfl

theorem not_inside_entry {key : CacheKey} {entry : EntryPoint} {task : CacheTask}
    (hstance : task.stance = entry.stance) : ¬task.Inside key := by
  rintro ⟨seat, rest, work, hinside, -⟩
  rw [hstance] at hinside
  cases entry <;> cases hinside

end CacheTask

/-- Whoever waits for the guard of a session without restarts goes on waiting, or is told that it
    has none. -/
theorem ReconnectPoint.step_spent {cache : Cache} {attempt : Attempt} {s : Session}
    (hs : cache.session? attempt.adapter = some s) (hspent : s.account.IsSpent) (now : Instant)
    (files : Option Tree) (ticket : Ticket) :
    ((trying attempt (.queued ticket)).step now files cache).2 = .blocked ∨
      ∃ error, ((trying attempt (.queued ticket)).step now files cache).2 =
        .finished (.error error) := by
  have hsecond := Cache.stepSession_snd hs (EnsurePoint.step now (.queued ticket))
  simp only [step]
  generalize cache.stepSession attempt.adapter (EnsurePoint.step now (.queued ticket)) = stepped
    at hsecond
  obtain ⟨m, progress⟩ := stepped
  rcases EnsurePoint.step_spent hspent now ticket with hstep | hstep
  · rw [hstep] at hsecond
    obtain rfl : progress = .blocked := hsecond
    exact .inl rfl
  · rw [hstep] at hsecond
    obtain rfl : progress = .finished (.error (.restartBudgetExhausted s.restarts)) := hsecond
    exact .inr ⟨_, rfl⟩

theorem RevivePoint.step_resets {cache : Cache} {id : AdapterId} {s : Session}
    (hs : cache.session? id = some s) {guardPoint : GuardPoint}
    (hreset : (s.stepReset guardPoint).2 = .finished true) (hold : Hold) (files : Option Tree) :
    ((resetting hold id guardPoint).step files cache).2 = .finished (.ok true) := by
  have hsecond := (Cache.stepSession_snd hs (Session.stepReset guardPoint)).trans hreset
  simp only [step]
  generalize cache.stepSession id (Session.stepReset guardPoint) = stepped at hsecond
  obtain ⟨m, progress⟩ := stepped
  obtain rfl : progress = .finished true := hsecond
  rfl

/-- Whoever gets to a slot waits for the guard of its session first; else he had the slot before. -/
theorem ReconnectMoves.inside {now : Instant} {files : Option Tree} {cache m : Cache}
    {point point' : ReconnectPoint} {key : CacheKey}
    (h : ReconnectMoves now files cache point (m, .moved point'))
    (hinside : (CacheTask.ensure point').Inside key) :
    (CacheTask.ensure point').Waits ∨ (CacheTask.ensure point).Inside key := by
  have hattempt {point : ReconnectPoint} {attempt : Attempt} (hpoint : point.attempt? = some attempt)
      (hkey : attempt.hold.key = key) : (CacheTask.ensure point).Inside key :=
    ⟨attempt.hold.seat, [], .keeps attempt.adapter, ReconnectPoint.stance_of_attempt? hpoint, hkey⟩
  generalize hstepped : (m, Progress.moved point') = stepped at h
  cases h with
  | comes entry entry' =>
    cases hstepped
    exact absurd hinside (CacheTask.not_inside_entry rfl)
  | begins point hold failed m id s ticket =>
    cases hstepped
    exact .inl (.inl ⟨_, ticket, rfl⟩)
  | tries attempt ensure ensure' =>
    cases hstepped
    exact .inr hinside
  | checks point attempt m s ticket trying =>
    cases hstepped
    obtain ⟨_, _, _, ⟨⟩, hkey⟩ := hinside
    exact .inr (hattempt trying hkey)
  | pauses point attempt m resume trying =>
    cases hstepped
    obtain ⟨_, _, _, ⟨⟩, hkey⟩ := hinside
    exact .inr (hattempt trying hkey)
  | evicts point attempt m id stop error trying =>
    cases hstepped
    obtain ⟨_, _, _, ⟨⟩, hkey⟩ := hinside
    exact .inr (hattempt trying hkey)
  | stops hold id stop stop' error =>
    cases hstepped
    exact .inr hinside
  | blocks | refuses | succeeds | exhausts | misses | ends => cases hstepped

/-- Whoever closes the session of a slot has taken it out, now or before. -/
theorem DisconnectPoint.inside_step {now : Instant} {files : Option Tree} {cache m : Cache}
    {point point' : DisconnectPoint} {key : CacheKey}
    (h : point.step now files cache = (m, .moved point'))
    (hinside : (CacheTask.disconnect point').Inside key) :
    (CacheTask.disconnect point).evicts (.moved (.disconnect point')) = some key ∨
      (CacheTask.disconnect point).Inside key := by
  have hrelease {key' : CacheKey} {slot : SlotId} {ticket : Ticket}
      {rest : List (CacheKey × SlotId)} {closed : Nat} {before : Cache}
      (h : release key' slot ticket rest closed before = (m, .moved point')) :
      ¬(CacheTask.disconnect point').Inside key := by
    cases h
    rintro ⟨_, _, _, ⟨⟩, -⟩
  have hafter {key' : CacheKey} {slot : SlotId} {ticket : Ticket}
      {rest : List (CacheKey × SlotId)} {closed : Nat} {id : AdapterId}
      {stepped : Stepped Cache StopPoint Unit}
      (h : afterStop key' slot ticket rest closed id stepped = (m, .moved point')) :
      ∃ stop, point' = .stopping key' slot ticket rest closed id stop := by
    obtain ⟨m', progress⟩ := stepped
    cases progress with
    | blocked => cases h
    | moved stop =>
      cases h
      exact ⟨stop, rfl⟩
    | finished => exact absurd hinside (hrelease h)
  cases point with
  | starting =>
    cases h
    obtain ⟨_, _, _, ⟨⟩, -⟩ := hinside
  | finding workspace =>
    simp only [step] at h
    split at h
    · cases h
    · cases h
      obtain ⟨_, _, _, ⟨⟩, -⟩ := hinside
  | working rest closed =>
    cases rest with
    | nil => cases h
    | cons claim rest =>
      cases h
      obtain ⟨_, _, _, ⟨⟩, -⟩ := hinside
  | queued key' slot ticket rest closed =>
    simp only [step] at h
    split at h
    · split at h
      · exact absurd hinside (hrelease h)
      · obtain ⟨stop, rfl⟩ := hafter h
        obtain ⟨_, _, _, ⟨⟩, hkey⟩ := hinside
        exact .inl (congrArg some hkey)
    · cases h
  | stopping key' slot ticket rest closed id stop =>
    obtain ⟨stop', rfl⟩ := hafter h
    exact .inr hinside

/-! ### The budget of a key -/

namespace CacheCourse

/-- The session in the slot of a key has crashed and has no restarts left, and whoever has the guard
    of the slot only waits for the guard of the session. -/
def Spent (key : CacheKey) (course : CacheCourse) : Prop :=
  ∃ a account, course.shared.current? key = some a ∧ course.shared.account? a = some account ∧
    account.IsSpent ∧
    ∀ i task, course.task? i = some task → task.Inside key → task.Waits

variable {course : CacheCourse} {event : CacheEvent} {i : Nat} {key : CacheKey} {a : AdapterId}
  {task task' : CacheTask} {attempt : Attempt} {ensure : EnsurePoint}

/-- No attempt for the key goes on while the budget is used up. -/
theorem Spent.trying (h : course.Spent key) (htidy : course.IsTidy) {ticket : Ticket}
    (hi : course.task? i = some (.ensure (.trying attempt (.queued ticket))))
    (hkey : attempt.hold.key = key) (now : Instant) (input : Option Tree) :
    ((ReconnectPoint.trying attempt (.queued ticket)).step now input course.shared).2 = .blocked ∨
      ∃ error, ((ReconnectPoint.trying attempt (.queued ticket)).step now input course.shared).2 =
        .finished (.error error) := by
  obtain ⟨a, account, hcurrent, haccount, hspent, -⟩ := h
  have hsame := htidy.current_of_attempt? hi rfl
  rw [hkey, hcurrent] at hsame
  obtain rfl := Option.some.inj hsame
  obtain ⟨s, hs, rfl⟩ := Option.map_eq_some_iff.mp haccount
  exact ReconnectPoint.step_spent hs hspent now input ticket

/-- Nobody launches a server for the key. -/
theorem Spent.not_launch (h : course.Spent key) (htidy : course.IsTidy) :
    CacheMoment.launch? (course, event) ≠ some (i, key) := by
  intro hlaunch
  obtain ⟨⟨j, task, progress⟩, hstep, hkey⟩ := Option.bind_eq_some_iff.mp hlaunch
  obtain ⟨input, rfl, stands, hprogress⟩ := cacheRules.step?_eq_some hstep
  obtain ⟨found, hfound, hpair⟩ := Option.map_eq_some_iff.mp hkey
  obtain ⟨rfl, hfor⟩ := Prod.mk.inj hpair
  obtain ⟨attempt, ticket, attempt', ticket', rfl, rfl, rfl⟩ := CacheTask.eq_of_launch? hfound
  have hmoved : ((ReconnectPoint.trying attempt (.queued ticket)).step course.now input
      course.shared).2.map CacheTask.ensure CacheReply.ensured =
        .moved (.ensure (.trying attempt' (.launching ticket'))) := hprogress
  rcases h.trying htidy stands hfor course.now input with hstep | ⟨error, hstep⟩
  · rw [hstep] at hmoved
    cases hmoved
  · rw [hstep] at hmoved
    cases hmoved

/-- Whoever has got to the slot of the key waits there, or he disconnects the key. -/
theorem Spent.moved (h : course.Spent key) (htidy : course.IsTidy) (hi : course.task? i = some task)
    {input : Option Tree}
    (hstep : (task.step course.now input course.shared).2 = .moved task')
    (hinside : task'.Inside key) : task'.Waits ∨ task.frees? (.moved task') = some key := by
  have hwaits (hbefore : task.Inside key) : task.Waits := by
    obtain ⟨a, account, -, -, -, hwaits⟩ := h
    exact hwaits i task hi hbefore
  cases task with
  | find entry =>
    obtain ⟨entry', -, rfl⟩ := Progress.eq_moved_of_map hstep
    exact absurd hinside (CacheTask.not_inside_entry rfl)
  | findFor workspace file =>
    simp only [CacheTask.step] at hstep
    split at hstep
    · cases hstep
    · cases hstep
      obtain ⟨_, _, _, ⟨⟩, -⟩ := hinside
  | ask id point =>
    obtain ⟨point', -, rfl⟩ := Progress.eq_moved_of_map hstep
    obtain ⟨_, _, _, ⟨⟩, -⟩ := hinside
  | ensure point =>
    obtain ⟨point', hpoint, rfl⟩ := Progress.eq_moved_of_map hstep
    have hmoves := point.step_moves course.now input course.shared
    rw [show point.step course.now input course.shared =
      ((point.step course.now input course.shared).1, .moved point') from Prod.ext rfl hpoint]
      at hmoves
    rcases hmoves.inside hinside with hnow | hbefore
    · exact .inl hnow
    · -- He was there before, but nobody who waits there can go on.
      rcases hwaits hbefore with ⟨attempt, ticket, hpoint'⟩ | ⟨_, _, _, hpoint'⟩
      · cases hpoint'
        obtain ⟨_, _, _, ⟨⟩, hkey⟩ := hbefore
        rcases h.trying htidy hi hkey course.now input with hblocked | ⟨error, hfinished⟩
        · rw [hpoint] at hblocked
          cases hblocked
        · rw [hpoint] at hfinished
          cases hfinished
      · cases hpoint'
  | revive point =>
    obtain ⟨point', hpoint, rfl⟩ := Progress.eq_moved_of_map hstep
    cases point' with
    | entering entry => exact absurd hinside (CacheTask.not_inside_entry rfl)
    | resetting hold id guardPoint => exact .inl (.inr ⟨hold, id, guardPoint, rfl⟩)
  | disconnect point =>
    obtain ⟨point', hpoint, rfl⟩ := Progress.eq_moved_of_map hstep
    rcases DisconnectPoint.inside_step (Prod.ext rfl hpoint) hinside with hevicts | hbefore
    · exact .inr hevicts
    · rcases hwaits hbefore with ⟨_, _, hpoint'⟩ | ⟨_, _, _, hpoint'⟩
      · cases hpoint'
      · cases hpoint'

theorem freed?_of_step {input : Option Tree} {progress : Progress CacheTask CacheReply}
    (hi : course.task? i = some task)
    (hstep : (task.step course.now input course.shared).2 = progress) :
    CacheMoment.freed? (course, .step i input) = task.frees? progress := by
  rw [CacheMoment.freed?, cacheRules.step?_step hi]
  exact congrArg task.frees? hstep

/-- The session of the key is taken out by nobody but one who disconnects it. -/
theorem Spent.not_evicted (h : course.Spent key) (htidy : course.IsTidy)
    (hkept : CacheMoment.freed? (course, event) ≠ some key) :
    CacheMoment.evicted? (course, event) ≠ some key := by
  intro hevicted
  obtain ⟨⟨i, task, progress⟩, hstep, hevicts⟩ := Option.bind_eq_some_iff.mp hevicted
  obtain ⟨input, rfl, stands, hprogress⟩ := cacheRules.step?_eq_some hstep
  have hprogress : (task.step course.now input course.shared).2 = progress := hprogress
  cases progress with
  | blocked => exact absurd (hevicts.symm.trans (Stance.evicted_has _ _)) (by rintro ⟨⟩)
  | finished => exact absurd (hevicts.symm.trans (Stance.evicted_has _ _)) (by rintro ⟨⟩)
  | moved task' =>
    have hclosing : task'.stance.closing? = some key := by
      have hevicts : task.stance.evicted task'.stance = some key := hevicts
      unfold Stance.evicted at hevicts
      split at hevicts
      next found _ hafter => exact hafter.trans hevicts
      next => cases hevicts
    have hinside : task'.Inside key := by
      cases hstance : task'.stance with
      | has | queued =>
        rw [hstance] at hclosing
        cases hclosing
      | inside seat rest work =>
        rw [hstance] at hclosing
        cases work with
        | nothing | keeps => cases hclosing
        | closes id => exact ⟨seat, rest, .closes id, hstance, Option.some.inj hclosing⟩
    rcases h.moved htidy stands hprogress hinside with hwaits | hfrees
    · rw [hwaits.closing?] at hclosing
      cases hclosing
    · exact hkept ((freed?_of_step stands hprogress).trans hfrees)

/-- The account of the session stays until it is reset. -/
theorem Spent.account (h : course.Spent key) (htidy : course.IsTidy)
    (hkept : CacheMoment.freed? (course, event) ≠ some key)
    (hcurrent : course.shared.current? key = some a) {account : Account}
    (haccount : course.shared.account? a = some account) (hspent : account.IsSpent) :
    (cacheRules.next course event).shared.account? a = some account := by
  obtain ⟨s, hs, rfl⟩ := Option.map_eq_some_iff.mp haccount
  obtain ⟨account', haccount', hdrifts | ⟨own, hown, rfl⟩⟩ := accounted_next course event a s hs
  · rw [haccount', hdrifts.of_crashed hspent.1]
  obtain ⟨⟨i, task, progress⟩, hstep, hmine⟩ := Option.bind_eq_some_iff.mp hown
  obtain ⟨input, rfl, stands, -⟩ := cacheRules.step?_eq_some hstep
  have hmine : task.own? = some (a, own) := hmine
  have hinside := htidy.inside_of_own stands hmine hcurrent
  obtain ⟨_, _, -, -, -, hwaits⟩ := h
  rw [haccount']
  refine congrArg some ?_
  rcases hwaits i task stands hinside with ⟨attempt, ticket, rfl⟩ | ⟨hold, id, guardPoint, rfl⟩
  · cases hmine
    show ((EnsurePoint.queued ticket).step course.now s).1.account = s.account
    rcases EnsurePoint.step_spent hspent course.now ticket with hasks | hasks
    · rw [hasks]
    · rw [hasks]
      rfl
  · cases hmine
    rcases Session.stepReset_crashed hspent.1 guardPoint with hsame | hreset
    · exact hsame
    · -- Now the session is reset.
      obtain ⟨_, _, _, ⟨⟩, hkey⟩ := hinside
      have hfinished := RevivePoint.step_resets hs hreset hold input
      have hstep : (CacheTask.step course.now input (.revive (.resetting hold a guardPoint))
          course.shared).2 = .finished (.revived (.ok true)) :=
        congrArg (Progress.map CacheTask.revive CacheReply.revived) hfinished
      exact absurd ((freed?_of_step stands hstep).trans (congrArg some hkey)) hkept

/-- The budget of the key stays used up until its session is reset or disconnected. -/
theorem Spent.next (h : course.Spent key) (htidy : course.IsTidy)
    (hkept : CacheMoment.freed? (course, event) ≠ some key) :
    Spent key (cacheRules.next course event) := by
  obtain ⟨a, account, hcurrent, haccount, hspent, hwaits⟩ := id h
  refine ⟨a, account, ?_, h.account htidy hkept hcurrent haccount hspent, hspent, ?_⟩
  · exact (current_next htidy hcurrent).resolve_right (h.not_evicted htidy hkept)
  have hmoves := cacheRules.next_moves course event
  generalize cacheRules.next course event = course' at hmoves
  intro i task' hi hinside
  cases hmoves with
  | blocks | misses | occurs | waits => exact hwaits i task' hi hinside
  | begins call =>
    by_cases hlast : i = course.tasks.length
    · rw [hlast, Crowd.task?_concat_self] at hi
      obtain rfl := Option.some.inj hi
      obtain ⟨_, _, _, hstance, -⟩ := hinside
      cases call <;> cases hstance
    · rw [Crowd.task?_concat_of_ne hlast] at hi
      exact hwaits i task' hi hinside
  | moves j input task after shared stands step =>
    by_cases hji : j = i
    · subst hji
      rw [Crowd.task?_put_self stands] at hi
      obtain rfl := Option.some.inj hi
      have hmoved : (task.step course.now input course.shared).2 = .moved after :=
        congrArg Prod.snd step
      refine (h.moved htidy stands hmoved hinside).resolve_right fun hfrees => ?_
      exact hkept ((freed?_of_step stands hmoved).trans hfrees)
    · rw [Crowd.task?_put_of_ne hji] at hi
      exact hwaits i task' hi hinside
  | finishes j input task result shared stands | givesUp j task stands =>
    by_cases hji : j = i
    · subst hji
      rw [Crowd.task?_put_self stands] at hi
      cases hi
    · rw [Crowd.task?_put_of_ne hji] at hi
      exact hwaits i task' hi hinside

/-- An attempt that ends because the budget is exhausted has found it so, or its launch has told it
    so. -/
theorem IsTidy.exhausts (htidy : course.IsTidy)
    (hi : course.task? i = some (.ensure (.trying attempt ensure))) {input : Option Tree}
    {ecosystem : Ecosystem} {restarts : Nat}
    (hstep : ((ReconnectPoint.trying attempt ensure).step course.now input course.shared).2 =
      .finished (.error (.session ecosystem (.restartBudgetExhausted restarts)))) :
    ∃ s, course.shared.session? attempt.adapter = some s ∧
      (ensure.step course.now s).2 = .finished (.error (.restartBudgetExhausted restarts)) := by
  have hmoves := ReconnectPoint.step_moves course.now input (.trying attempt ensure) course.shared
  generalize hpoint : ReconnectPoint.trying attempt ensure = point at hstep hmoves
  generalize point.step course.now input course.shared = stepped at hstep hmoves
  cases hmoves with
  | exhausts attempt' ensure' s restarts' found step =>
    cases hpoint
    cases hstep
    exact ⟨s, found, step⟩
  | misses point attempt' m error trying empty =>
    -- The slot of an attempt is not empty.
    subst hpoint
    have hadapter := htidy.adapter_of_attempt? hi trying
    rw [hadapter] at empty
    cases empty
  | refuses | ends => cases hpoint
  | blocks | comes | begins | tries | checks | succeeds | pauses | evicts | stops => cases hstep

/-- When a session is found to have no restarts left, the budget of its key is used up. -/
theorem spent_of_exhausted (htidy : course.IsTidy)
    (h : CacheMoment.exhausted? (course, event) = some key) :
    Spent key (cacheRules.next course event) := by
  obtain ⟨⟨i, task, progress⟩, hstep, hexhausts⟩ := Option.bind_eq_some_iff.mp h
  obtain ⟨input, rfl, stands, hprogress⟩ := cacheRules.step?_eq_some hstep
  obtain ⟨attempt, ticket, ecosystem, restarts, rfl, rfl, rfl⟩ :=
    CacheTask.eq_of_exhausts? hexhausts
  obtain ⟨result, hresult, heq⟩ := Progress.eq_finished_of_map hprogress
  cases heq
  obtain ⟨s, hs, hasks⟩ := htidy.exhausts stands hresult
  have hspent : s.account.IsSpent := by
    rcases EnsurePoint.exhausted_cases hasks with ⟨-, hspent, -⟩ | ⟨⟨_, ⟨⟩⟩, -⟩
    exact hspent
  have hcurrent := htidy.current_of_attempt? stands rfl
  have hnot : CacheMoment.evicted? (course, .step i input) ≠ some attempt.hold.key := by
    rw [CacheMoment.evicted?_of_finished hstep]
    rintro ⟨⟩
  refine ⟨attempt.adapter, s.account, (current_next htidy hcurrent).resolve_right hnot, ?_, hspent,
    ?_⟩
  · -- Its account is as it was found.
    obtain ⟨account, haccount, hdrifts | ⟨own, hown, rfl⟩⟩ :=
      accounted_next course (.step i input) attempt.adapter s hs
    · rw [haccount, hdrifts.of_crashed hspent.1]
    · rw [CacheMoment.own?, hstep] at hown
      cases hown
      rw [haccount]
      refine congrArg some ?_
      show ((EnsurePoint.queued ticket).step course.now s).1.account = s.account
      rcases EnsurePoint.step_spent hspent course.now ticket with hstays | hstays
      · rw [hstays]
      · rw [hstays]
        rfl
  · -- The one who had the guard of the slot has left, and nobody else had it.
    intro j task hj hinside
    generalize hstepped : cacheRules.step course.now input
      (.ensure (.trying attempt (.queued ticket))) course.shared = stepped at hprogress
    obtain ⟨shared, progress⟩ := stepped
    obtain rfl := hprogress
    rw [cacheRules.next_of_finished stands hstepped] at hj
    by_cases hji : i = j
    · subst hji
      rw [Crowd.task?_put_self stands] at hj
      cases hj
    · rw [Crowd.task?_put_of_ne hji] at hj
      have hmine : (CacheTask.ensure (.trying attempt (.queued ticket))).Inside attempt.hold.key :=
        ⟨attempt.hold.seat, [], .keeps attempt.adapter, rfl, rfl⟩
      exact absurd (htidy.eq_of_inside stands hj hmine hinside) hji

end CacheCourse
end SymbolSearch
