import SymbolSearch.Proofs.Proxy.Verdicts

/-!
# Time limits of a pass

A pass waits for a response until its own limit or the deadline of its request, and no longer, as
long as nobody lets it sleep.

* `ProxyMoment.IsPunctual` — nobody lets a pass sleep beyond the time at which it goes on by itself.
* `ProxyMoment.Asks` — the request of a pass begins.
* `InTime` — a response has come within both limits.
* `ProxyCourse.Timed` — every response has come in time; `ProxyCourse.Timed.next` shows that every
  event keeps it so.
* `ProxyCourse.blocked_of_waiting` — before its limits are over a pass does not give a request up
  that is in the table.
-/

namespace SymbolSearch

variable {now : Instant} {s : Session} {reply : PendingReply} {whole past : List ProxyMoment}
  {course course' : ProxyCourse} {event : ProxyEvent} {moment : ProxyMoment} {i : Nat}
  {e : Ecosystem} {a : AdapterId} {query query' : QueryPoint} {deadline : Instant}
  {rest : List Ecosystem} {checked : Nat} {point : CheckPoint} {input : ProxyInput}

/-- The deadline of a question counts from when its request begins. -/
theorem QueryPoint.deadline_of_starting {wanted : Query}
    (h : ((starting wanted).step now s).2 = .moved query') (hreply : query'.reply? = some reply) :
    reply.deadline = now + s.settings.requestTimeout := by
  simp only [step] at h
  split at h
  · cases hcall : CallPoint.step now (.starting (.query wanted) s.settings.requestTimeout) s with
    | mk m progress =>
      rw [hcall] at h
      cases progress with
      | blocked => cases h
      | finished result =>
        simp only [afterCall, finish] at h
        split at h <;> cases h
      | moved call =>
        cases h
        simp only [CallPoint.step] at hcall
        split at hcall
        · cases hcall
        · split at hcall <;> cases hcall <;> cases hreply <;> rfl
  · cases h

namespace ProxyMoment

/-- Whether nobody lets a pass sleep beyond the time at which it goes on by itself. -/
def IsPunctual (i : Nat) (moment : ProxyMoment) : Prop :=
  ∀ time point t, moment.2 = .wait time → moment.1.task? i = some (.check point) →
    point.deadline? = some t → moment.1.now + time ≤ max moment.1.now t

/-- The request of a pass about an ecosystem begins. Its deadline is the end of the time that the
    session gives to requests. -/
inductive Asks (i : Nat) (e : Ecosystem) (reply : PendingReply) : ProxyMoment → Prop where
  | asks (course : ProxyCourse) (input : ProxyInput) (a : AdapterId) (s : Session)
      (query' : QueryPoint) (deadline : Instant) (rest : List Ecosystem) (checked : Nat)
      (stands : course.task? i = some (.check
        (.probing e a (.starting (.workspaceSymbols "")) deadline rest checked)))
      (found : course.shared.cache.session? a = some s)
      (step : ((QueryPoint.starting (.workspaceSymbols "")).step course.now s).2 = .moved query')
      (asked : query'.reply? = some reply)
      (limit : reply.deadline = course.now + s.settings.requestTimeout) :
      Asks i e reply (course, .step i input)

end ProxyMoment

/-- Whether the time is within the limit that a pass has for a server, and within the deadline of its
    request. The deadline is looked at only when the request has been sent. -/
structure InTime (past : List ProxyMoment) (i : Nat) (e : Ecosystem) (reply : PendingReply)
    (now : Instant) : Prop where
  ensured : ∃ a s, ∃ moment ∈ past, ProxyMoment.Ensures i e a s moment ∧
    now ≤ moment.1.now + replyLimit
  asked : ∃ moment ∈ past, ProxyMoment.Asks i e reply moment
  sent : ∀ moment ∈ past, ProxyMoment.Sends i e reply moment → now ≤ max reply.deadline moment.1.now

theorem punctual_of_concat (h : ∀ found ∈ past ++ [moment], ProxyMoment.IsPunctual i found) :
    ∀ found ∈ past, found.IsPunctual i :=
  fun found hfound => h found (List.mem_append_left _ hfound)

/-- What was in time stays so, and what is sent now was not late before. -/
theorem InTime.concat {t : Instant} (h : InTime past i e reply t) (hclock : t ≤ moment.1.now) :
    InTime (past ++ [moment]) i e reply t where
  ensured := by
    obtain ⟨a, s, found, hfound, hensures⟩ := h.ensured
    exact ⟨a, s, found, List.mem_append_left _ hfound, hensures⟩
  asked := exists_mem_concat.mpr (.inl h.asked)
  sent := by
    intro found hfound hsends
    rcases List.mem_append.mp hfound with hold | hnew
    · exact h.sent found hold hsends
    · rw [List.mem_singleton.mp hnew]
      exact le_max_of_le_right hclock

namespace ProxyCourse

/-- What holds of the limits of a question. -/
structure Limited (past : List ProxyMoment) (i : Nat) (e : Ecosystem) (query : QueryPoint)
    (deadline now : Instant) : Prop where
  begun : query.reply? = none → query = .starting (.workspaceSymbols "")
  ensured : ∃ a s, ∃ moment ∈ past, ProxyMoment.Ensures i e a s moment ∧
    deadline = moment.1.now + replyLimit
  asked : ∀ reply, query.reply? = some reply → ∃ moment ∈ past, ProxyMoment.Asks i e reply moment
  early : (∀ moment ∈ past, moment.IsPunctual i) → now ≤ deadline
  sent : (∀ moment ∈ past, moment.IsPunctual i) → ∀ reply, ∀ moment ∈ past,
    ProxyMoment.Sends i e reply moment → now ≤ max reply.deadline moment.1.now

/-- A question is within its limits, and so was every one that was responded to. -/
structure Timed (past : List ProxyMoment) (i : Nat) (course : ProxyCourse) : Prop where
  clock : ∀ moment ∈ past, moment.1.now ≤ course.now
  limited : ∀ e a query deadline rest checked,
    course.task? i = some (.check (.probing e a query deadline rest checked)) →
      Limited past i e query deadline course.now
  answers : (∀ moment ∈ past, moment.IsPunctual i) → ∀ e reply outcome, ∀ moment ∈ past,
    ProxyMoment.Answers i e reply outcome moment → InTime past i e reply moment.1.now

namespace Limited

/-- A question is still within its limits while it stands where it is. -/
theorem stays (h : Limited past i e query deadline course.now)
    (hquiet : ¬ProxyMoment.Goes i (course, event)) (hle : (∀ moment ∈ past ++ [(course, event)],
      moment.IsPunctual i) → now ≤ deadline ∧ ∀ reply, ∀ moment ∈ past,
        ProxyMoment.Sends i e reply moment → now ≤ max reply.deadline moment.1.now) :
    Limited (past ++ [(course, event)]) i e query deadline now where
  begun := h.begun
  ensured := by
    obtain ⟨a, s, moment, hmem, hensures⟩ := h.ensured
    exact ⟨a, s, moment, List.mem_append_left _ hmem, hensures⟩
  asked := fun reply hreply => exists_mem_concat.mpr (.inl (h.asked reply hreply))
  early := fun hpunctual => (hle hpunctual).1
  sent := by
    intro hpunctual reply moment hmem hsends
    rcases List.mem_append.mp hmem with hold | hnew
    · exact (hle hpunctual).2 reply moment hold hsends
    · rw [List.mem_singleton.mp hnew] at hsends
      exact absurd hsends.goes hquiet

/-- Time goes on, but not beyond the limits. -/
theorem waits {time : Duration} (h : Limited past i e query deadline course.now)
    (htells : Tells whole past i (.probing e a query deadline rest checked))
    (hstands : course.task? i = some (.check (.probing e a query deadline rest checked))) :
    Limited (past ++ [(course, .wait time)]) i e query deadline (course.now + time) := by
  refine h.stays ?_ fun hpunctual => ?_
  · exact ProxyMoment.not_goes_of_others nofun
  have hbefore := punctual_of_concat hpunctual
  have hearly := h.early hbefore
  have hlimit (t : Instant)
      (ht : (CheckPoint.probing e a query deadline rest checked).deadline? = some t) :
      course.now + time ≤ max course.now t :=
    hpunctual _ (List.mem_append_right _ List.mem_cons_self) time _ t rfl hstands ht
  simp only [CheckPoint.deadline?] at hlimit
  constructor
  · cases hquery : query.deadline? with
    | none =>
      have hnow := hlimit deadline (by rw [hquery]; rfl)
      exact hnow.trans (Nat.max_le.mpr ⟨hearly, Nat.le_refl _⟩)
    | some t =>
      have hnow := hlimit (min t deadline) (by rw [hquery]; rfl)
      exact hnow.trans (Nat.max_le.mpr ⟨hearly, Nat.min_le_right t deadline⟩)
  · intro reply moment hmem hsends
    have hsent := h.sent hbefore reply moment hmem hsends
    cases htells with
    | probes _ _ _ _ _ _ _ _ _ sent =>
      obtain ⟨link, rfl⟩ := (sent reply).mp ⟨moment, hmem, hsends⟩
      have hnow := hlimit (min reply.deadline deadline) rfl
      refine hnow.trans (Nat.max_le.mpr ⟨hsent, ?_⟩)
      exact le_max_of_le_left (Nat.min_le_left reply.deadline deadline)

/-- The question begins. -/
theorem begins {reconnect : ReconnectPoint} {cache : Cache}
    (htells : Tells whole past i (.ensuring e reconnect rest checked))
    (hstands : course.task? i = some (.check (.ensuring e reconnect rest checked)))
    (hstep : reconnect.step course.now input.files course.shared.cache =
      (cache, .finished (.ok a))) (hfound : cache.session? a = some s) :
    Limited (past ++ [(course, .step i input)]) i e (.starting (.workspaceSymbols ""))
      (course.now + replyLimit) course.now where
  begun := fun _ => rfl
  ensured := ⟨a, s, _, List.mem_append_right _ List.mem_cons_self,
    .gets course input reconnect rest checked cache hstands hstep hfound, rfl⟩
  asked := by rintro reply ⟨⟩
  early := fun _ => Nat.le_add_right course.now replyLimit
  sent := by
    intro _ reply moment hmem hsends
    rcases List.mem_append.mp hmem with hold | hnew
    · cases htells with
      | ensures _ _ _ _ untold =>
        exact absurd (.inr (.inl ⟨reply, hsends⟩)) (untold e List.mem_cons_self moment hold)
    · rw [List.mem_singleton.mp hnew] at hsends
      cases hsends with
      | sends _ _ _ _ _ _ _ _ stands => cases hstands.symm.trans stands

/-- The question goes on. -/
theorem goesOn (h : Limited past i e query deadline course.now)
    (hstands : course.task? i = some (.check (.probing e a query deadline rest checked)))
    (hs : course.shared.cache.session? a = some s)
    (hmoved : (query.step course.now s).2 = .moved query') :
    Limited (past ++ [(course, .step i input)]) i e query' deadline course.now := by
  obtain ⟨found, hfound, hcases⟩ := QueryPoint.reply_step hmoved
  constructor
  · rw [hfound]
    nofun
  · obtain ⟨a', s', moment, hmem, hensures⟩ := h.ensured
    exact ⟨a', s', moment, List.mem_append_left _ hmem, hensures⟩
  · rintro reply hreply
    obtain rfl := Option.some.inj (hfound.symm.trans hreply)
    rcases hcases with hasked | ⟨hnone, -⟩
    · exact exists_mem_concat.mpr (.inl (h.asked found hasked))
    · obtain rfl := h.begun hnone
      refine exists_mem_concat.mpr (.inr ?_)
      exact .asks course input a s query' deadline rest checked hstands hs hmoved hfound
        (QueryPoint.deadline_of_starting hmoved hfound)
  · exact fun hpunctual => h.early (punctual_of_concat hpunctual)
  · intro hpunctual reply moment hmem hsends
    rcases List.mem_append.mp hmem with hold | hnew
    · exact h.sent (punctual_of_concat hpunctual) reply moment hold hsends
    · rw [List.mem_singleton.mp hnew]
      exact Nat.le_max_right _ _

end Limited

namespace Timed

/-- What has come in time before, and what comes now. -/
theorem answers_concat (h : Timed past i course)
    (hpunctual : ∀ moment ∈ past ++ [(course, event)], moment.IsPunctual i) (e : Ecosystem)
    (reply : PendingReply) (outcome : ResponseOutcome) :
    ∀ moment ∈ past ++ [(course, event)], ProxyMoment.Answers i e reply outcome moment →
      InTime (past ++ [(course, event)]) i e reply moment.1.now := by
  have hbefore := punctual_of_concat hpunctual
  intro moment hmem hanswers
  rcases List.mem_append.mp hmem with hold | hnew
  · exact (h.answers hbefore e reply outcome moment hold hanswers).concat (h.clock moment hold)
  · obtain rfl := List.mem_singleton.mp hnew
    cases hanswers with
    | answers _ _ a query deadline rest checked stands asked =>
      have hlimited := h.limited e a query deadline rest checked stands
      refine InTime.concat ⟨?_, hlimited.asked reply asked, hlimited.sent hbefore reply⟩
        (Nat.le_refl _)
      obtain ⟨a', s', moment, hensured, hensures, hdeadline⟩ := hlimited.ensured
      exact ⟨a', s', moment, hensured, hensures, hdeadline ▸ hlimited.early hbefore⟩

theorem clock_concat (h : Timed past i course) {later : Instant} (hle : course.now ≤ later) :
    ∀ moment ∈ past ++ [(course, event)], moment.1.now ≤ later := by
  intro moment hmem
  rcases List.mem_append.mp hmem with hold | hnew
  · exact (h.clock moment hold).trans hle
  · rw [List.mem_singleton.mp hnew]
    exact hle

/-- The pass stands where it is. -/
theorem stays (h : Timed past i course) (hquiet : ¬ProxyMoment.Goes i (course, event))
    (htask : course'.task? i = course.task? i) (hnow : course'.now = course.now) :
    Timed (past ++ [(course, event)]) i course' where
  clock := h.clock_concat (Nat.le_of_eq hnow.symm)
  limited := by
    intro e a query deadline rest checked hstands
    rw [htask] at hstands
    have hlimited := h.limited e a query deadline rest checked hstands
    rw [hnow]
    refine hlimited.stays hquiet fun hpunctual => ?_
    have hbefore := punctual_of_concat hpunctual
    exact ⟨hlimited.early hbefore, hlimited.sent hbefore⟩
  answers := h.answers_concat

/-- The pass goes on. -/
theorem moves {shared : Proxy} {point' : CheckPoint} {chosen done : List Ecosystem}
    {cachedOf : Ecosystem → Cached} (h : Timed past i course)
    (htells : Tells whole past i point) (hstands : course.task? i = some (.check point))
    (hstanding : point.Stands chosen cachedOf course.shared.cache done)
    (hstep : point.step course.now input.wall input.files course.shared =
      (shared, .moved point')) :
    Timed (past ++ [(course, .step i input)]) i
      (course.put i shared (.waiting (.check point'))) := by
  refine ⟨h.clock_concat (Nat.le_refl _), ?_, h.answers_concat⟩
  intro e a query' deadline rest checked hstands'
  rw [Crowd.task?_put_self hstands] at hstands'
  obtain rfl : point' = .probing e a query' deadline rest checked := by
    cases hstands'
    rfl
  have hmoves := point.step_moves course.now input.wall input.files course.shared
  rw [hstep] at hmoves
  generalize hstepped : (shared, Progress.moved (CheckPoint.probing e a query' deadline rest checked))
    = stepped at hmoves
  cases hmoves with
  | chooses | finishes | waits | turnsTo | ensures | hears | givesUp => cases hstepped
  | ensured _ reconnect _ _ cache result _ step goesOn =>
    cases goesOn with
    | fails | misses | spares => cases hstepped
    | asks a s found offers =>
      cases hstepped
      exact .begins htells hstands step found
  | probes _ _ query _ _ _ _ cache step =>
    cases hstepped
    obtain ⟨-, s, hs⟩ := hstanding.session
    refine (h.limited _ _ _ _ _ _ hstands).goesOn hstands hs ?_
    rw [← (Cache.stepSession_of_session? hs (query.step course.now)).1, step]

/-- Every event keeps it so. -/
theorem next {start : Proxy} {chosen done : List Ecosystem} {cachedOf : Ecosystem → Cached}
    {new : List (Ecosystem × Api.HealthRecord)} (h : Timed past i course)
    (htells : ∀ point, course.task? i = some (.check point) → Tells whole past i point)
    (hunderway : Underway start chosen cachedOf i past course new done)
    (hevent : ProxyEvent.LeavesAlone i start.workspace event) :
    Timed (past ++ [(course, event)]) i (proxyRules.next course event) := by
  have hproceeds := hunderway.alone.proceeds hunderway.lt_length hevent.cache
  generalize proxyRules.next course event = course' at hproceeds
  cases hproceeds with
  | others _ _ other standing _ _ now =>
    refine h.stays (ProxyMoment.not_goes_of_others other) ?_ now
    rw [Crowd.task?, Crowd.task?, standing]
  | stays input blocked => exact h.stays (ProxyMoment.not_goes_of_blocked blocked) rfl rfl
  | waits time =>
    refine ⟨h.clock_concat (Nat.le_add_right course.now time), ?_, h.answers_concat⟩
    intro e a query deadline rest checked hstands
    exact (h.limited e a query deadline rest checked hstands).waits (htells _ hstands) hstands
  | moves input task task' shared stands step =>
    obtain ⟨point, rfl, -, hpoint, -⟩ := hunderway.exists_point stands
    obtain ⟨point', hstep, rfl⟩ := exists_moved_check step
    exact h.moves (htells point stands) stands hpoint hstep
  | finishes input task result shared stands step =>
    refine ⟨h.clock_concat (Nat.le_refl _), ?_, h.answers_concat⟩
    intro e a query deadline rest checked hstands
    rw [Crowd.task?_put_self stands] at hstands
    cases hstands

end Timed

/-- A pass does not give up a request that is in the table, before one of its limits is over. -/
theorem blocked_of_waiting {wanted : Query} {link : LinkId} (htable : TableKept whole course)
    (hstands : course.task? i = some (.check
      (.probing e a (.calling wanted (.waiting reply link)) deadline rest checked)))
    (hs : course.shared.cache.session? a = some s) (hhas : s.pending.Has reply.id)
    (hlimit : course.now < deadline) (hdeadline : course.now < reply.deadline)
    (input : ProxyInput) : ¬ProxyMoment.Goes i (course, .step i input) := by
  have hwait : reply.wait? course.now s.pending = (s.pending, none) := by
    obtain ⟨channel, hentry⟩ := hhas
    cases Tells.inFlight_of_probing htable hstands hs reply rfl with
    | registered entry channel first =>
      rw [PendingReply.wait?, PendingReply.poll?, channel]
      exact if_neg (Nat.not_le_of_lt hdeadline)
    | answered _ entry | failed entry => exact absurd hentry (entry channel)
  have hquery : ((QueryPoint.calling wanted (.waiting reply link)).step course.now s).2 =
      .blocked := by
    simp only [QueryPoint.step, CallPoint.step, hwait]
    rfl
  have hblocked : (course.shared.cache.stepSession a
      ((QueryPoint.calling wanted (.waiting reply link)).step course.now)).2 = .blocked :=
    (Cache.stepSession_of_session? hs _).1.trans hquery
  have hpoint : (CheckPoint.step course.now input.wall input.files
      (.probing e a (.calling wanted (.waiting reply link)) deadline rest checked)
      course.shared).2 = .blocked := by
    simp only [CheckPoint.step, Proxy.withCache]
    generalize course.shared.cache.stepSession a _ = stepped at hblocked
    obtain ⟨m, progress⟩ := stepped
    obtain rfl : progress = .blocked := hblocked
    exact congrArg Prod.snd (if_neg (Nat.not_le_of_lt hlimit))
  refine ProxyMoment.not_goes_of_blocked fun task htask => ?_
  cases hstands.symm.trans htask
  exact congrArg (Progress.map ProxyTask.check ProxyReply.checked) hpoint

end ProxyCourse
end SymbolSearch
