import SymbolSearch.Proofs.Proxy.Passing

/-!
# Verdicts of a pass

What a pass records about an ecosystem is what its server has shown.

* `ProxyMoment.Ensures`, `ProxyMoment.Sends` and `ProxyMoment.Answers` — the pass gets the session,
  its question is sent, and the server answers it while the pass waits.
* `Healthy` — the session was got, and the server has no list of symbols to offer, or has shown that
  it reads its input.
* `ProxyCourse.Judged` — a new record says that the server is well exactly if it is healthy;
  `ProxyCourse.Judged.next` shows that every event keeps it so.
-/

namespace SymbolSearch

variable {now : Instant} {s : Session}

/-! ### What a question comes to -/

/-- Whether a response shows that the server reads its input: it is an error, or a result that can be
    read. -/
def showsLife : ResponseOutcome → Bool
  | .ok value => ((Query.workspaceSymbols "").decodeAnswer? value).isSome
  | .error _ => true

/-- Whether the question of a pass has been sent, and its first response shows life. -/
def QueryPoint.HasShown (query : QueryPoint) (first? : Nat → Option ResponseOutcome) : Prop :=
  ∃ reply link outcome, query = .calling (.workspaceSymbols "") (.waiting reply link) ∧
    first? reply.id = some outcome ∧ showsLife outcome = true

/-- The first response decides about one who has sent his question. -/
theorem faultIn_resultOf (outcome : ResponseOutcome) :
    CheckPoint.faultIn ((PendingReply.resultOf outcome).bind
      (QueryPoint.answerOf (.workspaceSymbols ""))) = none ↔ showsLife outcome = true := by
  cases outcome with
  | error error => exact ⟨fun _ => rfl, fun _ => rfl⟩
  | ok value =>
    show CheckPoint.faultIn (QueryPoint.answerOf _ value) = none ↔ Option.isSome _ = true
    rw [QueryPoint.answerOf]
    cases (Query.workspaceSymbols "").decodeAnswer? value with
    | none => exact ⟨nofun, nofun⟩
    | some answer => exact ⟨fun _ => rfl, fun _ => rfl⟩

/-- Whoever has waited has found no fault exactly if the first response shows life. -/
theorem InFlight.faultIn_wait {pending pending' : Pending} {first? : Option ResponseOutcome}
    {reply : PendingReply} (h : InFlight pending first? reply) (hdistinct : pending.Distinct)
    {value : Except SessionError Json} (hwait : reply.wait? now pending = (pending', some value)) :
    CheckPoint.faultIn (value.bind (QueryPoint.answerOf (.workspaceSymbols ""))) = none ↔
      ∃ outcome, first? = some outcome ∧ showsLife outcome = true := by
  have hnone {error : SessionError} (hfirst : first? = none) (hvalue : value = .error error)
      (hfault : CheckPoint.faultIn (.error error) ≠ none) :
      CheckPoint.faultIn (value.bind (QueryPoint.answerOf (.workspaceSymbols ""))) = none ↔
        ∃ outcome, first? = some outcome ∧ showsLife outcome = true := by
    rw [hfirst, hvalue]
    refine iff_of_false hfault ?_
    rintro ⟨outcome, ⟨⟩, -⟩
  rw [PendingReply.wait?] at hwait
  cases h with
  | registered entry channel first =>
    have hpoll : reply.poll? pending = none := by rw [PendingReply.poll?, channel]
    rw [hpoll] at hwait
    dsimp only at hwait
    split at hwait
    · rw [PendingReply.expire, Pending.remove_of_mem hdistinct entry] at hwait
      refine hnone first (Option.some.inj (Prod.mk.inj hwait).2).symm ?_
      rintro ⟨⟩
    · cases (Prod.mk.inj hwait).2
  | answered outcome entry channel first =>
    have hpoll : reply.poll? pending = some (PendingReply.resultOf outcome) := by
      rw [PendingReply.poll?, channel]
    rw [hpoll] at hwait
    obtain rfl := Option.some.inj (Prod.mk.inj hwait).2
    rw [faultIn_resultOf, first]
    simp
  | failed entry channel first =>
    have hpoll : reply.poll? pending = some (.error .processExit) := by
      rw [PendingReply.poll?, channel]
    rw [hpoll] at hwait
    refine hnone first (Option.some.inj (Prod.mk.inj hwait).2).symm ?_
    rintro ⟨⟩

/-- A request that has not been sent ends without a response. -/
theorem CallPoint.finished_unsent {call : CallPoint} {value : Except SessionError Json}
    (h : (call.step now s).2 = .finished value) (hunsent : ∀ reply link, call ≠ .waiting reply link) :
    value = .error .processExit := by
  cases call with
  | starting asked timeout =>
    rcases CallPoint.finished_cases h with ⟨reply, pending, hreply, -⟩ | hends
    · cases hreply
    · exact hends
  | sending reply send =>
    simp only [step] at h
    split at h
    · cases h
    · exact (Progress.finished.inj h).symm
    · cases h
    · cases h
  | waiting reply link => exact absurd rfl (hunsent reply link)

namespace QueryPoint

variable {query : QueryPoint} {first? : Nat → Option ResponseOutcome}

/-- There is no fault in a question exactly if it was sent, and its first response shows life. -/
theorem faultIn_finished {result : Except SessionError Answer}
    (h : (query.step now s).2 = .finished result) (hasks : query.query = .workspaceSymbols "")
    (hdistinct : s.pending.Distinct)
    (hflight : ∀ reply, query.reply? = some reply → InFlight s.pending (first? reply.id) reply) :
    CheckPoint.faultIn result = none ↔ query.HasShown first? := by
  have hunsent {wanted : Query} {call : CallPoint}
      (h : (afterCall wanted (call.step now s)).2 = .finished result)
      (hcall : ∀ reply link, call ≠ .waiting reply link) :
      CheckPoint.faultIn result ≠ none := by
    obtain ⟨value, hvalue, rfl⟩ := finished_afterCall h
    rw [CallPoint.finished_unsent hvalue hcall]
    rintro ⟨⟩
  cases query with
  | starting wanted =>
    refine iff_of_false ?_ ?_
    · simp only [step] at h
      split at h
      · refine hunsent h fun reply link heq => ?_
        cases heq
      · obtain rfl := Progress.finished.inj h
        rintro ⟨⟩
    · rintro ⟨_, _, _, heq, -⟩
      cases heq
  | calling wanted call =>
    obtain rfl : wanted = .workspaceSymbols "" := hasks
    cases call with
    | starting | sending =>
      refine iff_of_false (hunsent h fun reply link heq => ?_) ?_
      · cases heq
      · rintro ⟨_, _, _, heq, -⟩
        cases heq
    | waiting reply link =>
      obtain ⟨value, hvalue, rfl⟩ := finished_afterCall h
      simp only [CallPoint.step] at hvalue
      split at hvalue
      next pending found hwait =>
        obtain rfl := Progress.finished.inj hvalue
        rw [(hflight reply rfl).faultIn_wait hdistinct hwait]
        constructor
        · rintro ⟨outcome, hfirst, hshows⟩
          exact ⟨reply, link, outcome, rfl, hfirst, hshows⟩
        · rintro ⟨_, _, outcome, heq, hfirst, hshows⟩
          cases heq
          exact ⟨outcome, hfirst, hshows⟩
      next => cases hvalue

/-- Whoever waits for a response waits where he is. -/
theorem waiting_ne_moved {wanted : Query} (reply : PendingReply) (link : LinkId)
    {query' : QueryPoint} :
    ((calling wanted (.waiting reply link)).step now s).2 ≠ .moved query' := by
  intro h
  have hmoved : (afterCall wanted ((CallPoint.waiting reply link).step now s)).2 =
      .moved query' := h
  simp only [CallPoint.step] at hmoved
  split at hmoved
  · simp only [afterCall, finish] at hmoved
    split at hmoved <;> cases hmoved
  · cases hmoved

/-- Nobody has to wait who could be told something. -/
theorem not_hasShown_of_blocked (h : (query.step now s).2 = .blocked)
    (hflight : ∀ reply, query.reply? = some reply → InFlight s.pending (first? reply.id) reply) :
    ¬query.HasShown first? := by
  rintro ⟨reply, link, outcome, rfl, hfirst, -⟩
  have hasks : ((SessionTask.ask (.calling _ (.waiting reply link))).step now s).2 = .blocked :=
    congrArg (Progress.map _ _) h
  have hblocked : ((CallPoint.waiting reply link).step now s).2 = .blocked :=
    SessionTask.blocked_call hasks rfl
  simp only [CallPoint.step] at hblocked
  split at hblocked
  next => cases hblocked
  next hwait =>
    cases hflight reply rfl with
    | registered entry channel first =>
      rw [first] at hfirst
      cases hfirst
    | answered _ entry channel first =>
      rw [PendingReply.wait?, PendingReply.poll?, channel] at hwait
      cases (Prod.mk.inj hwait).2
    | failed entry channel first =>
      rw [first] at hfirst
      cases hfirst

end QueryPoint

/-! ### Moments of a pass -/

namespace ProxyMoment

/-- A pass gets the session of an ecosystem. -/
inductive Ensures (i : Nat) (e : Ecosystem) (a : AdapterId) (s : Session) : ProxyMoment → Prop where
  | gets (course : ProxyCourse) (input : ProxyInput) (reconnect : ReconnectPoint)
      (rest : List Ecosystem) (checked : Nat) (cache : Cache)
      (stands : course.task? i = some (.check (.ensuring e reconnect rest checked)))
      (step : reconnect.step course.now input.files course.shared.cache =
        (cache, .finished (.ok a)))
      (found : cache.session? a = some s) : Ensures i e a s (course, .step i input)

/-- The question of a pass about an ecosystem has been sent. -/
inductive Sends (i : Nat) (e : Ecosystem) (reply : PendingReply) : ProxyMoment → Prop where
  | sends (course : ProxyCourse) (input : ProxyInput) (a : AdapterId) (query : QueryPoint)
      (link : LinkId) (deadline : Instant) (rest : List Ecosystem) (checked : Nat)
      (stands : course.task? i = some (.check (.probing e a query deadline rest checked)))
      (step : (course.shared.cache.stepSession a (query.step course.now)).2 =
        .moved (.calling (.workspaceSymbols "") (.waiting reply link))) :
      Sends i e reply (course, .step i input)

/-- The server responds to the question of a pass about an ecosystem, which waits for it. -/
inductive Answers (i : Nat) (e : Ecosystem) (reply : PendingReply) (outcome : ResponseOutcome) :
    ProxyMoment → Prop where
  | answers (course : ProxyCourse) (event : ProxyEvent) (a : AdapterId) (query : QueryPoint)
      (deadline : Instant) (rest : List Ecosystem) (checked : Nat)
      (stands : course.task? i = some (.check (.probing e a query deadline rest checked)))
      (asked : query.reply? = some reply)
      (brings : delivery? a reply.id (course, event) = some outcome) :
      Answers i e reply outcome (course, event)

/-- Whether a moment says something about an ecosystem. -/
def IsAbout (i : Nat) (e : Ecosystem) (moment : ProxyMoment) : Prop :=
  (∃ a s, Ensures i e a s moment) ∨ (∃ reply, Sends i e reply moment) ∨
    ∃ reply outcome, Answers i e reply outcome moment

/-- Whether the operation at a place goes on. -/
def Goes (i : Nat) (moment : ProxyMoment) : Prop :=
  ∃ task progress, proxyRules.step? moment = some (i, task, progress) ∧ progress ≠ .blocked

end ProxyMoment

/-- The ecosystem that a pass looks at. -/
def CheckPoint.current? : CheckPoint → Option Ecosystem
  | .ensuring e _ _ _ | .probing e _ _ _ _ _ => some e
  | .starting | .passing _ _ => none

/-- The ecosystems that a pass has not looked at, the one that it looks at among them. -/
def CheckPoint.remaining : CheckPoint → List Ecosystem
  | .starting => []
  | .passing rest _ => rest
  | .ensuring e _ rest _ | .probing e _ _ _ rest _ => e :: rest

/-- Whether the server of an ecosystem has shown that it reads its input: a pass has sent its
    question, and the response came while the pass waited for it. -/
def HasReplied (past : List ProxyMoment) (i : Nat) (e : Ecosystem) : Prop :=
  ∃ reply outcome, (∃ moment ∈ past, ProxyMoment.Sends i e reply moment) ∧
    (∃ moment ∈ past, ProxyMoment.Answers i e reply outcome moment) ∧ showsLife outcome = true

/-- Whether a pass has got the session of an ecosystem, and its server has replied, if it offers
    symbols of the workspace. -/
def Healthy (past : List ProxyMoment) (i : Nat) (e : Ecosystem) : Prop :=
  ∃ a s, (∃ moment ∈ past, ProxyMoment.Ensures i e a s moment) ∧
    (s.capabilities.workspaceSymbols = true → HasReplied past i e)

/-- Whether nothing is known about an ecosystem. -/
def Untold (past : List ProxyMoment) (i : Nat) (e : Ecosystem) : Prop :=
  ∀ moment ∈ past, ¬ProxyMoment.IsAbout i e moment

variable {whole past : List ProxyMoment} {course : ProxyCourse} {event : ProxyEvent}
  {moment : ProxyMoment} {i : Nat} {e : Ecosystem} {point : CheckPoint}

theorem exists_mem_concat {holds : ProxyMoment → Prop} :
    (∃ found ∈ past ++ [moment], holds found) ↔ (∃ found ∈ past, holds found) ∨ holds moment := by
  simp [or_and_right, exists_or]

theorem exists_mem_concat_of_not {holds : ProxyMoment → Prop} (h : ¬holds moment) :
    (∃ found ∈ past ++ [moment], holds found) ↔ ∃ found ∈ past, holds found := by
  rw [exists_mem_concat, or_iff_left h]

namespace ProxyMoment

theorem not_goes_of_others (h : ∀ input, event ≠ .step i input) : ¬Goes i (course, event) := by
  rintro ⟨task, progress, hstep, -⟩
  obtain ⟨input, hinput, -⟩ := proxyRules.step?_eq_some hstep
  exact h input hinput

theorem not_goes_of_blocked {input : ProxyInput} (h : ∀ task, course.task? i = some task →
    (task.step course.now input course.shared).2 = .blocked) :
    ¬Goes i (course, .step i input) := by
  rintro ⟨task, progress, hstep, hgoes⟩
  exact hgoes (proxyRules.eq_blocked_of_step? h hstep)

theorem Ensures.goes {a : AdapterId} (h : Ensures i e a s moment) : Goes i moment := by
  cases h with
  | gets course input reconnect rest checked cache stands step found =>
    refine ⟨_, _, proxyRules.step?_step stands, fun hblocked => ?_⟩
    have hpoint := Progress.eq_blocked_of_map hblocked
    simp only [CheckPoint.step, Proxy.withCache, step, found] at hpoint
    split at hpoint <;> cases hpoint

theorem Sends.goes {reply : PendingReply} (h : Sends i e reply moment) : Goes i moment := by
  cases h with
  | sends course input a query link deadline rest checked stands step =>
    refine ⟨_, _, proxyRules.step?_step stands, fun hblocked => ?_⟩
    have hpoint := Progress.eq_blocked_of_map hblocked
    rw [CheckPoint.step, Proxy.withCache] at hpoint
    generalize course.shared.cache.stepSession a (query.step course.now) = stepped at step hpoint
    obtain ⟨m, progress⟩ := stepped
    obtain rfl : progress = _ := step
    cases hpoint

/-- A moment is about the ecosystem that the pass looks at. -/
theorem IsAbout.exists_point (h : IsAbout i e (course, event)) :
    ∃ point, course.task? i = some (.check point) ∧ point.current? = some e := by
  rcases h with ⟨a, s, hgets⟩ | ⟨reply, hsends⟩ | ⟨reply, outcome, hanswers⟩
  · cases hgets with
    | gets _ _ _ _ _ _ stands => exact ⟨_, stands, rfl⟩
  · cases hsends with
    | sends _ _ _ _ _ _ _ _ stands => exact ⟨_, stands, rfl⟩
  · cases hanswers with
    | answers _ _ _ _ _ _ _ stands => exact ⟨_, stands, rfl⟩

theorem IsAbout.current (h : IsAbout i e (course, event))
    (hstands : course.task? i = some (.check point)) : point.current? = some e := by
  obtain ⟨found, hfound, hcurrent⟩ := h.exists_point
  cases hfound.symm.trans hstands
  exact hcurrent

end ProxyMoment

theorem CheckPoint.mem_remaining_of_current? (h : point.current? = some e) :
    e ∈ point.remaining := by
  cases point with
  | starting | passing => cases h
  | ensuring | probing =>
    obtain rfl := Option.some.inj h
    exact List.mem_cons_self

/-- The chosen ecosystems are those that the pass has looked at, and the others. -/
theorem CheckPoint.Stands.split_remaining {chosen done : List Ecosystem}
    {cachedOf : Ecosystem → Cached} {cache : Cache}
    (h : point.Stands chosen cachedOf cache done) : chosen = done ++ point.remaining := by
  cases h with
  | passes rest split => exact split
  | ensures e reconnect rest split => exact split
  | probes e query deadline rest split => exact split

theorem CheckPoint.Stands.nodup_remaining {chosen done : List Ecosystem}
    {cachedOf : Ecosystem → Cached} {cache : Cache}
    (h : point.Stands chosen cachedOf cache done) (hnodup : chosen.Nodup) :
    point.remaining.Nodup := by
  rw [h.split_remaining] at hnodup
  exact hnodup.of_append_right

/-- Where a pass asks there is a session, and it asks for symbols of the workspace. -/
theorem CheckPoint.Stands.session {chosen done rest : List Ecosystem} {a : AdapterId}
    {query : QueryPoint} {deadline : Instant} {checked : Nat} {cachedOf : Ecosystem → Cached}
    {cache : Cache}
    (h : (CheckPoint.probing e a query deadline rest checked).Stands chosen cachedOf cache done) :
    query.query = .workspaceSymbols "" ∧ ∃ s, cache.session? a = some s := by
  cases h with
  | probes _ _ _ _ _ asks kept => exact ⟨asks, (kept e List.mem_cons_self).made⟩

/-- What says nothing about an ecosystem does not matter for it. -/
theorem healthy_concat (h : ¬ProxyMoment.IsAbout i e moment) :
    Healthy (past ++ [moment]) i e ↔ Healthy past i e := by
  obtain ⟨hgets, hsends, hanswers⟩ : _ ∧ _ ∧ _ := by
    simpa only [ProxyMoment.IsAbout, not_or, not_exists] using h
  simp only [Healthy, HasReplied, exists_mem_concat_of_not (hgets _ _),
    exists_mem_concat_of_not (hsends _), exists_mem_concat_of_not (hanswers _ _)]

theorem Untold.not_healthy (h : Untold past i e) : ¬Healthy past i e := by
  rintro ⟨a, s, ⟨moment, hmem, hgets⟩, -⟩
  exact h moment hmem (.inl ⟨a, s, hgets⟩)

theorem Untold.concat (h : Untold past i e) (hmoment : ¬ProxyMoment.IsAbout i e moment) :
    Untold (past ++ [moment]) i e := by
  intro found hfound
  rcases List.mem_append.mp hfound with hold | hnew
  · exact h found hold
  · obtain rfl := List.mem_singleton.mp hnew
    exact hmoment

/-! ### What the past tells -/

/-- What the past of a pass tells of the ecosystems that it has not looked at. -/
inductive Tells (whole past : List ProxyMoment) (i : Nat) : CheckPoint → Prop where
  | passes (rest : List Ecosystem) (checked : Nat) (untold : ∀ e ∈ rest, Untold past i e) :
      Tells whole past i (.passing rest checked)
  | ensures (e : Ecosystem) (reconnect : ReconnectPoint) (rest : List Ecosystem) (checked : Nat)
      (untold : ∀ e' ∈ e :: rest, Untold past i e') :
      Tells whole past i (.ensuring e reconnect rest checked)
  | probes (e : Ecosystem) (a : AdapterId) (query : QueryPoint) (deadline : Instant)
      (rest : List Ecosystem) (checked : Nat) (untold : ∀ e' ∈ rest, Untold past i e')
      (ensured : ∃ a s, ∃ moment ∈ past, ProxyMoment.Ensures i e a s moment)
      (offers : ∀ a s, (∃ moment ∈ past, ProxyMoment.Ensures i e a s moment) →
        s.capabilities.workspaceSymbols = true)
      (sent : ∀ reply, (∃ moment ∈ past, ProxyMoment.Sends i e reply moment) ↔
        ∃ link, query = .calling (.workspaceSymbols "") (.waiting reply link))
      (answered : ∀ reply outcome,
        (∃ moment ∈ past, ProxyMoment.Answers i e reply outcome moment) ↔
          query.reply? = some reply ∧ ProxyCourse.firstReplyAt? whole a reply.id = some outcome) :
      Tells whole past i (.probing e a query deadline rest checked)

namespace Tells

variable {a : AdapterId} {query query' : QueryPoint} {deadline : Instant} {rest : List Ecosystem}
  {checked : Nat} {input : ProxyInput} {cache : Cache}

/-- Whoever asks has been shown what the first response shows. -/
theorem healthy_iff (h : Tells whole past i (.probing e a query deadline rest checked)) :
    Healthy past i e ↔ query.HasShown (ProxyCourse.firstReplyAt? whole a) := by
  cases h with
  | probes _ _ _ _ _ _ untold ensured offers sent answered =>
    constructor
    · rintro ⟨a', s', hensured, hreplied⟩
      obtain ⟨reply, outcome, hsent, hanswered, hshows⟩ := hreplied (offers a' s' hensured)
      obtain ⟨link, hquery⟩ := (sent reply).mp hsent
      exact ⟨reply, link, outcome, hquery, ((answered reply outcome).mp hanswered).2, hshows⟩
    · rintro ⟨reply, link, outcome, rfl, hfirst, hshows⟩
      obtain ⟨a', s', hensured⟩ := ensured
      refine ⟨a', s', hensured, fun _ => ⟨reply, outcome, ?_, ?_, hshows⟩⟩
      · exact (sent reply).mpr ⟨link, rfl⟩
      · exact (answered reply outcome).mpr ⟨rfl, hfirst⟩

/-- A moment is about nothing but what the pass looks at. -/
theorem untold_concat {ecosystems : List Ecosystem} (h : ∀ e ∈ ecosystems, Untold past i e)
    (hstands : course.task? i = some (.check point))
    (hother : ∀ e ∈ ecosystems, point.current? ≠ some e) :
    ∀ e ∈ ecosystems, Untold (past ++ [(course, event)]) i e :=
  fun e he => (h e he).concat fun habout => hother e he (habout.current hstands)

/-- The request that is in flight is the question. -/
theorem repliesAt_of_probing
    (hstands : course.task? i = some (.check (.probing e a query deadline rest checked))) :
    course.repliesAt a i = query.reply? := by
  rw [ProxyCourse.repliesAt, ProxyCourse.jobsAt, ProxyCourse.jobOf, hstands]
  show (jobOn (some (a, AdapterTask.onSession (.ask query))) a).bind _ = _
  rw [jobOn_self]
  rfl

/-- The question is in flight, as far as the table knows. -/
theorem inFlight_of_probing (htable : ProxyCourse.TableKept whole course)
    (hstands : course.task? i = some (.check (.probing e a query deadline rest checked)))
    (hs : course.shared.cache.session? a = some s) (reply : PendingReply)
    (hreply : query.reply? = some reply) :
    InFlight s.pending (ProxyCourse.firstReplyAt? whole a reply.id) reply := by
  have hflight := (htable a).inFlight i reply ((repliesAt_of_probing hstands).trans hreply)
  rwa [ProxyCourse.sessionAt_of_session? hs] at hflight

/-- What comes is told of the request that waits for it. -/
theorem answered_concat (htable : ProxyCourse.TableKept whole course)
    (hstands : course.task? i = some (.check (.probing e a query deadline rest checked)))
    (h : ∀ reply outcome, (∃ moment ∈ past, ProxyMoment.Answers i e reply outcome moment) ↔
      query.reply? = some reply ∧ ProxyCourse.firstReplyAt? whole a reply.id = some outcome)
    (reply : PendingReply) (outcome : ResponseOutcome) :
    (∃ moment ∈ past ++ [(course, event)], ProxyMoment.Answers i e reply outcome moment) ↔
      query.reply? = some reply ∧
        ProxyCourse.firstReplyAt? (whole ++ [(course, event)]) a reply.id = some outcome := by
  have hnow : ProxyMoment.Answers i e reply outcome (course, event) ↔
      query.reply? = some reply ∧
        ProxyMoment.delivery? a reply.id (course, event) = some outcome := by
    constructor
    · intro hanswers
      cases hanswers with
      | answers _ _ _ _ _ _ _ stands asked brings =>
        cases hstands.symm.trans stands
        exact ⟨asked, brings⟩
    · rintro ⟨hasked, hbrings⟩
      exact .answers course event a query deadline rest checked hstands hasked hbrings
  rw [exists_mem_concat, h, hnow, ← and_or_left, and_congr_right_iff]
  intro hasked
  have hreply : course.repliesAt a i = some reply := (repliesAt_of_probing hstands).trans hasked
  rw [ProxyCourse.firstReplyAt?_concat]
  cases hfirst : ProxyCourse.firstReplyAt? whole a reply.id with
  | none => simp
  | some first => simp [htable.delivery?_of_first hreply hfirst]

/-- Nothing new is told while the pass stands where it is, but what the server responds. -/
theorem stays (h : Tells whole past i point) (htable : ProxyCourse.TableKept whole course)
    (hstands : course.task? i = some (.check point)) (hnodup : point.remaining.Nodup)
    (hquiet : ¬ProxyMoment.Goes i (course, event)) :
    Tells (whole ++ [(course, event)]) (past ++ [(course, event)]) i point := by
  have hgets (e : Ecosystem) (a : AdapterId) (s : Session) :
      ¬ProxyMoment.Ensures i e a s (course, event) := fun hgets => hquiet hgets.goes
  have hsends (e : Ecosystem) (reply : PendingReply) :
      ¬ProxyMoment.Sends i e reply (course, event) := fun hsends => hquiet hsends.goes
  have hrest {e : Ecosystem} {rest : List Ecosystem} (hnodup : (e :: rest).Nodup) :
      ∀ e' ∈ rest, some e ≠ some e' := by
    rintro e' he' ⟨⟩
    exact (List.nodup_cons.mp hnodup).1 he'
  cases h with
  | passes rest checked untold => exact .passes rest checked (untold_concat untold hstands nofun)
  | ensures e reconnect rest checked untold =>
    obtain ⟨hfirst, hothers⟩ := List.forall_mem_cons.mp untold
    refine .ensures e reconnect rest checked (List.forall_mem_cons.mpr ⟨?_, ?_⟩)
    · refine hfirst.concat ?_
      rintro (⟨a, s, habout⟩ | ⟨reply, habout⟩ | ⟨reply, outcome, habout⟩)
      · exact hgets e a s habout
      · exact hsends e reply habout
      · cases habout with
        | answers _ _ _ _ _ _ _ stands => cases hstands.symm.trans stands
    · exact untold_concat hothers hstands (hrest hnodup)
  | probes e a query deadline rest checked untold ensured offers sent answered =>
    refine .probes e a query deadline rest checked
      (untold_concat untold hstands (hrest hnodup)) ?_ ?_ ?_
      (answered_concat htable hstands answered)
    · obtain ⟨a', s', hensured⟩ := ensured
      exact ⟨a', s', exists_mem_concat.mpr (.inl hensured)⟩
    · intro a' s' hensured
      exact offers a' s' ((exists_mem_concat_of_not (hgets e a' s')).mp hensured)
    · intro reply
      rw [exists_mem_concat_of_not (hsends e reply), sent]

/-- The pass goes on to the next ecosystem. -/
theorem turns (h : Tells whole past i (.passing (e :: rest) checked))
    (hstands : course.task? i = some (.check (.passing (e :: rest) checked)))
    (reconnect : ReconnectPoint) :
    Tells (whole ++ [(course, event)]) (past ++ [(course, event)]) i
      (.ensuring e reconnect rest checked) := by
  cases h with
  | passes _ _ untold => exact .ensures e _ rest checked (untold_concat untold hstands nofun)

/-- Whoever has not yet got the session knows nothing about its server. -/
theorem not_about_of_ensuring {reconnect : ReconnectPoint}
    (hstands : course.task? i = some (.check (.ensuring e reconnect rest checked)))
    (hgets : ∀ a, (reconnect.step course.now input.files course.shared.cache).2 ≠
      .finished (.ok a)) : ¬ProxyMoment.IsAbout i e (course, .step i input) := by
  rintro (⟨a, s, habout⟩ | ⟨reply, habout⟩ | ⟨reply, outcome, habout⟩)
  · cases habout with
    | gets _ _ _ _ _ _ stands step =>
      cases hstands.symm.trans stands
      exact hgets a (congrArg Prod.snd step)
  · cases habout with
    | sends _ _ _ _ _ _ _ _ stands => cases hstands.symm.trans stands
  · cases habout with
    | answers _ _ _ _ _ _ _ stands => cases hstands.symm.trans stands

/-- The pass goes on to get the session. -/
theorem ensuresOn {reconnect reconnect' : ReconnectPoint}
    (h : Tells whole past i (.ensuring e reconnect rest checked))
    (hstands : course.task? i = some (.check (.ensuring e reconnect rest checked)))
    (hnodup : (e :: rest).Nodup)
    (hstep : reconnect.step course.now input.files course.shared.cache =
      (cache, .moved reconnect')) :
    Tells (whole ++ [(course, .step i input)]) (past ++ [(course, .step i input)]) i
      (.ensuring e reconnect' rest checked) := by
  cases h with
  | ensures _ _ _ _ untold =>
    obtain ⟨hfirst, hothers⟩ := List.forall_mem_cons.mp untold
    refine .ensures e _ rest checked (List.forall_mem_cons.mpr ⟨?_, ?_⟩)
    · refine hfirst.concat (not_about_of_ensuring hstands fun a => ?_)
      rw [hstep]
      nofun
    · refine untold_concat hothers hstands ?_
      rintro e' he' ⟨⟩
      exact (List.nodup_cons.mp hnodup).1 he'

/-- The pass has got the session, and begins to ask. -/
theorem asks {reconnect : ReconnectPoint}
    (h : Tells whole past i (.ensuring e reconnect rest checked))
    (hstands : course.task? i = some (.check (.ensuring e reconnect rest checked)))
    (hnodup : (e :: rest).Nodup)
    (hstep : reconnect.step course.now input.files course.shared.cache =
      (cache, .finished (.ok a)))
    (hfound : cache.session? a = some s) (hoffers : s.capabilities.workspaceSymbols = true)
    (deadline : Instant) :
    Tells (whole ++ [(course, .step i input)]) (past ++ [(course, .step i input)]) i
      (.probing e a (.starting (.workspaceSymbols "")) deadline rest checked) := by
  have hother (e' : Ecosystem) (he' : e' ∈ rest) :
      (CheckPoint.ensuring e reconnect rest checked).current? ≠ some e' := by
    rintro ⟨⟩
    exact (List.nodup_cons.mp hnodup).1 he'
  cases h with
  | ensures _ _ _ _ untold =>
    obtain ⟨hfirst, hothers⟩ := List.forall_mem_cons.mp untold
    have hgets (a' : AdapterId) (s' : Session)
        (hensured : ∃ moment ∈ past ++ [(course, .step i input)],
          ProxyMoment.Ensures i e a' s' moment) : s' = s := by
      rcases exists_mem_concat.mp hensured with ⟨moment, hmem, hold⟩ | hnew
      · exact absurd (.inl ⟨a', s', hold⟩) (hfirst moment hmem)
      · cases hnew with
        | gets _ _ _ _ _ _ stands step found =>
          cases hstands.symm.trans stands
          cases hstep.symm.trans step
          exact Option.some.inj (found.symm.trans hfound)
    refine .probes e a _ deadline rest checked (untold_concat hothers hstands hother) ?_ ?_ ?_ ?_
    · exact ⟨a, s, exists_mem_concat.mpr
        (.inr (.gets course input reconnect rest checked cache hstands hstep hfound))⟩
    · intro a' s' hensured
      rw [hgets a' s' hensured]
      exact hoffers
    · intro reply
      refine iff_of_false ?_ ?_
      · rw [exists_mem_concat]
        rintro (⟨moment, hmem, hsends⟩ | hsends)
        · exact hfirst moment hmem (.inr (.inl ⟨reply, hsends⟩))
        · cases hsends with
          | sends _ _ _ _ _ _ _ _ stands => cases hstands.symm.trans stands
      · rintro ⟨link, hquery⟩
        cases hquery
    · intro reply outcome
      refine iff_of_false ?_ ?_
      · rw [exists_mem_concat]
        rintro (⟨moment, hmem, hanswers⟩ | hanswers)
        · exact hfirst moment hmem (.inr (.inr ⟨reply, outcome, hanswers⟩))
        · cases hanswers with
          | answers _ _ _ _ _ _ _ stands => cases hstands.symm.trans stands
      · rintro ⟨hasked, -⟩
        cases hasked

/-- The question goes on. -/
theorem probesOn (h : Tells whole past i (.probing e a query deadline rest checked))
    (htable : ProxyCourse.TableKept whole course)
    (hstands : course.task? i = some (.check (.probing e a query deadline rest checked)))
    (hnodup : (e :: rest).Nodup) (hs : course.shared.cache.session? a = some s)
    (hstep : course.shared.cache.stepSession a (query.step course.now) = (cache, .moved query')) :
    Tells (whole ++ [(course, .step i input)]) (past ++ [(course, .step i input)]) i
      (.probing e a query' deadline rest checked) := by
  have hother (e' : Ecosystem) (he' : e' ∈ rest) :
      (CheckPoint.probing e a query deadline rest checked).current? ≠ some e' := by
    rintro ⟨⟩
    exact (List.nodup_cons.mp hnodup).1 he'
  have hmoved : (query.step course.now s).2 = .moved query' := by
    rw [← (Cache.stepSession_of_session? hs (query.step course.now)).1, hstep]
  cases h with
  | probes _ _ _ _ _ _ untold ensured offers sent answered =>
    have hgets (a' : AdapterId) (s' : Session) :
        ¬ProxyMoment.Ensures i e a' s' (course, .step i input) := by
      intro hgets
      cases hgets with
      | gets _ _ _ _ _ _ stands => cases hstands.symm.trans stands
    refine .probes e a query' deadline rest checked (untold_concat untold hstands hother) ?_ ?_ ?_ ?_
    · obtain ⟨a', s', hensured⟩ := ensured
      exact ⟨a', s', exists_mem_concat.mpr (.inl hensured)⟩
    · intro a' s' hensured
      exact offers a' s' ((exists_mem_concat_of_not (hgets a' s')).mp hensured)
    · intro reply
      rw [exists_mem_concat, sent]
      constructor
      · rintro (⟨link, rfl⟩ | hsends)
        · exact absurd hmoved (QueryPoint.waiting_ne_moved reply link)
        · cases hsends with
          | sends _ _ _ _ link _ _ _ stands step =>
            cases hstands.symm.trans stands
            rw [hstep] at step
            exact ⟨link, Progress.moved.inj step⟩
      · rintro ⟨link, rfl⟩
        exact .inr (.sends course input a query link deadline rest checked hstands
          (congrArg Prod.snd hstep))
    · intro reply outcome
      rw [answered_concat htable hstands answered]
      refine and_congr_left fun hfirst => ?_
      rw [ProxyCourse.firstReplyAt?_concat, ProxyCourse.delivery?_of_ne (by nofun),
        Option.or_none] at hfirst
      obtain ⟨found, hfound, hasked | ⟨hnone, hid⟩⟩ := QueryPoint.reply_step hmoved
      · rw [hfound, hasked]
      · -- A request that begins now cannot have been responded to.
        rw [hfound, hnone]
        refine iff_of_false nofun ?_
        rintro ⟨⟩
        have hfresh := (htable a).fresh reply.id
        rw [ProxyCourse.sessionAt_of_session? hs, hid] at hfresh
        rw [hid, hfresh (Nat.le_refl _)] at hfirst
        cases hfirst

/-- The pass is done with an ecosystem. -/
theorem concludes (h : Tells whole past i point)
    (hstands : course.task? i = some (.check point)) (hnodup : point.remaining.Nodup)
    (hcurrent : point.current? = some e) (hrest : point.remaining = e :: rest) (count : Nat) :
    Tells (whole ++ [(course, event)]) (past ++ [(course, event)]) i (.passing rest count) := by
  have hothers : ∀ e' ∈ rest, Untold past i e' := by
    cases h with
    | passes => cases hcurrent
    | ensures _ _ _ _ untold =>
      obtain ⟨rfl, rfl⟩ := List.cons.inj hrest
      exact (List.forall_mem_cons.mp untold).2
    | probes _ _ _ _ _ _ untold =>
      obtain ⟨rfl, rfl⟩ := List.cons.inj hrest
      exact untold
  refine .passes rest count (untold_concat hothers hstands ?_)
  intro e' he' hsame
  obtain rfl := Option.some.inj (hcurrent.symm.trans hsame)
  rw [hrest] at hnodup
  exact (List.nodup_cons.mp hnodup).1 he'

/-- Nothing is known any more of one whom the pass has not got. -/
theorem not_healthy_of_ensuring {reconnect : ReconnectPoint}
    (h : Tells whole past i (.ensuring e reconnect rest checked))
    (hstands : course.task? i = some (.check (.ensuring e reconnect rest checked)))
    (hgets : ∀ a, (reconnect.step course.now input.files course.shared.cache).2 ≠
      .finished (.ok a)) : ¬Healthy (past ++ [(course, .step i input)]) i e := by
  cases h with
  | ensures _ _ _ _ untold =>
    refine Untold.not_healthy ((untold e List.mem_cons_self).concat ?_)
    exact not_about_of_ensuring hstands hgets

/-- A question that comes to nothing new is told nothing. -/
theorem healthy_concat_of_probing
    (h : Tells whole past i (.probing e a query deadline rest checked))
    (hstands : course.task? i = some (.check (.probing e a query deadline rest checked)))
    (hmoved : ∀ query', (course.shared.cache.stepSession a (query.step course.now)).2 ≠
      .moved query') :
    Healthy (past ++ [(course, .step i input)]) i e ↔
      query.HasShown (ProxyCourse.firstReplyAt? whole a) := by
  rw [← h.healthy_iff]
  refine healthy_concat ?_
  rintro (⟨a', s', habout⟩ | ⟨reply, habout⟩ | ⟨reply, outcome, habout⟩)
  · cases habout with
    | gets _ _ _ _ _ _ stands => cases hstands.symm.trans stands
  · cases habout with
    | sends _ _ _ _ _ _ _ _ stands step =>
      cases hstands.symm.trans stands
      exact hmoved _ step
  · cases habout with
    | answers _ _ _ _ _ _ _ stands asked brings =>
      rw [ProxyCourse.delivery?_of_ne (by nofun)] at brings
      cases brings

end Tells

/-! ### What a pass records -/

namespace ProxyCourse

/-- A pass knows nothing about the ecosystems that it has not looked at, and a record about one that
    it has looked at says that the server is well exactly if it has been healthy. -/
structure Judged (before past : List ProxyMoment) (i : Nat) (chosen : List Ecosystem)
    (course : ProxyCourse) : Prop where
  tells : ∀ point, course.task? i = some (.check point) → Tells (before ++ past) past i point
  verdicts : ∀ e ∈ chosen,
    (∀ point, course.task? i = some (.check point) → e ∉ point.remaining) →
      ∀ record, (e, record) ∈ course.shared.health → (record.ok = true ↔ Healthy past i e)

namespace Judged

variable {before : List ProxyMoment} {chosen done rest : List Ecosystem}
  {cachedOf : Ecosystem → Cached} {course' : ProxyCourse} {input : ProxyInput} {shared : Proxy}

/-- What has been looked at does not matter any more. -/
theorem healthy_concat_of_done (hdone : ∀ point, course.task? i = some (.check point) →
    point.current? ≠ some e) : Healthy (past ++ [(course, event)]) i e ↔ Healthy past i e := by
  refine healthy_concat fun habout => ?_
  obtain ⟨point, hstands, hcurrent⟩ := habout.exists_point
  exact hdone point hstands hcurrent

/-- Nothing is recorded while the pass stands where it is. -/
theorem stays (h : Judged before past i chosen course)
    (htable : TableKept (before ++ past) course)
    (hnodup : ∀ point, course.task? i = some (.check point) → point.remaining.Nodup)
    (hquiet : ¬ProxyMoment.Goes i (course, event)) (htask : course'.task? i = course.task? i)
    (hhealth : course'.shared.health = course.shared.health) :
    Judged before (past ++ [(course, event)]) i chosen course' where
  tells := by
    intro point hstands
    rw [htask] at hstands
    rw [← List.append_assoc]
    exact (h.tells point hstands).stays htable hstands (hnodup point hstands) hquiet
  verdicts := by
    intro e he hdone record hrecord
    rw [htask] at hdone
    rw [hhealth] at hrecord
    rw [h.verdicts e he hdone record hrecord, healthy_concat_of_done fun point hstands hcurrent => ?_]
    exact hdone point hstands (CheckPoint.mem_remaining_of_current? hcurrent)

/-- The pass goes on, and records nothing. -/
theorem goesOn {point' : CheckPoint} (h : Judged before past i chosen course)
    (hstands : course.task? i = some (.check point))
    (htells : Tells (before ++ past ++ [(course, event)]) (past ++ [(course, event)]) i point')
    (hremaining : point'.remaining = point.remaining)
    (hhealth : shared.health = course.shared.health) :
    Judged before (past ++ [(course, event)]) i chosen
      (course.put i shared (.waiting (.check point'))) where
  tells := by
    intro found hfound
    rw [Crowd.task?_put_self hstands] at hfound
    cases hfound
    rw [← List.append_assoc]
    exact htells
  verdicts := by
    intro e he hdone record hrecord
    have hnot : e ∉ point.remaining := by
      rw [← hremaining]
      exact hdone point' (Crowd.task?_put_self hstands _)
    rw [Crowd.shared_put, hhealth] at hrecord
    have hbefore := h.verdicts e he (fun found hfound => by
      cases hfound.symm.trans hstands
      exact hnot) record hrecord
    rw [hbefore, healthy_concat_of_done fun found hfound hcurrent => ?_]
    cases hfound.symm.trans hstands
    exact hnot (CheckPoint.mem_remaining_of_current? hcurrent)

/-- The pass has looked at an ecosystem, and records its health. -/
theorem concludes {record : Api.HealthRecord} {count : Nat} {proxy : Proxy}
    (h : Judged before past i chosen course) (hstands : course.task? i = some (.check point))
    (hnodup : point.remaining.Nodup) (hcurrent : point.current? = some e)
    (hrest : point.remaining = e :: rest) (hhealth : proxy.health = course.shared.health)
    (hverdict : record.ok = true ↔ Healthy (past ++ [(course, event)]) i e) :
    Judged before (past ++ [(course, event)]) i chosen
      (course.put i (proxy.recordHealth e record) (.waiting (.check (.passing rest count)))) where
  tells := by
    intro found hfound
    rw [Crowd.task?_put_self hstands] at hfound
    cases hfound
    rw [← List.append_assoc]
    exact (h.tells point hstands).concludes hstands hnodup hcurrent hrest count
  verdicts := by
    intro e' he' hdone record' hrecord'
    have hnot : e' ∉ rest := hdone (.passing rest count) (Crowd.task?_put_self hstands _)
    rcases List.mem_cons.mp hrecord' with heq | hold
    · cases heq
      exact hverdict
    · obtain ⟨hmem, hne⟩ := List.mem_filter.mp hold
      have hne : e' ≠ e := of_decide_eq_true hne
      rw [hhealth] at hmem
      have hbefore := h.verdicts e' he' (fun found hfound => by
        cases hfound.symm.trans hstands
        rw [hrest]
        exact List.not_mem_cons_of_ne_of_not_mem hne hnot) record' hmem
      rw [hbefore, healthy_concat_of_done fun found hfound hsame => ?_]
      cases hfound.symm.trans hstands
      exact hne (Option.some.inj (hsame.symm.trans hcurrent))

/-- A step of the pass. -/
theorem moves {point' : CheckPoint} (h : Judged before past i chosen course)
    (htable : TableKept (before ++ past) course) (hnodup : chosen.Nodup)
    (hstands : course.task? i = some (.check point))
    (hstanding : point.Stands chosen cachedOf course.shared.cache done)
    (hstep : point.step course.now input.wall input.files course.shared =
      (shared, .moved point')) :
    Judged before (past ++ [(course, .step i input)]) i chosen
      (course.put i shared (.waiting (.check point'))) := by
  have htells := h.tells point hstands
  have hremaining := hstanding.nodup_remaining hnodup
  have hmoves := point.step_moves course.now input.wall input.files course.shared
  rw [hstep] at hmoves
  generalize hstepped : (shared, Progress.moved point') = stepped at hmoves
  cases hmoves with
  | chooses => cases hstanding
  | finishes | waits => cases hstepped
  | turnsTo e rest checked =>
    cases hstepped
    exact h.goesOn hstands (htells.turns hstands _) rfl rfl
  | ensures e reconnect reconnect' rest checked cache step =>
    cases hstepped
    exact h.goesOn hstands (htells.ensuresOn hstands hremaining step) rfl rfl
  | ensured e reconnect rest checked cache result _ step goesOn =>
    cases goesOn with
    | fails error =>
      cases hstepped
      refine h.concludes hstands hremaining rfl rfl rfl (iff_of_false nofun ?_)
      refine htells.not_healthy_of_ensuring hstands fun a => ?_
      rw [step]
      nofun
    | misses => cases hstepped
    | asks a s found offers =>
      cases hstepped
      exact h.goesOn hstands (htells.asks hstands hremaining step found offers _) rfl rfl
    | spares a s found lacks =>
      cases hstepped
      refine h.concludes hstands hremaining rfl rfl rfl (iff_of_true rfl ⟨a, s, ?_, ?_⟩)
      · exact exists_mem_concat.mpr
          (.inr (.gets course input reconnect rest checked cache hstands step found))
      · rw [lacks]
        nofun
  | probes e a query query' deadline rest checked cache step =>
    obtain ⟨-, s, hs⟩ := hstanding.session
    cases hstepped
    exact h.goesOn hstands (htells.probesOn htable hstands hremaining hs step) rfl rfl
  | hears e a query deadline rest checked cache result step =>
    obtain ⟨hasks, s, hs⟩ := hstanding.session
    have hflight := Tells.inFlight_of_probing htable hstands hs
    have hdistinct := (htable a).distinct
    rw [sessionAt_of_session? hs] at hdistinct
    have hfinished : (query.step course.now s).2 = .finished result := by
      rw [← (Cache.stepSession_of_session? hs (query.step course.now)).1, step]
    cases hstepped
    refine h.concludes hstands hremaining rfl rfl rfl ?_
    rw [Option.isNone_iff_eq_none, QueryPoint.faultIn_finished hfinished hasks hdistinct hflight,
      htells.healthy_concat_of_probing hstands fun query' => by rw [step]; nofun]
  | givesUp e a query deadline rest checked cache step late =>
    obtain ⟨-, s, hs⟩ := hstanding.session
    have hblocked : (query.step course.now s).2 = .blocked := by
      rw [← (Cache.stepSession_of_session? hs (query.step course.now)).1, step]
    cases hstepped
    refine h.concludes hstands hremaining rfl rfl rfl (iff_of_false nofun ?_)
    rw [htells.healthy_concat_of_probing hstands fun query' => by rw [step]; nofun]
    exact QueryPoint.not_hasShown_of_blocked hblocked (Tells.inFlight_of_probing htable hstands hs)

/-- The pass ends. -/
theorem ends {result : Option ProxyReply} (h : Judged before past i chosen course)
    {checked : Nat} (hstands : course.task? i = some (.check (.passing [] checked)))
    (hhealth : shared.health = course.shared.health) :
    Judged before (past ++ [(course, event)]) i chosen (course.put i shared (.ended result)) where
  tells := by
    intro found hfound
    rw [Crowd.task?_put_self hstands] at hfound
    cases hfound
  verdicts := by
    intro e he _ record hrecord
    rw [Crowd.shared_put, hhealth] at hrecord
    have hbefore := h.verdicts e he (fun found hfound => by
      cases hfound.symm.trans hstands
      exact List.not_mem_nil) record hrecord
    rw [hbefore, healthy_concat_of_done fun found hfound hcurrent => ?_]
    cases hfound.symm.trans hstands
    cases hcurrent

/-- Every event keeps what the records say. -/
theorem next {start : Proxy} {new : List (Ecosystem × Api.HealthRecord)}
    (h : Judged before past i chosen course) (htable : TableKept (before ++ past) course)
    (hunderway : Underway start chosen cachedOf i past course new done)
    (hchooses : start.Chooses chosen cachedOf)
    (hevent : ProxyEvent.LeavesAlone i start.workspace event) :
    Judged before (past ++ [(course, event)]) i chosen (proxyRules.next course event) := by
  have hproceeds := hunderway.alone.proceeds hunderway.lt_length hevent.cache
  have hnodup (point : CheckPoint) (hstands : course.task? i = some (.check point)) :
      point.remaining.Nodup := by
    obtain ⟨found, hfound, -, hpoint, -⟩ := hunderway.exists_point hstands
    obtain rfl := ProxyTask.check.inj hfound
    exact hpoint.nodup_remaining hchooses.nodup
  generalize proxyRules.next course event = course' at hproceeds
  have hstays (hquiet : ¬ProxyMoment.Goes i (course, event))
      (hstanding : course'.tasks[i]? = course.tasks[i]?)
      (hhealth : course'.shared.health = course.shared.health) :
      Judged before (past ++ [(course, event)]) i chosen course' := by
    refine h.stays htable hnodup hquiet ?_ hhealth
    rw [Crowd.task?, Crowd.task?, hstanding]
  cases hproceeds with
  | others _ _ other standing shared =>
    exact hstays (ProxyMoment.not_goes_of_others other) standing (by rw [shared])
  | waits time =>
    refine hstays (ProxyMoment.not_goes_of_others ?_) rfl rfl
    rintro input ⟨⟩
  | stays input blocked => exact hstays (ProxyMoment.not_goes_of_blocked blocked) rfl rfl
  | moves input task task' shared stands step =>
    obtain ⟨point, rfl, -, hpoint, -⟩ := hunderway.exists_point stands
    obtain ⟨point', hstep, rfl⟩ := exists_moved_check step
    exact h.moves htable hchooses.nodup stands hpoint hstep
  | finishes input task result shared stands step =>
    obtain ⟨point, rfl, -, hpoint, -⟩ := hunderway.exists_point stands
    obtain ⟨count, hstep, rfl⟩ := exists_finished_check step
    have hmoves := point.step_moves course.now input.wall input.files course.shared
    rw [hstep] at hmoves
    generalize hstepped : (shared, Progress.finished count) = stepped at hmoves
    cases hmoves with
    | finishes checked =>
      cases hstepped
      exact h.ends stands rfl
    | chooses | turnsTo | waits | ensures | probes | hears | givesUp => cases hstepped
    | ensured _ _ _ _ _ _ _ _ goesOn => cases goesOn <;> cases hstepped

end Judged
end ProxyCourse
end SymbolSearch
