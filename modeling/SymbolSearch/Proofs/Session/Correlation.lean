import SymbolSearch.Proofs.Session.Ledger

/-!
# Responses and requests

In any course of a session, over any number of links and whatever their servers say, a request is
told nothing but the first response with its own id.

* `CourseMoment.request?` — the request that begins at a moment, and `requests` all that have begun.
* `CourseMoment.delivery?` — the response to a request that is dispatched while it is in the table,
  and `firstReply?` the first one.
* `SessionCourse.Correlates` — what is promised; `SessionCourse.correlates_after` shows it.
-/

namespace SymbolSearch

/-- Whether a request with an id is in the table. -/
def Pending.Has (pending : Pending) (id : Nat) : Prop :=
  ∃ channel, (id, channel) ∈ pending.entries

namespace Pending

instance (pending : Pending) (id : Nat) : Decidable (pending.Has id) :=
  decidable_of_iff (id ∈ pending.entries.map (·.1)) (by simp [Has])

end Pending

/-- What an event brings to the request with an id: a response with this id, while the request is in
    the table. -/
def Session.brings? (s : Session) (event : SessionEvent) (id : Nat) : Option ResponseOutcome :=
  match s.response? event with
  | some (responseId, outcome) =>
    if responseId.toNat? = some id ∧ s.pending.Has id then some outcome else none
  | none => none

/-- The request that an operation of a course has in flight. -/
def SessionCourse.replyOf (course : SessionCourse) (i : Nat) : Option PendingReply :=
  (course.task? i).bind SessionTask.reply?

namespace CourseMoment

/-- The request that begins at a moment: whose it is, and its id. -/
def request? (moment : CourseMoment) : Option (Nat × Nat) :=
  match moment.2 with
  | .step i _ =>
    match SessionCourse.replyOf (sessionRules.next moment.1 moment.2) i with
    | some reply =>
      if (SessionCourse.replyOf moment.1 i).map (·.id) = some reply.id then none
      else some (i, reply.id)
    | none => none
  | _ => none

/-- What a moment brings to the request with an id: a response with this id, while the request is in
    the table. -/
def delivery? (id : Nat) (moment : CourseMoment) : Option ResponseOutcome :=
  match moment.2 with
  | .occur event =>
    match moment.1.shared.response? event with
    | some (responseId, outcome) =>
      if responseId.toNat? = some id ∧ moment.1.shared.pending.Has id then some outcome else none
    | none => none
  | _ => none

end CourseMoment

/-- The requests that have begun, with those who made them. -/
def requests (past : List CourseMoment) : List (Nat × Nat) :=
  past.filterMap CourseMoment.request?

/-- The first response that a request was brought. -/
def firstReply? (past : List CourseMoment) (id : Nat) : Option ResponseOutcome :=
  (past.filterMap (CourseMoment.delivery? id)).head?

section Pasts

variable {past : List CourseMoment} {moment : CourseMoment} {id : Nat}

theorem requests_concat (past : List CourseMoment) (moment : CourseMoment) :
    requests (past ++ [moment]) = requests past ++ moment.request?.toList := by
  rw [requests, List.filterMap_append]
  cases h : moment.request? <;> simp [h, requests]

theorem firstReply?_concat (past : List CourseMoment) (moment : CourseMoment) (id : Nat) :
    firstReply? (past ++ [moment]) id = (firstReply? past id).or (moment.delivery? id) := by
  rw [firstReply?, List.filterMap_append, List.head?_append]
  cases h : moment.delivery? id <;> simp [h, firstReply?]

theorem firstReply?_of_step {course : SessionCourse} {event : CourseEvent}
    (h : ∀ id, CourseMoment.delivery? id (course, event) = none) :
    firstReply? (past ++ [(course, event)]) = firstReply? past := by
  funext id
  rw [firstReply?_concat, h, Option.or_none]

end Pasts

/-! ### Results -/

/-- The question that is put. -/
def QueryPoint.query : QueryPoint → Query
  | .starting query | .calling query _ => query

section Results

variable {now : Instant} {s : Session} {value : Except SessionError Json}

/-- A request ends with what it is told, or it was not sent. -/
theorem CallPoint.finished_cases {call : CallPoint} (h : (call.step now s).2 = .finished value) :
    (∃ reply pending, call.reply? = some reply ∧
        reply.wait? now s.pending = (pending, some value)) ∨ value = .error .processExit := by
  cases call with
  | starting call timeout =>
    simp only [step] at h
    split at h
    next => exact .inr (Progress.finished.inj h).symm
    next =>
      split at h
      next => cases h
      next => exact .inr (Progress.finished.inj h).symm
      next => cases h
      next => cases h
  | sending reply send =>
    simp only [step] at h
    split at h
    next => cases h
    next => exact .inr (Progress.finished.inj h).symm
    next => cases h
    next => cases h
  | waiting reply link =>
    simp only [step] at h
    split at h
    next pending found hwait =>
      obtain rfl := Progress.finished.inj h
      exact .inl ⟨reply, pending, rfl, hwait⟩
    next => cases h

theorem QueryPoint.finished_afterCall {query : Query} {result : Except SessionError Answer}
    {stepped : Stepped Session CallPoint (Except SessionError Json)}
    (h : (afterCall query stepped).2 = .finished result) :
    ∃ value, stepped.2 = .finished value ∧ result = value.bind (answerOf query) := by
  obtain ⟨m, progress⟩ := stepped
  cases progress with
  | blocked | moved call => cases h
  | finished value =>
    refine ⟨value, rfl, ?_⟩
    simp only [afterCall, finish] at h
    split at h
    · exact (Progress.finished.inj h).symm
    · exact (Progress.finished.inj h).symm

/-- A question ends with what its request is told, or it was not put. -/
theorem QueryPoint.finished_cases {point : QueryPoint} {result : Except SessionError Answer}
    (h : (point.step now s).2 = .finished result) :
    (∃ reply pending value, point.reply? = some reply ∧
        reply.wait? now s.pending = (pending, some value) ∧
        result = value.bind (answerOf point.query)) ∨
      result = .error .processExit ∨ result = .error (.notReady s.state) := by
  have hcall (query : Query) (call : CallPoint)
      (h : (afterCall query (call.step now s)).2 = .finished result) :
      (∃ reply pending value, call.reply? = some reply ∧
        reply.wait? now s.pending = (pending, some value) ∧
        result = value.bind (answerOf query)) ∨ result = .error .processExit := by
    obtain ⟨value, hvalue, hresult⟩ := finished_afterCall h
    rcases CallPoint.finished_cases hvalue with ⟨reply, pending, hreply, hwait⟩ | hexit
    · exact .inl ⟨reply, pending, value, hreply, hwait, hresult⟩
    · rw [hexit] at hresult
      exact .inr hresult
  cases point with
  | starting query =>
    simp only [step] at h
    split at h
    · rcases hcall query _ h with ⟨_, _, _, hreply, -⟩ | hexit
      · cases hreply
      · exact .inr (.inl hexit)
    · exact .inr (.inr (Progress.finished.inj h).symm)
  | calling query call =>
    rcases hcall query call h with htold | hexit
    · exact .inl htold
    · exact .inr (.inl hexit)

end Results

/-! ### What every event keeps -/

namespace Session

variable {s : Session}

/-- No event takes an id back. -/
theorem nextId_le_undergo (s : Session) (now : Instant) (event : SessionEvent) :
    s.nextId ≤ (s.undergo now event).nextId := by
  cases hresponse : s.response? event with
  | none =>
    have hmoves : DeskMoves (s.desk none) ((s.undergo now event).desk none) :=
      s.desk_undergo hresponse none
    exact hmoves.id_cases.1
  | some response =>
    obtain ⟨link, frames, hundergo⟩ : ∃ link frames, s.undergo now event =
        { s.updateLink link fun link => { link with frames } with
          active := true
          pending := s.pendingAfter response.1 response.2 } := undergo_response hresponse
    rw [hundergo]
    exact Nat.le_refl _

end Session

/-- What an event does to the requests: the one whose response it brings gets it. -/
theorem Kept.undergo {s : Session} {replyOf : Nat → Option PendingReply}
    {first? : Nat → Option ResponseOutcome} {i : Nat}
    (h : Kept s.pending s.nextId replyOf first?) (hi : replyOf i = none) (now : Instant)
    (event : SessionEvent) :
    Kept (s.undergo now event).pending (s.undergo now event).nextId replyOf
      (fun id => (first? id).or (s.brings? event id)) := by
  have hbrings (id : Nat) : s.brings? event id = match s.response? event with
      | some (responseId, outcome) =>
        if responseId.toNat? = some id ∧ s.pending.Has id then some outcome else none
      | none => none := rfl
  cases hresponse : s.response? event with
  | none =>
    have hmoves : DeskMoves (s.desk none) ((s.undergo now event).desk none) :=
      s.desk_undergo hresponse none
    simp only [hbrings, hresponse, Option.or_none]
    have hkept : Kept s.pending s.nextId (Function.update replyOf i none) first? := by
      rw [← hi, Function.update_eq_self]
      exact h
    have hkept' := Kept.desk hmoves hkept
    rwa [show ((s.undergo now event).desk none).own = replyOf i from hi.symm,
      Function.update_eq_self] at hkept'
  | some response =>
    obtain ⟨responseId, outcome⟩ := response
    obtain ⟨link, frames, hundergo⟩ : ∃ link frames, s.undergo now event =
        { s.updateLink link fun link => { link with frames } with
          active := true
          pending := s.pendingAfter responseId outcome } := Session.undergo_response hresponse
    simp only [hbrings, hresponse]
    rw [hundergo]
    show Kept (s.pendingAfter responseId outcome) s.nextId replyOf _
    by_cases hhas : ∃ id, responseId.toNat? = some id ∧ s.pending.Has id
    · -- The request with the id gets its first response.
      obtain ⟨id, hid, channel, hentry⟩ := hhas
      have hfirst : (fun other => (first? other).or
          (if responseId.toNat? = some other ∧ s.pending.Has other then some outcome else none)) =
          Function.update first? id (some outcome) := by
        obtain ⟨j, reply, hj, rfl, rfl⟩ := h.owned id channel hentry
        have hnone : first? reply.id = none := by
          cases h.inFlight j reply hj with
          | registered _ _ first => exact first
          | answered _ entry | failed entry => exact absurd hentry (entry _)
        funext other
        rw [hid]
        by_cases hother : other = reply.id
        · rw [hother, Function.update_self, hnone, if_pos ⟨rfl, reply.channel, hentry⟩]
          rfl
        · rw [Function.update_of_ne hother, if_neg, Option.or_none]
          rintro ⟨heq, -⟩
          exact hother (Option.some.inj heq).symm
      have hafter : s.pendingAfter responseId outcome = (s.pending.resolve id outcome).1 := by
        rw [Session.pendingAfter, hid]
      rw [hafter, hfirst]
      exact h.resolve hentry outcome
    · -- Nobody waits for a response with this id.
      have hafter : s.pendingAfter responseId outcome = s.pending := by
        unfold Session.pendingAfter
        split
        next id hid =>
          have hno : ∀ channel, (id, channel) ∉ s.pending.entries :=
            fun channel hentry => hhas ⟨id, hid, channel, hentry⟩
          rw [Pending.resolve_of_notMem hno]
        next => rfl
      have hsame (id : Nat) : ¬(responseId.toNat? = some id ∧ s.pending.Has id) :=
        fun hid => hhas ⟨id, hid⟩
      simp only [hafter, hsame, if_false, Option.or_none]
      exact h

namespace SessionCourse

/-- What holds of a course and its past. -/
structure Corresponds (past : List CourseMoment) (course : SessionCourse) : Prop where
  kept : Kept course.shared.pending course.shared.nextId course.replyOf (firstReply? past)
  ids : ((requests past).map (·.2)).Pairwise (· < ·)
  ids_lt : ∀ request ∈ requests past, request.2 < course.shared.nextId
  requested : ∀ i reply, course.replyOf i = some reply → (i, reply.id) ∈ requests past

variable {past : List CourseMoment} {course : SessionCourse} {event : CourseEvent} {i : Nat}
  {task : SessionTask} {shared : Session}

theorem replyOf_put (hi : course.task? i = some task)
    (standing : Standing SessionTask (Option SessionReply)) :
    replyOf (course.put i shared standing) =
      Function.update course.replyOf i (standing.point?.bind SessionTask.reply?) := by
  funext j
  by_cases hj : j = i
  · subst hj
    rw [Function.update_self, replyOf, Crowd.task?_put_self hi]
  · rw [Function.update_of_ne hj, replyOf, Crowd.task?_put_of_ne (Ne.symm hj)]
    rfl

/-- An event that changes neither the table nor anyone's request. -/
theorem Corresponds.same (h : Corresponds past course) {course' : SessionCourse}
    (hrequest : CourseMoment.request? (course, event) = none)
    (hdelivery : ∀ id, CourseMoment.delivery? id (course, event) = none)
    (hkept : Kept course'.shared.pending course'.shared.nextId course.replyOf (firstReply? past))
    (hnext : course.shared.nextId ≤ course'.shared.nextId)
    (hreplies : course'.replyOf = course.replyOf) :
    Corresponds (past ++ [(course, event)]) course' where
  kept := by
    rw [firstReply?_of_step hdelivery, hreplies]
    exact hkept
  ids := by
    rw [requests_concat, hrequest, Option.toList_none, List.append_nil]
    exact h.ids
  ids_lt := by
    rw [requests_concat, hrequest, Option.toList_none, List.append_nil]
    exact fun request hmem => Nat.lt_of_lt_of_le (h.ids_lt request hmem) hnext
  requested := by
    rw [requests_concat, hrequest, Option.toList_none, List.append_nil, hreplies]
    exact h.requested

/-- What a step of an operation is for the requests: it begins one with a new id, or leaves the
    operation with the one that it had, if with any. -/
theorem request_cases (hi : course.task? i = some task) {input : Unit}
    {standing : Standing SessionTask (Option SessionReply)}
    (hnext : sessionRules.next course (.step i input) = course.put i shared standing)
    (hmoves : DeskMoves (course.shared.desk task.reply?)
      (shared.desk (standing.point?.bind SessionTask.reply?)))
    (hlt : ∀ reply, task.reply? = some reply → reply.id < course.shared.nextId) :
    CourseMoment.request? (course, .step i input) = none ∧
        (∀ reply, standing.point?.bind SessionTask.reply? = some reply →
          task.reply? = some reply) ∨
      ∃ reply, standing.point?.bind SessionTask.reply? = some reply ∧
        CourseMoment.request? (course, .step i input) = some (i, reply.id) ∧
        course.shared.nextId ≤ reply.id ∧ reply.id < shared.nextId := by
  have hown : course.replyOf i = task.reply? := by rw [replyOf, hi]; rfl
  have hown' : replyOf (course.put i shared standing) i =
      standing.point?.bind SessionTask.reply? := by
    rw [replyOf_put hi, Function.update_self]
  have hrequest : CourseMoment.request? (course, .step i input) =
      match standing.point?.bind SessionTask.reply? with
      | some reply =>
        if task.reply?.map (·.id) = some reply.id then none else some (i, reply.id)
      | none => none := by
    simp only [CourseMoment.request?, hnext, hown', hown]
  rw [hrequest]
  cases hafter : standing.point?.bind SessionTask.reply? with
  | none => exact .inl ⟨rfl, by rintro reply ⟨⟩⟩
  | some reply =>
    rw [hafter] at hmoves
    rcases hmoves.id_cases.2 reply rfl with hsame | ⟨hle, hlt'⟩
    · have hsame : task.reply? = some reply := hsame
      refine .inl ⟨?_, ?_⟩
      · rw [hsame]
        exact if_pos rfl
      · rintro _ ⟨⟩
        exact hsame
    · refine .inr ⟨reply, rfl, if_neg fun hid => ?_, hle, hlt'⟩
      -- A request that was in flight before has an id that was given out before.
      obtain ⟨before, hbefore, hid⟩ := Option.map_eq_some_iff.mp hid
      have hsmall := hlt before hbefore
      rw [hid] at hsmall
      exact absurd hsmall (Nat.not_lt.mpr hle)

/-- A step of an operation. -/
theorem Corresponds.step (h : Corresponds past course) (hi : course.task? i = some task)
    {input : Unit} {standing : Standing SessionTask (Option SessionReply)}
    (hnext : sessionRules.next course (.step i input) = course.put i shared standing)
    (hmoves : DeskMoves (course.shared.desk task.reply?)
      (shared.desk (standing.point?.bind SessionTask.reply?))) :
    Corresponds (past ++ [(course, .step i input)]) (course.put i shared standing) := by
  have hown : course.replyOf i = task.reply? := by rw [replyOf, hi]; rfl
  have hreplies : replyOf (course.put i shared standing) =
      Function.update course.replyOf i (standing.point?.bind SessionTask.reply?) :=
    replyOf_put hi standing
  have hkept : Kept course.shared.pending course.shared.nextId
      (Function.update course.replyOf i task.reply?) (firstReply? past) := by
    rw [← hown, Function.update_eq_self]
    exact h.kept
  have hle : course.shared.nextId ≤ shared.nextId := hmoves.id_cases.1
  have hcases := request_cases hi hnext hmoves fun reply hreply =>
    (h.kept.reply_lt i reply (hown.trans hreply)).1
  have hold {request : Nat × Nat} (hmem : request ∈ requests past) :
      request.2 < shared.nextId := Nat.lt_of_lt_of_le (h.ids_lt request hmem) hle
  constructor
  · rw [firstReply?_of_step fun _ => rfl, hreplies]
    exact Kept.desk hmoves hkept
  · rw [requests_concat]
    rcases hcases with ⟨hnone, -⟩ | ⟨reply, -, hsome, hge, -⟩
    · rw [hnone, Option.toList_none, List.append_nil]
      exact h.ids
    · rw [hsome, Option.toList_some, List.map_append, List.pairwise_append]
      refine ⟨h.ids, List.pairwise_singleton _ _, ?_⟩
      intro id hid new hnew
      obtain ⟨request, hmem, rfl⟩ := List.mem_map.mp hid
      obtain rfl := List.mem_singleton.mp hnew
      exact Nat.lt_of_lt_of_le (h.ids_lt request hmem) hge
  · rw [requests_concat]
    intro request hmem
    rcases List.mem_append.mp hmem with hmem | hmem
    · exact hold hmem
    · rcases hcases with ⟨hnone, -⟩ | ⟨reply, -, hsome, -, hlt⟩
      · rw [hnone] at hmem
        cases hmem
      · rw [hsome, Option.toList_some, List.mem_singleton] at hmem
        rw [hmem]
        exact hlt
  · rw [requests_concat, hreplies]
    intro j reply hj
    by_cases hji : j = i
    · subst hji
      rw [Function.update_self] at hj
      rcases hcases with ⟨-, hsame⟩ | ⟨new, hnew, hsome, -⟩
      · exact List.mem_append_left _ (h.requested j reply (hown.trans (hsame reply hj)))
      · obtain rfl := Option.some.inj (hj.symm.trans hnew)
        rw [hsome]
        exact List.mem_append_right _ List.mem_cons_self
    · rw [Function.update_of_ne hji] at hj
      exact List.mem_append_left _ (h.requested j reply hj)

/-- The response that an event brings, if it brings one. -/
theorem Corresponds.occur (h : Corresponds past course) (event : SessionEvent) :
    Corresponds (past ++ [(course, .occur event)]) (sessionRules.next course (.occur event)) := by
  have hnobody : course.replyOf course.tasks.length = none := by
    rw [replyOf, Crowd.task?_length]
    rfl
  have hfirst : firstReply? (past ++ [(course, .occur event)]) =
      fun id => (firstReply? past id).or (course.shared.brings? event id) := by
    funext id
    exact firstReply?_concat past _ id
  have hrequests : requests (past ++ [(course, .occur event)]) = requests past := by
    have hrequest : CourseMoment.request? (course, .occur event) = none := rfl
    rw [requests_concat, hrequest, Option.toList_none, List.append_nil]
  constructor
  · rw [hfirst]
    exact h.kept.undergo hnobody course.now event
  · rw [hrequests]
    exact h.ids
  · rw [hrequests]
    exact fun request hmem => Nat.lt_of_lt_of_le (h.ids_lt request hmem)
      (course.shared.nextId_le_undergo course.now event)
  · rw [hrequests]
    exact h.requested

/-- Every event keeps it. -/
theorem Corresponds.next (h : Corresponds past course) (event : CourseEvent) :
    Corresponds (past ++ [(course, event)]) (sessionRules.next course event) := by
  have hmoves := sessionRules.next_moves course event
  generalize hcourse' : sessionRules.next course event = course' at hmoves
  cases hmoves with
  | blocks i input blocked =>
    refine h.same ?_ (fun _ => rfl) h.kept (Nat.le_refl _) rfl
    simp only [CourseMoment.request?, hcourse']
    cases course.replyOf i <;> simp
  | misses i stands => exact h.same rfl (fun _ => rfl) h.kept (Nat.le_refl _) rfl
  | begins call =>
    have hreplies : replyOf { course with
        tasks := course.tasks ++ [.waiting (sessionRules.enter call)] } = course.replyOf := by
      funext j
      by_cases hj : j = course.tasks.length
      · rw [hj, replyOf, Crowd.task?_concat_self, replyOf, Crowd.task?_length]
        cases call <;> rfl
      · rw [replyOf, Crowd.task?_concat_of_ne hj]
        rfl
    exact h.same rfl (fun _ => rfl) h.kept (Nat.le_refl _) hreplies
  | moves i input task task' shared stands step =>
    have hdesk := task.desk_step course.now course.shared
    rw [show task.step course.now course.shared = (shared, .moved task') from step] at hdesk
    exact h.step stands hcourse' hdesk
  | finishes i input task result shared stands step =>
    have hdesk := task.desk_step course.now course.shared
    rw [show task.step course.now course.shared = (shared, .finished result) from step] at hdesk
    exact h.step stands hcourse' hdesk
  | givesUp i task stands =>
    have hdesk := task.desk_cancel course.shared
    have hkept : Kept course.shared.pending course.shared.nextId
        (Function.update course.replyOf i task.reply?) (firstReply? past) := by
      have hown : course.replyOf i = task.reply? := by rw [replyOf, stands]; rfl
      rw [← hown, Function.update_eq_self]
      exact h.kept
    have hreplies : replyOf (course.put i (sessionRules.cancel task course.shared)
        (.ended none)) = Function.update course.replyOf i none := replyOf_put stands _
    constructor
    · rw [firstReply?_of_step fun _ => rfl, hreplies]
      exact Kept.desk hdesk hkept
    · rw [requests_concat]
      simpa [CourseMoment.request?] using h.ids
    · rw [requests_concat]
      intro request hmem
      have hmem : request ∈ requests past := by simpa [CourseMoment.request?] using hmem
      exact Nat.lt_of_lt_of_le (h.ids_lt request hmem) hdesk.id_cases.1
    · rw [requests_concat, hreplies]
      intro j reply hj
      have hbefore := (Kept.update_none_eq_some.mp hj).2
      exact List.mem_append_left _ (h.requested j reply hbefore)
  | occurs event => exact hcourse' ▸ h.occur event
  | waits time => exact h.same rfl (fun _ => rfl) h.kept (Nat.le_refl _) rfl

theorem corresponds_start (settings : SessionSettings) (hello : Except String ClientHello) :
    Corresponds [] (start settings hello) where
  kept := {
    distinct := ⟨List.nodup_nil, List.nodup_nil⟩
    entry_lt := by rintro id channel ⟨⟩
    reply_lt := by rintro i reply ⟨⟩
    ids := by rintro i j reply reply' ⟨⟩
    channels := by rintro i j reply reply' ⟨⟩
    owned := by rintro id channel ⟨⟩
    inFlight := by rintro i reply ⟨⟩
    fresh := fun _ _ => rfl }
  ids := List.Pairwise.nil
  ids_lt := by rintro request ⟨⟩
  requested := by rintro i reply ⟨⟩

theorem corresponds_after (settings : SessionSettings) (hello : Except String ClientHello)
    (events : List CourseEvent) :
    Corresponds (sessionRules.history (start settings hello) events)
      (sessionRules.after (start settings hello) events) :=
  sessionRules.history_induction (corresponds_start settings hello)
    (fun _ _ event h => h.next event) events

/-! ### What is promised -/

/-- What a request may be told: the first response with its id, or that none will come. -/
def Told (past : List CourseMoment) (reply : PendingReply) (result : Except SessionError Json) :
    Prop :=
  (∃ outcome, firstReply? past reply.id = some outcome ∧ result = PendingReply.resultOf outcome) ∨
    result = .error .processExit ∨ result = .error (.requestTimeout reply.method reply.timeout)

/-- What a response changes: what concerns the request with its id, and nothing else but the input
    of its link. -/
structure Spares (id : MessageId) (course course' : SessionCourse) : Prop where
  tasks : course'.tasks = course.tasks
  session : ∃ link frames, course'.shared =
    { course.shared.updateLink link fun link => { link with frames } with
      active := true
      pending := course'.shared.pending }
  /-- Every other request is in the table or not as before, and will be told the same. -/
  others : ∀ i reply, course.replyOf i = some reply → id.toNat? ≠ some reply.id →
    (course'.shared.pending.Has reply.id ↔ course.shared.pending.Has reply.id) ∧
      ∀ now, (reply.wait? now course'.shared.pending).2 =
        (reply.wait? now course.shared.pending).2
  /-- A response for which no request waits changes nothing in the table. -/
  unknown : (∀ n, id.toNat? = some n → ¬course.shared.pending.Has n) →
    course'.shared.pending = course.shared.pending

/-- Responses reach the requests that they are for. -/
structure Correlates (past : List CourseMoment) (course : SessionCourse) : Prop where
  /-- Each request has a greater id than all before it. -/
  ids : ((requests past).map (·.2)).Pairwise (· < ·)
  requested : ∀ i reply, course.replyOf i = some reply → (i, reply.id) ∈ requests past
  /-- What is in the table is the request of an operation that still waits for it. -/
  owned : ∀ i id, (i, id) ∈ requests past → course.shared.pending.Has id →
    ∃ reply, course.replyOf i = some reply ∧ reply.id = id
  told : ∀ i reply pending result, course.replyOf i = some reply →
    reply.wait? course.now course.shared.pending = (pending, some result) → Told past reply result
  /-- A question ends with what its request is told, decoded, or before it makes one. -/
  answered : ∀ event i point result,
    sessionRules.step? (course, event) = some (i, .ask point, .finished (.answered result)) →
    (∃ reply value, point.reply? = some reply ∧ Told past reply value ∧
        result = value.bind (QueryPoint.answerOf point.query)) ∨
      result = .error .processExit ∨ result = .error (.notReady course.shared.state)
  /-- A response concerns the request with its id, whatever its link is. -/
  response : ∀ event id outcome, course.shared.response? event = some (id, outcome) →
    Spares id course (sessionRules.next course (.occur event))

variable {pending : Pending} {value : Except SessionError Json}

theorem Corresponds.told (h : Corresponds past course) {reply : PendingReply}
    (hi : course.replyOf i = some reply)
    (hwait : reply.wait? course.now course.shared.pending = (pending, some value)) :
    Told past reply value := by
  have hcases := (h.kept.inFlight i reply hi).wait_cases h.kept.distinct hwait
  rcases hcases with ⟨-, -, hfirst | hexit⟩ | ⟨-, hlate⟩
  · exact .inl hfirst
  · exact .inr (.inl hexit)
  · exact .inr (.inr hlate)

theorem Corresponds.answered (h : Corresponds past course) {point : QueryPoint}
    {result : Except SessionError Answer}
    (hstep : sessionRules.step? (course, event) =
      some (i, .ask point, .finished (.answered result))) :
    (∃ reply value, point.reply? = some reply ∧ Told past reply value ∧
        result = value.bind (QueryPoint.answerOf point.query)) ∨
      result = .error .processExit ∨ result = .error (.notReady course.shared.state) := by
  obtain ⟨input, -, hi, hprogress⟩ := sessionRules.step?_eq_some hstep
  have hfinished : (point.step course.now course.shared).2 = .finished result := by
    change (point.step course.now course.shared).2.map _ _ = _ at hprogress
    cases hstepped : (point.step course.now course.shared).2 with
    | blocked | moved =>
      rw [hstepped] at hprogress
      cases hprogress
    | finished found =>
      rw [hstepped] at hprogress
      obtain rfl : found = result := SessionReply.answered.inj (Progress.finished.inj hprogress)
      rfl
  rcases QueryPoint.finished_cases hfinished with ⟨reply, pending, value, hreply, hwait, heq⟩ | hearly
  · have hown : course.replyOf i = some reply := by
      rw [replyOf, hi]
      exact hreply
    exact .inl ⟨reply, value, hreply, h.told hown hwait, heq⟩
  · exact .inr hearly

theorem Corresponds.owned (h : Corresponds past course) {id : Nat}
    (hrequest : (i, id) ∈ requests past) (hhas : course.shared.pending.Has id) :
    ∃ reply, course.replyOf i = some reply ∧ reply.id = id := by
  obtain ⟨channel, hentry⟩ := hhas
  obtain ⟨j, reply, hj, rfl, -⟩ := h.kept.owned id channel hentry
  -- No two requests have one id, so the one in the table is the one that is asked for.
  have hnodup : ((requests past).map (·.2)).Nodup := h.ids.imp fun hlt => Nat.ne_of_lt hlt
  have hsame := List.inj_on_of_nodup_map hnodup hrequest (h.requested j reply hj) rfl
  obtain ⟨rfl, -⟩ := Prod.mk.inj hsame
  exact ⟨reply, hj, rfl⟩

theorem Corresponds.spares (h : Corresponds past course) {event : SessionEvent} {id : MessageId}
    {outcome : ResponseOutcome} (hresponse : course.shared.response? event = some (id, outcome)) :
    Spares id course (sessionRules.next course (.occur event)) := by
  obtain ⟨link, frames, hundergo⟩ : ∃ link frames, course.shared.undergo course.now event =
      { course.shared.updateLink link fun link => { link with frames } with
        active := true
        pending := course.shared.pendingAfter id outcome } :=
    Session.undergo_response hresponse
  have hpending : (course.shared.undergo course.now event).pending =
      course.shared.pendingAfter id outcome := by
    rw [hundergo]
  have hunknown (hno : ∀ n, id.toNat? = some n → ¬course.shared.pending.Has n) :
      course.shared.pendingAfter id outcome = course.shared.pending := by
    unfold Session.pendingAfter
    split
    next n hid => rw [Pending.resolve_of_notMem fun channel hentry => hno n hid ⟨channel, hentry⟩]
    next => rfl
  refine ⟨rfl, ⟨link, frames, ?_⟩, ?_, fun hno => hpending.trans (hunknown hno)⟩
  · show course.shared.undergo course.now event =
      { course.shared.updateLink link fun link => { link with frames } with
        active := true
        pending := (course.shared.undergo course.now event).pending }
    rw [hpending]
    exact hundergo
  · intro i reply hi hother
    show ((course.shared.undergo course.now event).pending.Has reply.id ↔ _) ∧
      ∀ now, (reply.wait? now (course.shared.undergo course.now event).pending).2 = _
    rw [hpending]
    by_cases hhas : ∃ n, id.toNat? = some n ∧ course.shared.pending.Has n
    · obtain ⟨n, hid, channel, hentry⟩ := hhas
      obtain ⟨j, answered, hj, rfl, rfl⟩ := h.kept.owned n channel hentry
      -- Somebody else is answered, in a channel of his own.
      have hid' : reply.id ≠ answered.id := fun heq => hother (heq ▸ hid)
      have hchannel : reply.channel ≠ answered.channel := by
        intro heq
        obtain rfl := h.kept.channels i j reply answered hi hj heq
        obtain rfl := Option.some.inj (hi.symm.trans hj)
        exact hid' rfl
      have hafter : course.shared.pendingAfter id outcome =
          (course.shared.pending.resolve answered.id outcome).1 := by
        rw [Session.pendingAfter, hid]
      rw [hafter, Pending.resolve_of_mem h.kept.distinct hentry]
      have hkeeps (channel : ChannelId) :
          (reply.id, channel) ∈ course.shared.pending.without answered.id ↔
            (reply.id, channel) ∈ course.shared.pending.entries := by
        rw [Pending.mem_without]
        exact and_iff_left hid'
      refine ⟨exists_congr hkeeps, fun now => ?_⟩
      refine (h.kept.inFlight i reply hi).wait_frame h.kept.distinct ?_ hkeeps ?_
      · exact h.kept.distinct.of_entries_subset List.filter_sublist
      · simp [Ne.symm hchannel]
    · rw [hunknown fun n hid hhas' => hhas ⟨n, hid, hhas'⟩]
      exact ⟨Iff.rfl, fun _ => rfl⟩

/-- In any course, over any number of links and whatever comes through them, every request has an id
    of its own and is told nothing but the first response with this id that comes while it is in
    the table. -/
theorem correlates_after (settings : SessionSettings) (hello : Except String ClientHello)
    (events : List CourseEvent) :
    Correlates (sessionRules.history (start settings hello) events)
      (sessionRules.after (start settings hello) events) := by
  have h := corresponds_after settings hello events
  exact {
    ids := h.ids
    requested := h.requested
    owned := fun _ _ => h.owned
    told := fun _ _ _ _ => h.told
    answered := fun _ _ _ _ => h.answered
    response := fun _ _ _ => h.spares }

end SessionCourse
end SymbolSearch
