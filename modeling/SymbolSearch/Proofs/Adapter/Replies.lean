import SymbolSearch.Proofs.Adapter.Brackets

/-!
# Replies to questions to an adapter

The questions to an adapter use the table of requests of its session, side by side with whatever else
is done to the session. This file says where what they are told comes from.

* `InquiryPoint.desk_moves` and `AdapterTask.desk_step` — what a step does to the table and to the
  request of the operation; `AdapterCourse.TableKept.next` says that the table is kept.
* `QueryPoint.Carries` — the request that a question has in flight is the question.
* `AdapterCourse.Pursued` — so is the request with the id that the question has registered.
* `AdapterCourse.Heard` — what it is to be answered by a server; `AdapterCourse.Pursued.heard` says
  that nobody is answered otherwise.
-/

namespace SymbolSearch

/-! ### Requests in flight -/

/-- The question that is put to the server. -/
def InquiryPoint.call? : InquiryPoint → Option QueryPoint
  | .asking _ _ call | .askingInside _ call => some call
  | _ => none

/-- The request that a question to an adapter has in flight. -/
def InquiryPoint.reply? (point : InquiryPoint) : Option PendingReply :=
  point.call?.bind QueryPoint.reply?

/-- The request that an operation has in flight. -/
def AdapterTask.reply? : AdapterTask → Option PendingReply
  | .inquiry point => point.reply?
  | .onSession task => task.reply?

namespace InquiryPoint

variable {now : Instant} {files : Option Tree} {adapter : Adapter} {point : InquiryPoint}
  {bracket : Bracket}

theorem Opens.reply? {listener : Option Nat} {notice : NoticePoint}
    (h : point.Opens adapter bracket listener notice) : point.reply? = none := by
  cases h with
  | begins | goesOn => rfl

theorem AsksInside.reply? {call : QueryPoint} (h : point.AsksInside bracket call) :
    point.reply? = call.reply? := by
  cases h with
  | begins | goesOn => rfl

/-- Who leaves has no request in flight. -/
theorem left_leave (before : Option PendingReply) (result : Except SessionError Answer) :
    (leave now bracket adapter result).2.left before InquiryPoint.reply? = none := by
  cases result with
  | ok answer => rfl
  | error reason => rfl

/-- What a step of a question does to the table of requests. -/
theorem desk_moves {stepped : Inquired} (h : InquiryMoves now files adapter point stepped)
    (hblocked : stepped.2 ≠ .blocked) :
    DeskMoves (adapter.session.desk point.reply?)
      (stepped.1.session.desk (stepped.2.left point.reply? InquiryPoint.reply?)) := by
  have hnotice {notice : NoticePoint} {s s' : Session}
      {progress : Progress NoticePoint (Except SessionError Unit)}
      (step : notice.step s = (s', progress)) : s'.desk none = s.desk none := by
    have hdesk := notice.desk_step s
    rwa [step] at hdesk
  -- Listeners are no matter of the table.
  have hopening {notice : NoticePoint} {listeners : List (String × Broadcast Json)} {s' : Session}
      {progress : Progress NoticePoint (Except SessionError Unit)}
      (step : notice.step (adapter.withListeners listeners).session = (s', progress)) :
      DeskMoves (adapter.session.desk none) (s'.desk none) :=
    deskMoves_of_eq (s := (adapter.withListeners listeners).session) (hnotice step) none
  have hcall {call : QueryPoint} {s s' : Session}
      {progress : Progress QueryPoint (Except SessionError Answer)}
      (step : call.step now s = (s', progress)) :
      DeskMoves (s.desk call.reply?) (s'.desk (progress.left call.reply? QueryPoint.reply?)) := by
    have hdesk := call.desk_step now s
    rwa [step] at hdesk
  have hleave (bracket : Bracket) (adapter' : Adapter) (result : Except SessionError Answer)
      (hmoves : DeskMoves (adapter.session.desk point.reply?) (adapter'.session.desk none)) :
      DeskMoves (adapter.session.desk point.reply?)
        ((leave now bracket adapter' result).1.session.desk
          ((leave now bracket adapter' result).2.left point.reply? InquiryPoint.reply?)) := by
    rw [left_leave, (leave_eq now bracket adapter' result).1]
    exact hmoves
  cases h with
  | blocks => exact absurd rfl hblocked
  | unaskable | remembers | shuns | reads | asks | unreadable | scans => exact .refl
  | joins inquiry query path text uri uri_eq =>
    show DeskMoves (adapter.session.desk none) ((adapter.lockDocument uri).2.session.desk none)
    rw [adapter.session_lockDocument]
  | opening _ bracket listener notice notice' listeners s' before step
  | opened _ bracket listener notice listeners s' resume before step =>
    rw [before.reply?]
    exact hopening step
  | unopened _ bracket listener notice listeners listeners' s' reason before step =>
    refine hleave bracket _ _ ?_
    rw [before.reply?]
    have hrefused : DeskMoves (adapter.session.desk none) (s'.desk none) := hopening step
    exact hrefused
  | asking _ bracket call call' listeners s' before step =>
    rw [before.reply?]
    exact hcall step
  | closing _ bracket call listeners middle s' result notice before answered step =>
    rw [before.reply?]
    exact (hcall answered).trans (deskMoves_of_eq (hnotice step) none)
  | closed _ bracket call listeners middle s' result sent before answered step =>
    refine hleave bracket _ _ ?_
    rw [before.reply?]
    exact (hcall answered).trans (deskMoves_of_eq (hnotice step) none)
  | stillCloses bracket result notice notice' s' step => exact deskMoves_of_eq (hnotice step) none
  | leaves bracket result notice s' sent step =>
    exact hleave bracket _ _ (deskMoves_of_eq (hnotice step) none)
  | stillAsks inquiry query call call' s' step => exact hcall step
  | concludes inquiry query call s' result step =>
    cases result with
    | ok answer => exact hcall step
    | error reason => exact hcall step

/-- What is done to the table when a question is given up. -/
theorem desk_cancel (point : InquiryPoint) (adapter : Adapter) :
    DeskMoves (adapter.session.desk point.reply?) ((point.cancel adapter).session.desk none) := by
  have hstop (adapter' : Adapter) (listener : Option Nat) :
      (stopListening adapter' listener).session.desk none = adapter'.session.desk none := by
    obtain ⟨listeners, hlisteners⟩ := adapter'.exists_stopListening listener
    rw [hlisteners]
    rfl
  cases point with
  | starting | reading | queued | scanning => exact .refl
  | opening bracket listener notice =>
    show DeskMoves _ ((stopListening { adapter with session := notice.cancel adapter.session }
      listener).session.desk none)
    rw [hstop]
    exact (SessionTask.notify notice).desk_cancel adapter.session
  | settling bracket listener resume =>
    show DeskMoves _ ((stopListening adapter listener).session.desk none)
    rw [hstop]
    exact .refl
  | asking inquiry query call => exact (SessionTask.ask call).desk_cancel adapter.session
  | askingInside bracket call => exact (SessionTask.ask call).desk_cancel adapter.session
  | closing bracket result notice => exact (SessionTask.notify notice).desk_cancel adapter.session

end InquiryPoint

namespace AdapterTask

/-- What a step of an operation does to the table of requests. -/
theorem desk_step (now : Instant) (files : Option Tree) (task : AdapterTask) (adapter : Adapter)
    (hblocked : (task.step now files adapter).2 ≠ .blocked) :
    DeskMoves (adapter.session.desk task.reply?)
      ((task.step now files adapter).1.session.desk
        ((task.step now files adapter).2.left task.reply? reply?)) := by
  have hleft {π ρ : Type} {make : π → AdapterTask} {reply : ρ → AdapterReply}
      {request? : π → Option PendingReply} (before : Option PendingReply)
      (heq : ∀ point, (make point).reply? = request? point) (progress : Progress π ρ) :
      (progress.map make reply).left before AdapterTask.reply? = progress.left before request? := by
    cases progress with
    | blocked => rfl
    | moved point => exact heq point
    | finished result => rfl
  cases task with
  | inquiry point =>
    rw [step, Stepped.map, hleft _ fun _ => rfl]
    exact InquiryPoint.desk_moves (point.step_moves now files adapter)
      (Stepped.ne_blocked_of_map hblocked)
  | onSession task =>
    rw [step, Stepped.map, hleft _ fun _ => rfl]
    exact task.desk_step now adapter.session

theorem desk_cancel (task : AdapterTask) (adapter : Adapter) :
    DeskMoves (adapter.session.desk task.reply?) ((task.cancel adapter).session.desk none) := by
  cases task with
  | inquiry point => exact point.desk_cancel adapter
  | onSession task => exact task.desk_cancel adapter.session

end AdapterTask

/-! ### What every event keeps -/

/-- What a moment brings to the request with an id. -/
def AdapterMoment.delivery? (id : Nat) (moment : AdapterMoment) : Option ResponseOutcome :=
  match moment.2 with
  | .occur (.happens event) => moment.1.shared.session.brings? event id
  | _ => none

namespace AdapterCourse

/-- The request that an operation has in flight. -/
def replyOf (course : AdapterCourse) (i : Nat) : Option PendingReply :=
  (course.task? i).bind AdapterTask.reply?

/-- The first response that a request was brought. -/
def firstReplyIn? (past : List AdapterMoment) (id : Nat) : Option ResponseOutcome :=
  (past.filterMap (AdapterMoment.delivery? id)).head?

variable {past later : List AdapterMoment} {course : AdapterCourse} {event : AdapterCourseEvent}
  {moment : AdapterMoment} {i : Nat} {task : AdapterTask} {shared : Adapter}

theorem firstReplyIn?_append (past later : List AdapterMoment) (id : Nat) :
    firstReplyIn? (past ++ later) id = (firstReplyIn? past id).or (firstReplyIn? later id) := by
  rw [firstReplyIn?, List.filterMap_append, List.head?_append]
  rfl

theorem firstReplyIn?_concat (past : List AdapterMoment) (moment : AdapterMoment) (id : Nat) :
    firstReplyIn? (past ++ [moment]) id =
      (firstReplyIn? past id).or (AdapterMoment.delivery? id moment) := by
  rw [firstReplyIn?_append]
  cases h : AdapterMoment.delivery? id moment <;> simp [firstReplyIn?, h]

/-- Only what the session undergoes brings responses. -/
theorem firstReplyIn?_of_silent (h : ∀ id, AdapterMoment.delivery? id moment = none) :
    firstReplyIn? (past ++ [moment]) = firstReplyIn? past := by
  ext id : 1
  rw [firstReplyIn?_concat, h, Option.or_none]

theorem replyOf_put (hi : course.task? i = some task)
    (standing : Standing AdapterTask (Option AdapterReply)) :
    replyOf (course.put i shared standing) =
      Function.update course.replyOf i (standing.point?.bind AdapterTask.reply?) := by
  ext j : 1
  by_cases hj : j = i
  · subst hj
    rw [Function.update_self, replyOf, Crowd.task?_put_self hi]
  · rw [Function.update_of_ne hj, replyOf, Crowd.task?_put_of_ne (Ne.symm hj)]
    rfl

/-- The table of requests, everyone's request and the first responses fit together. -/
def TableKept (past : List AdapterMoment) (course : AdapterCourse) : Prop :=
  Kept course.shared.session.pending course.shared.session.nextId course.replyOf
    (firstReplyIn? past)

/-- A step of an operation, or its end. -/
theorem TableKept.put (h : TableKept past course) (hi : course.task? i = some task)
    {standing : Standing AdapterTask (Option AdapterReply)}
    (hsilent : ∀ id, AdapterMoment.delivery? id moment = none)
    (hmoves : DeskMoves (course.shared.session.desk task.reply?)
      (shared.session.desk (standing.point?.bind AdapterTask.reply?))) :
    TableKept (past ++ [moment]) (course.put i shared standing) := by
  have hown : course.replyOf i = task.reply? := by rw [replyOf, hi]; rfl
  have hkept : Kept course.shared.session.pending course.shared.session.nextId
      (Function.update course.replyOf i task.reply?) (firstReplyIn? past) := by
    rw [← hown, Function.update_eq_self]
    exact h
  rw [TableKept, firstReplyIn?_of_silent hsilent, replyOf_put hi]
  exact Kept.desk hmoves hkept

theorem TableKept.next (h : TableKept past course) (event : AdapterCourseEvent) :
    TableKept (past ++ [(course, event)]) (adapterRules.next course event) := by
  have hmoves := adapterRules.next_moves course event
  generalize adapterRules.next course event = course' at hmoves
  have hsame {course' : AdapterCourse}
      (hsilent : ∀ id, AdapterMoment.delivery? id (course, event) = none)
      (hsession : course'.shared.session = course.shared.session)
      (hreplies : course'.replyOf = course.replyOf) :
      TableKept (past ++ [(course, event)]) course' := by
    rw [TableKept, firstReplyIn?_of_silent hsilent, hsession, hreplies]
    exact h
  cases hmoves with
  | blocks | misses | waits => exact hsame (fun _ => rfl) rfl rfl
  | begins call =>
    refine hsame (fun _ => rfl) rfl ?_
    ext j : 1
    by_cases hj : j = course.tasks.length
    · rw [hj, replyOf, Crowd.task?_concat_self, replyOf, Crowd.task?_length]
      cases call <;> rfl
    · rw [replyOf, Crowd.task?_concat_of_ne hj]
      rfl
  | moves i files task task' shared stands step =>
    have hdesk := task.desk_step course.now files course.shared
    rw [show task.step course.now files course.shared = (shared, .moved task') from step] at hdesk
    exact h.put stands (fun _ => rfl) (hdesk (by rintro ⟨⟩))
  | finishes i files task result shared stands step =>
    have hdesk := task.desk_step course.now files course.shared
    rw [show task.step course.now files course.shared = (shared, .finished result) from step]
      at hdesk
    exact h.put stands (fun _ => rfl) (hdesk (by rintro ⟨⟩))
  | givesUp i task stands => exact h.put stands (fun _ => rfl) (task.desk_cancel course.shared)
  | occurs event =>
    cases event with
    | invalidates => exact hsame (fun _ => rfl) rfl rfl
    | happens event =>
      have hnobody : course.replyOf course.tasks.length = none := by
        rw [replyOf, Crowd.task?_length]
        rfl
      have hfirst : firstReplyIn? (past ++ [(course, .occur (.happens event))]) =
          fun id => (firstReplyIn? past id).or (course.shared.session.brings? event id) := by
        ext id : 1
        exact firstReplyIn?_concat past _ id
      rw [TableKept, hfirst]
      exact Kept.undergo h hnobody course.now event

theorem kept_start (ecosystem : Ecosystem) (root : Path) (server : ServerConfig)
    (session : SessionSettings) (settings : AdapterSettings) :
    TableKept [] (start ecosystem root server session settings) where
  distinct := ⟨List.nodup_nil, List.nodup_nil⟩
  entry_lt := by rintro id channel ⟨⟩
  reply_lt := by rintro i reply ⟨⟩
  ids := by rintro i j reply reply' ⟨⟩
  channels := by rintro i j reply reply' ⟨⟩
  owned := by rintro id channel ⟨⟩
  inFlight := by rintro i reply ⟨⟩
  fresh := fun _ _ => rfl

end AdapterCourse

/-! ### Requests and their questions -/

section Requests

variable {now : Instant} {s m : Session}

/-- A request that goes on is the one that is in flight, or a new one with the next id. -/
theorem CallPoint.reply_step {call call' : CallPoint}
    (h : (call.step now s).2 = .moved call') :
    ∃ reply, call'.reply? = some reply ∧
      (call.reply? = some reply ∨ call.reply? = none ∧ reply.id = s.nextId) := by
  cases call with
  | starting call timeout =>
    simp only [step] at h
    split at h
    · cases h
    · split at h
      · cases h
        exact ⟨_, rfl, .inr ⟨rfl, rfl⟩⟩
      · cases h
      · cases h
        exact ⟨_, rfl, .inr ⟨rfl, rfl⟩⟩
      · cases h
  | sending reply send =>
    simp only [step] at h
    split at h
    · cases h
      exact ⟨reply, rfl, .inl rfl⟩
    · cases h
    · cases h
      exact ⟨reply, rfl, .inl rfl⟩
    · cases h
  | waiting reply link =>
    simp only [step] at h
    split at h
    · cases h
    · cases h

/-- Only a request that has been sent ends well. -/
theorem CallPoint.send?_of_ok {call : CallPoint} {value : Json}
    (h : (call.step now s).2 = .finished (.ok value)) : call.send? = none := by
  cases call with
  | starting | waiting => rfl
  | sending reply send =>
    simp only [step] at h
    split at h
    · cases h
    · cases h
    · cases h
    · cases h

namespace QueryPoint

variable {point point' : QueryPoint} {spoken spoken' : LinkId → List Outgoing} {answer : Answer}

theorem reply_step (h : (point.step now s).2 = .moved point') :
    ∃ reply, point'.reply? = some reply ∧
      (point.reply? = some reply ∨ point.reply? = none ∧ reply.id = s.nextId) := by
  have hafter (query : Query) (call : CallPoint)
      (h : (afterCall query (call.step now s)).2 = .moved point') :
      ∃ reply, point'.reply? = some reply ∧
        (call.reply? = some reply ∨ call.reply? = none ∧ reply.id = s.nextId) := by
    cases hcall : call.step now s with
    | mk m progress =>
      rw [hcall] at h
      cases progress with
      | blocked => cases h
      | moved call' =>
        cases h
        exact CallPoint.reply_step (congrArg Prod.snd hcall)
      | finished result =>
        simp only [afterCall, finish] at h
        split at h
        · cases h
        · cases h
  cases point with
  | starting query =>
    simp only [step] at h
    split at h
    · exact hafter query _ h
    · cases h
  | calling query call => exact hafter query call h

theorem send?_of_ok (h : (point.step now s).2 = .finished (.ok answer)) : point.send? = none := by
  cases point with
  | starting query => rfl
  | calling query call =>
    obtain ⟨value, hvalue, hanswer⟩ := finished_afterCall h
    cases value with
    | error reason => cases hanswer
    | ok value => exact CallPoint.send?_of_ok hvalue

/-- The request that a question has in flight is the question. It has been said, or it waits for room
    in an outbox. -/
structure Carries (spoken : LinkId → List Outgoing) (point : QueryPoint) : Prop where
  said : ∀ reply, point.reply? = some reply → point.send? = none →
    ∃ k, .request reply.id (.query point.query) ∈ spoken k
  waits : ∀ reply send, point.reply? = some reply → point.send? = some send →
    send.item = .request reply.id (.query point.query)
  coming : ∀ call, point.call? = some call → call = .query point.query

theorem carries_starting (query : Query) : (starting query).Carries spoken where
  said := by rintro reply ⟨⟩
  waits := by rintro reply send ⟨⟩
  coming := by rintro call ⟨⟩; rfl

theorem Carries.mono (h : point.Carries spoken) (hle : ∀ k, spoken k <+: spoken' k) :
    point.Carries spoken' where
  said := by
    intro reply hreply hfree
    obtain ⟨k, hmem⟩ := h.said reply hreply hfree
    exact ⟨k, (hle k).subset hmem⟩
  waits := h.waits
  coming := h.coming

/-- A question that goes on carries on. -/
theorem Carries.step (h : point.Carries spoken) (hstep : point.step now s = (m, .moved point')) :
    point'.Carries fun k => spoken k ++ s.said m k := by
  have hmoved : (point.step now s).2 = .moved point' := congrArg Prod.snd hstep
  have hquery : point'.query = point.query := point.query_step now s hmoved
  obtain ⟨reply, hreply, hbefore⟩ := reply_step hmoved
  have hmails : Mails
      (fun _ item => item = .request reply.id (.query point.query))
      (s.post point.send?) send? (point.step now s) := by
    refine point.mails_step now s (fun call k hcall _ => ?_) fun send hsend => ?_
    · rcases hbefore with hsame | ⟨-, hid⟩
      · cases point with
        | starting query => cases hsame
        | calling query found =>
          cases found with
          | starting => cases hsame
          | sending | waiting => cases hcall
      · rw [hid, h.coming call hcall]
    · rcases hbefore with hsame | ⟨hnone, -⟩
      · exact h.waits reply send hsame hsend
      · cases point with
        | starting query => cases hsend
        | calling query found =>
          cases found with
          | starting | waiting => cases hsend
          | sending => cases hnone
  have hcall := point.call?_step now s
  rw [hstep] at hmails hcall
  refine ⟨fun other hother hfree => ?_, fun other send hother hsend => ?_, fun call hsome => ?_⟩
  · obtain rfl := Option.some.inj (hreply.symm.trans hother)
    cases hmails with
    | puts m point' k item hmay moves puts free =>
      refine ⟨k, List.mem_append_right _ ?_⟩
      have hsaid : s.said m k = if k = k then [item] else [] := puts.saidInLine_eq k
      rw [hsaid, if_pos rfl, hmay, hquery]
      exact List.mem_singleton_self _
    | waits m point' send hmay moves still send_eq =>
      rw [send_eq] at hfree
      cases hfree
  · obtain rfl := Option.some.inj (hreply.symm.trans hother)
    cases hmails with
    | puts m point' k item hmay moves puts free =>
      rw [free] at hsend
      cases hsend
    | waits m point' found hmay moves still send_eq =>
      obtain rfl := Option.some.inj (send_eq.symm.trans hsend)
      rw [hquery]
      exact hmay
  · rw [show point'.call? = none from hcall] at hsome
    cases hsome

end QueryPoint

end Requests

/-! ### Answers of servers -/

/-- At a moment, a question to the adapter makes a request to its server, with the next id. -/
def AdapterMoment.Registers (moment : AdapterMoment) (i id : Nat) (query : Query) : Prop :=
  id = moment.1.shared.session.nextId ∧ ∃ task point call reply,
    adapterRules.step? moment = some (i, task, .moved (.inquiry point)) ∧
      point.call? = some call ∧ call.query = query ∧ call.reply? = some reply ∧ reply.id = id

namespace AdapterCourse

/-- A question to an adapter has made a request to a server, and the first response to it that has
    come since, while the request was in the table, is the answer. -/
inductive Heard (past : List AdapterMoment) (i : Nat) (query : Query) (answer : Answer) : Prop where
  | hears (before later : List AdapterMoment) (moment : AdapterMoment) (id : Nat) (k : LinkId)
      (value : Json) (past_eq : past = before ++ moment :: later)
      (registers : moment.Registers i id query)
      (said : .request id (.query query) ∈ spokenIn past k)
      (first : firstReplyIn? later id = some (.ok value))
      (decodes : query.decodeAnswer? value = some answer) : Heard past i query answer

/-- The request that a question has in flight is the question, and is the one that it has made. -/
structure Pursued (past : List AdapterMoment) (i : Nat) (call : QueryPoint) : Prop where
  carries : call.Carries (spokenIn past)
  registered : ∀ reply, call.reply? = some reply → ∃ before moment later,
    past = before ++ moment :: later ∧ moment.Registers i reply.id call.query ∧
      firstReplyIn? past reply.id = firstReplyIn? later reply.id

variable {past : List AdapterMoment} {course : AdapterCourse} {event : AdapterCourseEvent}
  {moment : AdapterMoment} {i : Nat} {call call' : QueryPoint} {query : Query} {answer : Answer}
  {listeners : List (String × Broadcast Json)} {m : Session}

theorem prefix_spokenIn_append (past later : List AdapterMoment) (k : LinkId) :
    spokenIn past k <+: spokenIn (past ++ later) k := by
  rw [spokenIn, spokenIn, List.flatMap_append]
  exact List.prefix_append _ _

/-- What was heard stays heard. -/
theorem Heard.append (h : Heard past i query answer) (more : List AdapterMoment) :
    Heard (past ++ more) i query answer := by
  obtain ⟨before, later, moment, id, k, value, rfl, registers, said, first, decodes⟩ := h
  refine .hears before (later ++ more) moment id k value ?_ registers ?_ ?_ decodes
  · simp
  · exact (prefix_spokenIn_append _ more k).subset said
  · rw [firstReplyIn?_append, first]
    rfl

theorem pursued_starting (past : List AdapterMoment) (i : Nat) (query : Query) :
    Pursued past i (.starting query) where
  carries := QueryPoint.carries_starting query
  registered := by rintro reply ⟨⟩

/-- Whatever else happens, a question is pursued. -/
theorem Pursued.concat (h : Pursued past i call) (moment : AdapterMoment) :
    Pursued (past ++ [moment]) i call where
  carries := h.carries.mono fun k => prefix_spokenIn_append past [moment] k
  registered := by
    intro reply hreply
    obtain ⟨before, registering, later, rfl, registers, first⟩ := h.registered reply hreply
    refine ⟨before, registering, later ++ [moment], by simp, registers, ?_⟩
    rw [firstReplyIn?_concat, first, firstReplyIn?_concat]

/-- A question that goes on is pursued. -/
theorem Pursued.step (h : Pursued past i call) (hkept : TableKept past course)
    {point : InquiryPoint} {task : AdapterTask}
    (hstep? : adapterRules.step? (course, event) = some (i, task, .moved (.inquiry point)))
    (hcall : point.call? = some call')
    (hstep : call.step course.now (course.shared.withListeners listeners).session =
      (m, .moved call'))
    (hnext : (adapterRules.next course event).shared.session = m) :
    Pursued (past ++ [(course, event)]) i call' := by
  have hmoved : (call.step course.now (course.shared.withListeners listeners).session).2 =
      .moved call' := congrArg Prod.snd hstep
  have hquery : call'.query = call.query := call.query_step _ _ hmoved
  refine ⟨?_, fun reply hreply => ?_⟩
  · refine (h.carries.step hstep).mono fun k => ?_
    have hsaid : spokenIn (past ++ [(course, event)]) k =
        spokenIn past k ++ course.shared.session.said m k := by
      rw [spokenIn, List.flatMap_append, List.flatMap_singleton, AdapterMoment.said, hnext]
      rfl
    rw [hsaid]
    exact List.prefix_refl _
  · obtain ⟨found, hfound, hbefore⟩ := QueryPoint.reply_step hmoved
    obtain rfl := Option.some.inj (hfound.symm.trans hreply)
    rcases hbefore with hsame | ⟨-, hid⟩
    · rw [hquery]
      exact (h.concat (course, event)).registered found hsame
    · -- The id is new, so nothing has come for it yet.
      obtain ⟨input, rfl, -⟩ := adapterRules.step?_eq_some hstep?
      have hid : found.id = course.shared.session.nextId := hid
      have hnone : firstReplyIn? past found.id = none := hkept.fresh _ (Nat.le_of_eq hid.symm)
      refine ⟨past, (course, .step i input), [], rfl, ⟨hid, task, point, call', found, hstep?, hcall,
        rfl, hreply, rfl⟩, ?_⟩
      rw [firstReplyIn?_concat, hnone]
      rfl

/-- A question that is answered is answered by a server. -/
theorem Pursued.heard (h : Pursued past i call) (hkept : TableKept past course)
    (hi : course.replyOf i = call.reply?)
    (hstep : (call.step course.now (course.shared.withListeners listeners).session).2 =
      .finished (.ok answer)) : Heard past i call.query answer := by
  rcases QueryPoint.finished_cases hstep with ⟨reply, pending, value, hreply, hwait, hvalue⟩ | hearly
  · have hinFlight := hkept.inFlight i reply (hi.trans hreply)
    have hcases := hinFlight.wait_cases hkept.distinct hwait
    obtain ⟨json, rfl, hdecodes⟩ : ∃ json, value = .ok json ∧
        call.query.decodeAnswer? json = some answer := by
      cases value with
      | error reason => cases hvalue
      | ok json =>
        refine ⟨json, rfl, ?_⟩
        have hanswer : Except.ok answer = QueryPoint.answerOf call.query json := hvalue
        unfold QueryPoint.answerOf at hanswer
        split at hanswer
        next found hfound =>
          cases hanswer
          exact hfound
        next => cases hanswer
    have hfirst : firstReplyIn? past reply.id = some (.ok json) := by
      rcases hcases with ⟨-, -, ⟨outcome, hfirst, hresult⟩ | hexit⟩ | ⟨-, hlate⟩
      · cases outcome with
        | ok found =>
          obtain rfl : json = found := Except.ok.inj hresult
          exact hfirst
        | error reason => cases hresult
      · cases hexit
      · cases hlate
    obtain ⟨before, moment, later, hpast, registers, first⟩ := h.registered reply hreply
    obtain ⟨k, hsaid⟩ := h.carries.said reply hreply (QueryPoint.send?_of_ok hstep)
    exact .hears before later moment reply.id k json hpast registers hsaid (first ▸ hfirst) hdecodes
  · rcases hearly with hexit | hnotReady
    · cases hexit
    · cases hnotReady

end AdapterCourse
end SymbolSearch
