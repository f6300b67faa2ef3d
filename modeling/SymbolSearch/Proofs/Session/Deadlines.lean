import SymbolSearch.Proofs.Session.Backpressure
import SymbolSearch.Proofs.Session.Correlation
import SymbolSearch.Proofs.Session.Overtaking
import SymbolSearch.Proofs.Session.Restarts

/-!
# Deadlines

A request has its deadline from the moment at which it enters the table, but only one that has been
sent looks at the time. This file says which requests outlive their deadlines.

* `SessionCourse.AtRest` — nobody can go on before the time does, or before a server does something.
* `SessionCourse.AtRest.stuck` — whoever waits for room at rest waits for a writer that the server
  keeps waiting, behind as many items as there is room for.
* `EnsurePoint.Timed` — a handshake ends before the deadline of its request.
* `SessionCourse.punctual_of_atRest` — at rest, no deadline in the table is over exactly if no
  request waits for room beyond its own; `SessionCourse.not_forall_onTime` is about a server that lets
  one wait.
-/

namespace SymbolSearch

/-- Whether an operation has to wait where it is. -/
def Progress.isBlocked {π ρ : Type} : Progress π ρ → Bool
  | .blocked => true
  | _ => false

theorem Progress.isBlocked_iff {π ρ : Type} {progress : Progress π ρ} :
    progress.isBlocked = true ↔ progress = .blocked := by
  cases progress <;> simp [isBlocked]

/-- A server keeps the writer of a link waiting, and there is no room behind it. -/
structure Mailbox.Stuck (mailbox : Mailbox) : Prop where
  isOpen : mailbox.outbox.isOpen = true
  full : Outbox.capacity ≤ mailbox.outbox.items.length
  granted : mailbox.outbox.granted = []
  writing : ∃ rest, mailbox.writer = .writing rest

/-- Where the request of an operation stands. -/
def SessionTask.callAt? : SessionTask → Option CallPoint
  | .ensure (.greeting _ call _) | .ask (.calling _ call) | .stop (.farewell _ call) => some call
  | _ => none

theorem SessionTask.reply?_eq (task : SessionTask) :
    task.reply? = task.callAt?.bind CallPoint.reply? := by
  cases task with
  | ensure point | ask point | stop point => cases point <;> rfl
  | notify | reset | checkAlive => rfl

variable {now : Instant} {s : Session} {send : SendPoint}

/-! ### Who has to wait -/

/-- Whoever has to wait with an item has not been given room, at a link that is open. -/
theorem SendPoint.waits_of_blocked (h : (send.step s).2 = .blocked) :
    (s.mailbox send.link).outbox.isOpen = true ∧
      send.ticket ∉ (s.mailbox send.link).outbox.granted := by
  unfold SendPoint.step at h
  split at h
  next => cases h
  next found hlink =>
    rw [Session.mailbox_eq hlink]
    unfold Outbox.claim at h
    split at h
    next sent hclaim =>
      split at hclaim
      · cases h
      · split at hclaim <;> cases h
    next refused hclaim => cases h
    next waits hclaim =>
      split at hclaim
      · cases hclaim
      next hopen =>
        split at hclaim
        · cases hclaim
        next hgranted =>
          have hopen' : found.outbox.isOpen = true := by simpa using hopen
          exact ⟨hopen', fun hmem => hgranted (List.contains_iff_mem.mpr hmem)⟩

theorem PendingReply.lt_deadline_of_wait {reply : PendingReply} {pending pending' : Pending}
    (h : reply.wait? now pending = (pending', none)) : now < reply.deadline := by
  unfold wait? at h
  split at h
  · cases h
  · split at h
    · split at h <;> cases h
    next hearly => exact Nat.lt_of_not_le hearly

/-- A request that has to wait does so for room, or for its reply before its deadline. -/
theorem CallPoint.blocked_cases {call : CallPoint} (h : (call.step now s).2 = .blocked) :
    (∃ reply send, call = .sending reply send ∧ (send.step s).2 = .blocked) ∨
      ∃ reply link, call = .waiting reply link ∧ now < reply.deadline := by
  cases call with
  | starting call timeout =>
    unfold step at h
    dsimp only at h
    split at h
    · cases h
    · split at h
      · cases h
      · cases h
      · cases h
      next hbegin => exact absurd (congrArg Prod.snd hbegin) (SendPoint.begin_ne_blocked _ _ _)
  | sending reply send =>
    unfold step at h
    dsimp only at h
    split at h
    · cases h
    · cases h
    · cases h
    next hsend => exact .inl ⟨reply, send, rfl, congrArg Prod.snd hsend⟩
  | waiting reply link =>
    unfold step at h
    dsimp only at h
    split at h
    · cases h
    next hwait => exact .inr ⟨reply, link, rfl, PendingReply.lt_deadline_of_wait hwait⟩

namespace StopPoint

variable {ticket : Ticket}

theorem finishOutbox_ne_blocked (now : Instant) (ticket : Ticket) (s : Session) :
    (finishOutbox now ticket s).2 ≠ .blocked := by
  have hclose (m : Session) : (close now ticket m).2 ≠ .blocked := by
    unfold close
    split
    · rintro ⟨⟩
    · dsimp only
      split <;> rintro ⟨⟩
  unfold finishOutbox
  split
  · exact hclose s
  · split
    · rintro ⟨⟩
    · exact hclose _

theorem blocked_of_afterFarewell {stepped : Stepped Session CallPoint (Except SessionError Json)}
    (h : (afterFarewell now ticket stepped).2 = .blocked) : stepped.2 = .blocked := by
  obtain ⟨m, progress⟩ := stepped
  cases progress with
  | blocked => rfl
  | moved call => cases h
  | finished result =>
    simp only [afterFarewell, sendExit] at h
    split at h
    · exact absurd h (finishOutbox_ne_blocked now ticket _)
    · split at h
      · cases h
      · exact absurd h (finishOutbox_ne_blocked now ticket _)

theorem blocked_of_send {point : StopPoint} (hsend : point.send? = some send)
    (hcall : (SessionTask.stop point).callAt? = none) (h : (point.step now s).2 = .blocked) :
    (send.step s).2 = .blocked := by
  cases point with
  | exiting ticket waiting =>
    obtain rfl := Option.some.inj hsend
    simp only [step] at h
    split at h
    · cases h
    · exact absurd h (finishOutbox_ne_blocked now ticket _)
    next hstep => exact congrArg Prod.snd hstep
  | finishing ticket waiting =>
    obtain rfl := Option.some.inj hsend
    simp only [step, close] at h
    split at h
    · cases h
    · split at h
      · cases h
      · split at h <;> cases h
    next hstep => exact congrArg Prod.snd hstep
  | farewell ticket call => cases hcall
  | asking | queued | parting | reaping | killing | draining => cases hsend

end StopPoint

namespace EnsurePoint

/-- A handshake that has to wait has not come to its deadline, and its request has to wait. -/
theorem blocked_greeting {ticket : Ticket} {call : CallPoint} {deadline : Instant}
    (h : ((greeting ticket call deadline).step now s).2 = .blocked) :
    (call.step now s).2 = .blocked ∧ now < deadline := by
  simp only [step] at h
  split at h
  next hcall =>
    split at h
    · cases h
    next hearly => exact ⟨congrArg Prod.snd hcall, Nat.lt_of_not_le hearly⟩
  next hne =>
    -- A request that goes on or ends takes the handshake with it.
    exfalso
    generalize call.step now s = stepped at h hne
    obtain ⟨m, progress⟩ := stepped
    cases progress with
    | blocked => exact hne m rfl
    | moved call => cases h
    | finished result =>
      cases result with
      | error error => cases error <;> cases h
      | ok answer =>
        simp only [afterCall, confirm] at h
        split at h
        · cases h
        · split at h
          · cases h
          · split at h <;> cases h

theorem blocked_confirming {ticket : Ticket} {deadline : Instant}
    {capabilities : ServerCapabilities}
    (h : ((confirming ticket send deadline capabilities).step now s).2 = .blocked) :
    (send.step s).2 = .blocked := by
  simp only [step] at h
  split at h
  · cases h
  · cases h
  · cases h
  next hstep => exact congrArg Prod.snd hstep

end EnsurePoint

namespace SessionTask

variable {task : SessionTask} {call : CallPoint}

theorem send?_of_callAt (task : SessionTask) (h : task.callAt? = some call) :
    task.send? = call.send? := by
  cases task with
  | ensure point | ask point | stop point =>
    cases point <;> cases h
    rfl
  | notify | reset | checkAlive => cases h

theorem blocked_call (h : (task.step now s).2 = .blocked) (hcall : task.callAt? = some call) :
    (call.step now s).2 = .blocked := by
  cases task with
  | ensure point =>
    have hpoint : (point.step now s).2 = .blocked := Progress.eq_blocked_of_map h
    cases point with
    | greeting ticket found deadline =>
      obtain rfl := Option.some.inj hcall
      exact (EnsurePoint.blocked_greeting hpoint).1
    | asking | queued | cooling | launching | linked | confirming => cases hcall
  | ask point =>
    have hpoint : (point.step now s).2 = .blocked := Progress.eq_blocked_of_map h
    cases point with
    | starting query => cases hcall
    | calling query found =>
      obtain rfl := Option.some.inj hcall
      simp only [QueryPoint.step] at hpoint
      generalize found.step now s = stepped at hpoint ⊢
      obtain ⟨m, progress⟩ := stepped
      cases progress with
      | blocked => rfl
      | moved next => cases hpoint
      | finished result =>
        simp only [QueryPoint.afterCall, QueryPoint.finish] at hpoint
        split at hpoint <;> cases hpoint
  | stop point =>
    have hpoint : (point.step now s).2 = .blocked := Progress.eq_blocked_of_map h
    cases point with
    | farewell ticket found =>
      obtain rfl := Option.some.inj hcall
      exact StopPoint.blocked_of_afterFarewell hpoint
    | asking | queued | parting | exiting | finishing | reaping | killing | draining =>
      cases hcall
  | notify | reset | checkAlive => cases hcall

theorem blocked_send (h : (task.step now s).2 = .blocked) (hsend : task.send? = some send) :
    (send.step s).2 = .blocked := by
  have hcalls (call : CallPoint) (hcall : task.callAt? = some call) :
      (send.step s).2 = .blocked := by
    have hsame := (task.send?_of_callAt hcall).symm.trans hsend
    rcases CallPoint.blocked_cases (blocked_call h hcall) with ⟨reply, found, rfl, hblocked⟩ |
      ⟨reply, link, rfl, -⟩
    · obtain rfl := Option.some.inj hsame
      exact hblocked
    · cases hsame
  cases task with
  | ensure point =>
    have hpoint : (point.step now s).2 = .blocked := Progress.eq_blocked_of_map h
    cases point with
    | greeting ticket call deadline => exact hcalls call rfl
    | confirming ticket found deadline capabilities =>
      obtain rfl := Option.some.inj hsend
      exact EnsurePoint.blocked_confirming hpoint
    | asking | queued | cooling | launching | linked => cases hsend
  | ask point =>
    cases point with
    | starting query => cases hsend
    | calling query call => exact hcalls call rfl
  | notify point =>
    have hpoint : (point.step s).2 = .blocked := Progress.eq_blocked_of_map h
    cases point with
    | starting notice => cases hsend
    | sending found =>
      obtain rfl := Option.some.inj hsend
      simp only [NoticePoint.step] at hpoint
      split at hpoint
      · cases hpoint
      · cases hpoint
      next hstep => exact congrArg Prod.snd hstep
  | stop point =>
    have hpoint : (point.step now s).2 = .blocked := Progress.eq_blocked_of_map h
    cases hcall : (SessionTask.stop point).callAt? with
    | none => exact StopPoint.blocked_of_send hsend hcall hpoint
    | some call => exact hcalls call hcall
  | reset | checkAlive => cases hsend

end SessionTask

/-! ### The deadline of a handshake -/

/-- The deadline of a request counts from the moment at which it is registered. -/
theorem CallPoint.reply_of_moved {call call' : CallPoint}
    (h : (call.step now s).2 = .moved call') :
    ∃ reply, call'.reply? = some reply ∧ (call.reply? = some reply ∨
      ∃ asked timeout, call = .starting asked timeout ∧ reply.deadline = now + timeout) := by
  cases call with
  | starting asked timeout =>
    unfold step at h
    dsimp only at h
    split at h
    · cases h
    · split at h
      · obtain rfl := Progress.moved.inj h
        exact ⟨_, rfl, .inr ⟨asked, timeout, rfl, rfl⟩⟩
      · cases h
      · obtain rfl := Progress.moved.inj h
        exact ⟨_, rfl, .inr ⟨asked, timeout, rfl, rfl⟩⟩
      · cases h
  | sending found send =>
    refine ⟨found, ?_, .inl rfl⟩
    unfold step at h
    dsimp only at h
    split at h
    · obtain rfl := Progress.moved.inj h
      rfl
    · cases h
    · obtain rfl := Progress.moved.inj h
      rfl
    · cases h
  | waiting found link =>
    unfold step at h
    dsimp only at h
    split at h <;> cases h

namespace EnsurePoint

/-- A handshake ends before the deadline of its request. -/
def Timed (now : Instant) (timeout : Duration) : EnsurePoint → Prop
  | .linked _ deadline => deadline ≤ now + timeout
  | .greeting _ call deadline => ∃ reply, call.reply? = some reply ∧ deadline ≤ reply.deadline
  | _ => True

variable {point point' : EnsurePoint} {timeout : Duration} {ticket : Ticket} {deadline : Instant}

theorem Timed.mono {later : Instant} (h : point.Timed now timeout) (hle : now ≤ later) :
    point.Timed later timeout := by
  cases point with
  | linked ticket deadline => exact Nat.le_trans h (Nat.add_le_add_right hle timeout)
  | greeting ticket call deadline => exact h
  | asking | queued | cooling | launching | confirming => trivial

/-- A handshake goes on with its request, or with its last message. -/
theorem timed_afterCall {stepped : Stepped Session CallPoint (Except SessionError Json)}
    (hcall : ∀ call, stepped.2 = .moved call →
      ∃ reply, call.reply? = some reply ∧ deadline ≤ reply.deadline)
    (h : (afterCall now ticket deadline stepped).2 = .moved point') : point'.Timed now timeout := by
  obtain ⟨m, progress⟩ := stepped
  cases progress with
  | blocked => cases h
  | moved call =>
    obtain rfl := Progress.moved.inj h
    exact hcall call rfl
  | finished result =>
    cases result with
    | error error => cases error <;> cases h
    | ok answer =>
      simp only [afterCall, confirm] at h
      split at h
      · cases h
      · split at h
        · cases h
        · split at h
          · cases h
          · obtain rfl := Progress.moved.inj h
            trivial
          · cases h

theorem timed_step (h : point.Timed now s.settings.handshakeTimeout)
    (hstep : (point.step now s).2 = .moved point') :
    point'.Timed now s.settings.handshakeTimeout := by
  cases point with
  | asking =>
    obtain rfl := Progress.moved.inj hstep
    trivial
  | queued ticket =>
    simp only [step] at hstep
    split at hstep
    · -- Nothing comes before the launch but a cooldown.
      unfold decide at hstep
      split at hstep
      all_goals first | cases hstep | skip
      · trivial
      · split at hstep
        · cases hstep
        · dsimp only at hstep
          split at hstep <;> (obtain rfl := Progress.moved.inj hstep; trivial)
    · cases hstep
  | cooling resume =>
    simp only [step] at hstep
    split at hstep
    · obtain rfl := Progress.moved.inj hstep
      trivial
    · cases hstep
  | launching ticket =>
    simp only [step] at hstep
    split at hstep
    · obtain rfl := Progress.moved.inj hstep
      exact Nat.le_refl _
    · cases hstep
    · cases hstep
  | linked ticket deadline =>
    simp only [step, greet] at hstep
    split at hstep
    · cases hstep
    · refine timed_afterCall (fun call hcall => ?_) hstep
      obtain ⟨reply, hreply, hbefore | ⟨asked, timeout, hstart, hdeadline⟩⟩ :=
        CallPoint.reply_of_moved hcall
      · cases hbefore
      · obtain ⟨-, rfl⟩ := CallPoint.starting.inj hstart
        refine ⟨reply, hreply, ?_⟩
        rw [hdeadline]
        exact h
  | greeting ticket call deadline =>
    simp only [step] at hstep
    split at hstep
    · split at hstep <;> cases hstep
    · obtain ⟨found, hfound, hle⟩ := h
      refine timed_afterCall (fun call' hcall => ?_) hstep
      obtain ⟨reply, hreply, hbefore | ⟨asked, timeout, rfl, -⟩⟩ := CallPoint.reply_of_moved hcall
      · obtain rfl := Option.some.inj (hfound.symm.trans hbefore)
        exact ⟨found, hreply, hle⟩
      · cases hfound
  | confirming ticket send deadline capabilities =>
    simp only [step] at hstep
    split at hstep
    · obtain rfl := Progress.moved.inj hstep
      trivial
    · cases hstep
    · cases hstep
    · split at hstep <;> cases hstep

end EnsurePoint

/-! ### Courses at rest -/

namespace SessionCourse

/-- Nobody can go on before the time does, or before a server does something. -/
structure AtRest (course : SessionCourse) : Prop where
  tasks : ∀ i task, course.task? i = some task →
    (task.step course.now course.shared).2 = .blocked
  readers : ∀ k, (course.shared.stepReader k course.now).2 = false
  writers : ∀ k, (course.shared.stepWriter k).2 = false

/-- The request of an operation waits for room in an outbox that is full, behind a writer that the
    server keeps waiting. -/
def Starves (course : SessionCourse) (i : Nat) (reply : PendingReply) : Prop :=
  ∃ task send, course.task? i = some task ∧ task.callAt? = some (.sending reply send) ∧
    (∀ point, task ≠ .ensure point) ∧ (course.shared.mailbox send.link).Stuck

/-- Every request in the table is that of someone who waits for it, and its deadline is not over. -/
def OnTime (course : SessionCourse) : Prop :=
  ∀ id, course.shared.pending.Has id →
    ∃ i reply, course.replyOf i = some reply ∧ reply.id = id ∧ course.now ≤ reply.deadline

/-- Only requests that wait for room are late. -/
structure Punctual (course : SessionCourse) : Prop where
  late : ∀ i reply, course.replyOf i = some reply → reply.deadline < course.now →
    course.Starves i reply
  onTime_iff : course.OnTime ↔ ∀ i reply, course.Starves i reply →
    course.shared.pending.Has reply.id → course.now ≤ reply.deadline

variable {course : SessionCourse} {i : Nat} {task : SessionTask}

instance (course : SessionCourse) : Decidable course.AtRest :=
  decidable_of_iff
    ((course.tasks.all fun standing => standing.point?.all fun task =>
        (task.step course.now course.shared).2.isBlocked) = true ∧
      ∀ k < course.shared.links.length, (course.shared.stepReader k course.now).2 = false ∧
        (course.shared.stepWriter k).2 = false) <| by
    constructor
    · rintro ⟨htasks, hlinks⟩
      have hnone (k : LinkId) (hk : ¬k < course.shared.links.length) :
          course.shared.links[k]? = none := List.getElem?_eq_none_iff.mpr (Nat.le_of_not_lt hk)
      refine ⟨fun i task hi => ?_, fun k => ?_, fun k => ?_⟩
      · obtain ⟨standing, hget, hpoint⟩ := Option.bind_eq_some_iff.mp hi
        have hall := List.all_eq_true.mp htasks standing (List.mem_of_getElem? hget)
        rw [hpoint] at hall
        exact Progress.isBlocked_iff.mp hall
      · by_cases hk : k < course.shared.links.length
        · exact (hlinks k hk).1
        · rw [Session.stepReader, hnone k hk]
      · by_cases hk : k < course.shared.links.length
        · exact (hlinks k hk).2
        · rw [Session.stepWriter, hnone k hk]
    · intro hrest
      refine ⟨List.all_eq_true.mpr fun standing hmem => ?_, fun k _ =>
        ⟨hrest.readers k, hrest.writers k⟩⟩
      obtain ⟨i, hget⟩ := List.mem_iff_getElem?.mp hmem
      cases hpoint : standing.point? with
      | none => rfl
      | some task =>
        have hi : course.task? i = some task := Option.bind_eq_some_iff.mpr ⟨standing, hget, hpoint⟩
        exact Progress.isBlocked_iff.mpr (hrest.tasks i task hi)

/-- A reader that cannot go on has not been given room. -/
theorem AtRest.reader_waits (hrest : course.AtRest) {k : LinkId} {ticket : Ticket}
    (hopen : (course.shared.mailbox k).outbox.isOpen = true)
    (hticket : (course.shared.mailbox k).reader.ticket? = some ticket) :
    ticket ∉ (course.shared.mailbox k).outbox.granted := by
  have hstep := hrest.readers k
  unfold Session.stepReader at hstep
  split at hstep
  next hnone =>
    rw [Session.mailbox_of_none hnone] at hopen
    cases hopen
  next link hlink =>
    rw [Session.mailbox_eq hlink] at hticket ⊢
    have hreader : link.reader.ticket? = some ticket := hticket
    split at hstep
    next hdone =>
      rw [hdone] at hreader
      cases hreader
    next reply found hreplying =>
      rw [hreplying] at hreader
      obtain rfl := Option.some.inj hreader
      split at hstep
      next outbox waits hclaim =>
        unfold Outbox.claim at hclaim
        split at hclaim
        · cases hclaim
        · split at hclaim
          · cases hclaim
          next hgranted => exact fun hmem => hgranted (List.contains_iff_mem.mpr hmem)
      next => cases hstep
    next hreading =>
      rw [hreading] at hreader
      cases hreader

/-- A writer that cannot go on has nothing to take, or is kept waiting by the server. -/
theorem AtRest.writer_waits (hrest : course.AtRest) {k : LinkId}
    (hopen : (course.shared.mailbox k).outbox.isOpen = true)
    (hwriter : (course.shared.mailbox k).writer ≠ .done) :
    (course.shared.mailbox k).outbox.items = [] ∨
      ∃ rest, (course.shared.mailbox k).writer = .writing rest := by
  have hstep := hrest.writers k
  unfold Session.stepWriter at hstep
  split at hstep
  next hnone =>
    rw [Session.mailbox_of_none hnone] at hopen
    cases hopen
  next link hlink =>
    rw [Session.mailbox_eq hlink] at hwriter ⊢
    have hstep' : link.stepWriter.2 = false := hstep
    unfold Link.stepWriter Outbox.take at hstep'
    cases hpoint : link.writer with
    | done => exact absurd hpoint hwriter
    | writing rest => exact .inr ⟨rest, hpoint⟩
    | taking =>
      left
      cases hitems : link.outbox.items with
      | nil => exact hitems
      | cons first others =>
        rw [hpoint, hitems] at hstep'
        dsimp only at hstep'
        split at hstep' <;> cases hstep'

/-- Whoever waits for room at rest waits for a writer that the server keeps waiting, behind as many
    items as there is room for. -/
theorem AtRest.stuck (hrest : course.AtRest) (hfair : course.Fair)
    (hi : course.task? i = some task) (hsend : task.send? = some send) :
    (course.shared.mailbox send.link).Stuck := by
  have hblocked := task.blocked_send (hrest.tasks i task hi) hsend
  obtain ⟨hopen, -⟩ := SendPoint.waits_of_blocked hblocked
  obtain ⟨hwriter, hserves⟩ := hfair.open_fair send.link hopen
  have hown : course.sendOf i = some send := (sendOf_eq hi).trans hsend
  -- Whoever has been given room can go on.
  have hgranted : (course.shared.mailbox send.link).outbox.granted = [] := by
    refine List.eq_nil_iff_forall_not_mem.mpr fun ticket hmem => ?_
    obtain ⟨index, hindex⟩ := (hserves.mem_iff ticket).mp (List.mem_append_right _ hmem)
    cases index with
    | none => exact hrest.reader_waits hopen hindex hmem
    | some j =>
      obtain ⟨waiting, hj, hticket⟩ := Option.bind_eq_some_iff.mp hindex
      obtain ⟨other, hother, hwaiting⟩ := Option.bind_eq_some_iff.mp hj
      have hwaits := SendPoint.waits_of_blocked
        (other.blocked_send (hrest.tasks j other hother) hwaiting)
      unfold SendPoint.ticketAt? at hticket
      split at hticket
      next hlink =>
        obtain rfl := Option.some.inj hticket
        rw [← hlink] at hmem
        exact hwaits.2 hmem
      next => cases hticket
  have hfull := hserves.full (Mailbox.ticketOf_some hown) hgranted
  refine ⟨hopen, hfull, hgranted, ?_⟩
  rcases hrest.writer_waits hopen hwriter with hempty | hwriting
  · -- An empty outbox has room.
    have hnone : ((course.shared.post none).box send.link).outbox.items = [] := hempty
    rw [hnone] at hfull
    exact absurd hfull (by decide)
  · exact hwriting

/-- A handshake that was begun goes by the settings of the session. -/
theorem timed_after (settings : SessionSettings) (hello : Except String ClientHello)
    (events : List CourseEvent) {point : EnsurePoint}
    (hi : Crowd.task? (sessionRules.after (start settings hello) events) i = some (.ensure point)) :
    point.Timed (sessionRules.after (start settings hello) events).now
      settings.handshakeTimeout := by
  refine sessionRules.standing_induction
    (fun course => course.shared.settings = settings)
    (fun _ course _ task => ∀ point, task = .ensure point →
      point.Timed course.now settings.handshakeTimeout)
    (fun events => (Counted.after settings hello events).settings)
    (fun _ => rfl) ?_ ?_ ?_ ?_ events hi point rfl
  · rintro past course call hgood hnew point hpoint
    cases call with
    | ensure =>
      obtain rfl := SessionTask.ensure.inj hpoint
      trivial
    | ask | notify | stop | reset | checkAlive => cases hpoint
  · rintro past course j input task task' shared hgood hj hstep hbefore point rfl
    have hmap : (task.step course.now course.shared).2 = .moved (.ensure point) :=
      congrArg Prod.snd hstep
    cases task with
    | ensure found =>
      obtain ⟨point', hmoved, hsame⟩ := Progress.eq_moved_of_map hmap
      obtain rfl : point' = point := SessionTask.ensure.inj hsame
      have htimed := EnsurePoint.timed_step (hgood ▸ hbefore found rfl) hmoved
      rwa [hgood] at htimed
    | ask | notify | stop | reset | checkAlive =>
      obtain ⟨point', hmoved, hsame⟩ := Progress.eq_moved_of_map hmap
      cases hsame
  · rintro past course j input task hj hblocked hbefore
    exact hbefore
  · rintro past course event j task hgood hj hother hbefore point rfl
    have hnow : course.now ≤ (sessionRules.next course event).now := by
      have hmoves := sessionRules.next_moves course event
      generalize sessionRules.next course event = course' at hmoves
      cases hmoves with
      | waits time => exact Nat.le_add_right _ _
      | blocks | misses | begins | moves | finishes | givesUp | occurs => exact Nat.le_refl _
    exact (hbefore point rfl).mono hnow

variable {settings : SessionSettings} {reply : PendingReply}

/-- A request whose deadline is over waits for room, and is not that of a handshake. -/
theorem AtRest.starves (hrest : course.AtRest) (hfair : course.Fair) {timeout : Duration}
    (htimed : ∀ point, course.task? i = some (.ensure point) → point.Timed course.now timeout)
    (hreply : course.replyOf i = some reply) (hlate : reply.deadline < course.now) :
    course.Starves i reply := by
  obtain ⟨task, hi, htask⟩ := Option.bind_eq_some_iff.mp hreply
  rw [SessionTask.reply?_eq] at htask
  obtain ⟨call, hcall, hfound⟩ := Option.bind_eq_some_iff.mp htask
  have hblocked := hrest.tasks i task hi
  rcases CallPoint.blocked_cases (task.blocked_call hblocked hcall) with
    ⟨found, send, rfl, -⟩ | ⟨found, link, rfl, hearly⟩
  · obtain rfl := Option.some.inj hfound
    have hsend : task.send? = some send := task.send?_of_callAt hcall
    refine ⟨task, send, hi, hcall, ?_, hrest.stuck hfair hi hsend⟩
    rintro point rfl
    have hpoint : (point.step course.now course.shared).2 = .blocked :=
      Progress.eq_blocked_of_map hblocked
    cases point with
    | greeting ticket waiting deadline =>
      -- The handshake itself would have come to its end before.
      obtain rfl := Option.some.inj hcall
      obtain ⟨-, hearly⟩ := EnsurePoint.blocked_greeting hpoint
      obtain ⟨registered, hregistered, hle⟩ := htimed _ hi
      obtain rfl := Option.some.inj hregistered
      exact absurd (Nat.lt_of_lt_of_le hearly hle) (Nat.lt_asymm hlate)
    | asking | queued | cooling | launching | linked | confirming => cases hcall
  · obtain rfl := Option.some.inj hfound
    exact absurd hearly (Nat.lt_asymm hlate)

theorem replyOf_of_starves (h : course.Starves i reply) : course.replyOf i = some reply := by
  obtain ⟨task, send, hi, hcall, -, -⟩ := h
  rw [replyOf, hi]
  show task.reply? = some reply
  rw [SessionTask.reply?_eq, hcall]
  rfl

/-- **Deadlines and room.**  Any course of a session, whatever its servers do, whoever calls it and
    whoever gives up. Where nobody can go on before the time does, a request whose deadline is over
    is one that waits for room in the outbox of a link: all places are taken there, no room is left
    unused, and the server keeps the writer waiting; the request of a handshake is never such a one.
    So the deadlines in the table are kept exactly if no request in it waits for room beyond its
    own. -/
theorem punctual_of_atRest (settings : SessionSettings) (hello : Except String ClientHello)
    (events : List CourseEvent) :
    let course : SessionCourse := sessionRules.after (start settings hello) events
    course.AtRest → course.Punctual := by
  intro course hrest
  have hkept := (corresponds_after settings hello events).kept
  have hstarves (i : Nat) (reply : PendingReply) (hi : course.replyOf i = some reply)
      (hlate : reply.deadline < course.now) : course.Starves i reply :=
    hrest.starves (fair_after settings hello events)
      (fun _ hpoint => timed_after settings hello events hpoint) hi hlate
  refine ⟨hstarves, fun hontime i reply hstarved hhas => ?_, ?_⟩
  · obtain ⟨j, other, hj, hid, hle⟩ := hontime reply.id hhas
    have hi := replyOf_of_starves hstarved
    obtain rfl := hkept.ids j i other reply hj hi hid
    obtain rfl : other = reply := Option.some.inj (hj.symm.trans hi)
    exact hle
  · rintro hsent id ⟨channel, hentry⟩
    obtain ⟨i, reply, hi, rfl, -⟩ := hkept.owned id channel hentry
    refine ⟨i, reply, hi, rfl, ?_⟩
    by_contra hlate
    have hstarved := hstarves i reply hi (Nat.lt_of_not_le hlate)
    exact hlate (hsent i reply hstarved ⟨channel, hentry⟩)

/-- A question waits for its reply, and nothing happens until the time goes on. -/
theorem punctual_of_atRest_asking :
    let begun := start {} (.ok ⟨"file:///ws", "ws"⟩)
    let events := answeredGreeting ++ [.begin (.ask (.workspaceSymbols "")), .step 1 ()]
    let course : SessionCourse := sessionRules.after begun events
    course.AtRest ∧ course.shared.pending.Has 2 ∧ course.Punctual := by
  intro begun events course
  have hrest : course.AtRest := by decide +kernel
  have hhas : course.shared.pending.Has 2 := by decide +kernel
  exact ⟨hrest, hhas, punctual_of_atRest {} (.ok ⟨"file:///ws", "ws"⟩) events hrest⟩

/-! ### A server that stops reading -/

/-- The writer takes the confirmation of the handshake, and the server takes nothing any more. The
    outbox is filled, and one question waits for room until its deadline is over. -/
def unreadQuestion : List CourseEvent :=
  [.occur (.write 0)] ++
    (List.range 64).flatMap (fun i => [.begin (.notify (.didClose "")), .step (i + 1) ()]) ++
    [.begin (.ask (.workspaceSymbols "")), .step 65 (), .wait (.ofSecs 11)]

/-- A deadline in the table may be over though nobody can go on. -/
theorem not_forall_onTime :
    ¬∀ (settings : SessionSettings) (hello : Except String ClientHello) (events : List CourseEvent),
      let course : SessionCourse := sessionRules.after (start settings hello) events
      course.AtRest → course.OnTime := by
  intro h
  let begun := start {} (.ok ⟨"file:///ws", "ws"⟩)
  let answered : SessionCourse := sessionRules.after begun answeredGreeting
  let taken : CourseEvent := .occur (.written 0 (heldBytes answered.shared 0))
  let unread : SessionCourse :=
    sessionRules.after { answered with shared := allTaken answered.shared 0 } unreadQuestion
  -- How long the greeting is does not matter: the server takes all of it.
  have htaken : sessionRules.next answered taken =
      { answered with shared := allTaken answered.shared 0 } :=
    congrArg (fun shared => { answered with shared })
      (undergo_written_held answered.now answered.shared 0)
  have hafter : sessionRules.after begun (answeredGreeting ++ taken :: unreadQuestion) = unread := by
    show List.foldl sessionRules.next begun _ = _
    rw [List.foldl_append, List.foldl_cons]
    exact congrArg (List.foldl sessionRules.next · unreadQuestion) htaken
  have hrest : unread.AtRest := by decide +kernel
  have hhas : unread.shared.pending.Has 2 := by decide +kernel
  have hlate : (unread.tasks.all fun standing =>
      (standing.point?.bind SessionTask.reply?).all fun reply =>
        decide (reply.deadline < unread.now)) = true := by decide +kernel
  have hontime := h {} (.ok ⟨"file:///ws", "ws"⟩) (answeredGreeting ++ taken :: unreadQuestion)
  rw [show sessionRules.after (start {} (.ok ⟨"file:///ws", "ws"⟩)) _ = unread from hafter] at hontime
  obtain ⟨i, reply, hi, -, hle⟩ := hontime hrest 2 hhas
  obtain ⟨task, htask, hreply⟩ := Option.bind_eq_some_iff.mp hi
  obtain ⟨standing, hget, hpoint⟩ := Option.bind_eq_some_iff.mp htask
  have hall := List.all_eq_true.mp hlate standing (List.mem_of_getElem? hget)
  rw [hpoint, Option.bind_some, hreply] at hall
  exact Nat.lt_irrefl _ (Nat.lt_of_lt_of_le (of_decide_eq_true hall) hle)

end SessionCourse
end SymbolSearch
