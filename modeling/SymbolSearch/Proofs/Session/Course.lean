import SymbolSearch.Proofs.Session.Order
import SymbolSearch.Proofs.Sync.Crowd

/-!
# Courses of a session

A course of a session is like a run, but operations may be given up on the way.

* `sessionRules` — how operations on a session begin, go on and are given up, and what servers and
  launches do to it.
* `SessionTask.LineMoves` — what a step of an operation does to the line for the guard.
* `SessionCourse.InLine` — those who wait for the guard or have it do so in good order;
  `SessionCourse.InLine.next` shows that every event keeps it so.

Failures, successes and lost connections are noticed by whoever notices them.  This file says what
they do to the core of a session: its state, its restarts and the time of its last crash.

* `Session.Shifts` — the core stays, a failure or a success is counted, or the connection was lost.
* `Session.shifts_undergo` and `QueryPoint.shifts_step` — nothing else happens without the guard.
-/

namespace SymbolSearch

open Session

/-- What an event does to the session alone, if it is no step of an operation. -/
def Session.undergo (now : Instant) (event : SessionEvent) (session : Session) : Session :=
  ((⟨session, [], now⟩ : SessionRun).next event).session

/-- How operations on a session go on. A step needs nothing besides the session. -/
def sessionRules : CrowdRules Session SessionCall SessionTask SessionReply Unit SessionEvent where
  enter := SessionCall.task
  step := fun now _ task session => task.step now session
  cancel := SessionTask.cancel
  occur := Session.undergo

/-- A session, the operations on it, and the time. -/
abbrev SessionCourse := Crowd Session SessionTask SessionReply

/-- One thing that happens in a course. -/
abbrev CourseEvent := CrowdEvent SessionCall Unit SessionEvent

/-- An event with the course in which it happens. -/
abbrev CourseMoment := SessionCourse × CourseEvent

/-- A new session that nobody uses. -/
def SessionCourse.start (settings : SessionSettings) (hello : Except String ClientHello) :
    SessionCourse :=
  { shared := { settings, hello } }

/-- The point that a step leads to, if there is one. -/
def Progress.point? {π ρ : Type} : Progress π ρ → Option π
  | .moved point => some point
  | _ => none

/-! ### What is no step of an operation -/

theorem Session.drift_undergo (now : Instant) (event : SessionEvent) (s : Session) :
    Drift s (s.undergo now event) := by
  by_cases hstep : ∃ i, event = .step i
  · obtain ⟨i, rfl⟩ := hstep
    exact (Quiet.refl s).drift
  · exact SessionRun.drift_next ⟨s, [], now⟩ fun i heq => hstep ⟨i, heq⟩

/-! ### The line for the guard -/

namespace SessionTask

/-- What a step of an operation does to the line for the guard. The operation stands somewhere else
    afterwards, or nowhere. -/
inductive LineMoves (turns : Turns) (task : SessionTask) : Option SessionTask → Turns → Prop where
  | keeps (after : Option SessionTask) (turns' : Turns) (turns_eq : turns' = turns)
      (ticket_eq : after.bind ticket? = task.ticket?)
      (enters : ∀ task' ticket, after = some task' → task'.Entered ticket →
        task.Entered ticket ∨ turns.holder = some ticket) : LineMoves turns task after turns'
  | joins (task' : SessionTask) (turns' : Turns) (turns_eq : turns' = turns.join.2)
      (ticket_eq : task'.ticket? = some turns.join.1) (idle : ∀ ticket, ¬task'.Entered ticket) :
      LineMoves turns task (some task') turns'
  | leaves (after : Option SessionTask) (turns' : Turns) (ticket : Ticket)
      (turns_eq : turns' = turns.leave ticket) (ticket_eq : task.ticket? = some ticket)
      (gone : after.bind ticket? = none) : LineMoves turns task after turns'

variable {turns turns' : Turns} {task : SessionTask} {after : Option SessionTask} {ticket : Ticket}

/-- Whoever has no ticket has nothing to do with the guard. -/
theorem not_entered_of_ticket (h : task.ticket? = none) (ticket : Ticket) : ¬task.Entered ticket := by
  intro hentered
  rw [hentered.ticket_eq] at h
  cases h

/-- An operation that is at work stays at work, with the same ticket. -/
theorem LineMoves.works {task' : SessionTask} (turns_eq : turns' = turns)
    (before : task.Entered ticket) (now : task'.Entered ticket) :
    LineMoves turns task (some task') turns' := by
  refine .keeps _ turns' turns_eq (now.ticket_eq.trans before.ticket_eq.symm) ?_
  rintro _ held ⟨⟩ hheld
  have hsame : ticket = held := Option.some.inj (now.ticket_eq.symm.trans hheld.ticket_eq)
  exact .inl (hsame ▸ before)

/-- The operation goes to work with the guard that it has got. -/
theorem LineMoves.enters {task' : SessionTask} (turns_eq : turns' = turns)
    (ticket_eq : task.ticket? = some ticket) (holder : turns.holder = some ticket)
    (now : task'.Entered ticket) : LineMoves turns task (some task') turns' := by
  refine .keeps _ turns' turns_eq (now.ticket_eq.trans ticket_eq.symm) ?_
  rintro _ held ⟨⟩ hheld
  have hsame : ticket = held := Option.some.inj (now.ticket_eq.symm.trans hheld.ticket_eq)
  exact .inr (hsame ▸ holder)

/-- An operation that has nothing to do with the guard goes on without it. -/
theorem LineMoves.stays (turns_eq : turns' = turns) (ticket_eq : task.ticket? = none)
    (gone : after.bind ticket? = none) : LineMoves turns task after turns' := by
  refine .keeps _ turns' turns_eq (gone.trans ticket_eq.symm) ?_
  rintro task' held rfl hheld
  exact absurd hheld (not_entered_of_ticket gone held)

theorem lineMoves_ensure {now : Instant} {s : Session} {point : EnsurePoint}
    {stepped : EnsurePoint.Ensured} (hmoves : EnsureMoves now s point stepped)
    (hblocked : stepped.2 ≠ .blocked) :
    LineMoves s.turns (.ensure point) (stepped.2.point?.map .ensure) stepped.1.turns := by
  cases hmoves with
  | blocks => exact absurd rfl hblocked
  | joins => exact .joins _ _ rfl rfl fun _ => id
  | wakes resume => exact .stays rfl rfl rfl
  | answers ticket result holds => exact .leaves _ _ ticket rfl rfl rfl
  | cools ticket resume holds => exact .leaves _ _ ticket rfl rfl rfl
  | launches ticket holds idle => exact .enters (turns_dropConnection _) rfl holds rfl
  | relaunches ticket holds => exact .enters (turns_dropConnection _) rfl holds rfl
  | fails ticket error =>
    exact .leaves _ _ ticket (congrArg (·.leave ticket) (Keeps.markCrashed s now).turns) rfl rfl
  | links ticket process =>
    have hbefore : (ensure (.launching ticket)).Entered ticket := rfl
    exact .works rfl hbefore (entered_of_greets rfl)
  | greets _ point' ticket m before quiet after =>
    exact .works quiet.turns (entered_of_greets before) (entered_of_greets after)
  | crashes _ ticket m error before quiet =>
    have hturns : (m.markCrashed now).dropConnection.turns = s.turns :=
      (turns_dropConnection _).trans ((Keeps.markCrashed m now).turns.trans quiet.turns)
    exact .leaves _ _ ticket (congrArg (·.leave ticket) hturns)
      (entered_of_greets before).ticket_eq rfl
  | succeeds _ ticket m capabilities before quiet sent =>
    exact .leaves _ _ ticket (congrArg (·.leave ticket) quiet.turns)
      (entered_of_greets before).ticket_eq rfl

theorem lineMoves_stop {s : Session} {point : StopPoint} {stepped : StopPoint.Stopped}
    (hmoves : StopMoves s point stepped) (hblocked : stepped.2 ≠ .blocked) :
    LineMoves s.turns (.stop point) (stepped.2.point?.map .stop) stepped.1.turns := by
  cases hmoves with
  | blocks => exact absurd rfl hblocked
  | joins => exact .joins _ _ rfl rfl fun _ => id
  | leaves ticket holds closed => exact .leaves _ _ ticket rfl rfl rfl
  | parts ticket asked holds closed =>
    exact .enters rfl rfl holds (entered_of_closes rfl)
  | goesOn _ point' ticket m before quiet after link =>
    exact .works quiet.turns (entered_of_closes before) (entered_of_closes after)
  | takes _ point' ticket m link before quiet connection after taken =>
    exact .works quiet.turns (entered_of_closes before) (entered_of_closes after)
  | finishes _ ticket m before quiet connection link =>
    exact .leaves _ _ ticket (congrArg (·.leave ticket) quiet.turns)
      (entered_of_closes before).ticket_eq rfl
  | drains _ ticket link before taken =>
    exact .leaves _ _ ticket rfl (entered_of_closes before).ticket_eq rfl

theorem lineMoves_guard {s : Session} {ρ : Type} {act : Session → Session × ρ}
    (hturns : (act s).1.turns = s.turns) {make : GuardPoint → SessionTask}
    (hqueued : ∀ ticket, (make (.queued ticket)).ticket? = some ticket)
    (hidle : ∀ ticket held, ¬(make (.queued ticket)).Entered held) {point : GuardPoint}
    {stepped : Stepped Session GuardPoint ρ} (hmoves : GuardMoves act s point stepped)
    (hblocked : stepped.2 ≠ .blocked) :
    LineMoves s.turns (make point) (stepped.2.point?.map make) stepped.1.turns := by
  cases hmoves with
  | blocks => exact absurd rfl hblocked
  | joins => exact .joins _ _ rfl (hqueued _) (hidle _)
  | acts ticket holds =>
    exact .leaves _ _ ticket (congrArg (·.leave ticket) hturns) (hqueued ticket) rfl

/-- Whatever a step comes to, its point and its result are told as they are. -/
theorem lineMoves_map {s : Session} {π ρ : Type} {make : π → SessionTask} {reply : ρ → SessionReply}
    {stepped : Stepped Session π ρ}
    (h : stepped.2 ≠ .blocked →
      LineMoves s.turns task (stepped.2.point?.map make) stepped.1.turns)
    (hblocked : (stepped.map make reply).2 ≠ .blocked) :
    LineMoves s.turns task (stepped.map make reply).2.point? (stepped.map make reply).1.turns := by
  obtain ⟨s', progress⟩ := stepped
  cases progress with
  | blocked => exact absurd rfl hblocked
  | moved point => exact h (by rintro ⟨⟩)
  | finished result => exact h (by rintro ⟨⟩)

/-- A step of any operation, unless it has to wait. -/
theorem lineMoves_step (now : Instant) (task : SessionTask) (s : Session)
    (hblocked : (task.step now s).2 ≠ .blocked) :
    LineMoves s.turns task (task.step now s).2.point? (task.step now s).1.turns := by
  have hfree {π ρ : Type} {make : π → SessionTask} {stepped : Stepped Session π ρ}
      (hmake : ∀ point, (make point).ticket? = none) (hticket : task.ticket? = none)
      (hturns : stepped.1.turns = s.turns) :
      LineMoves s.turns task (stepped.2.point?.map make) stepped.1.turns := by
    refine .stays hturns hticket ?_
    cases stepped.2.point? with
    | none => rfl
    | some point => exact hmake point
  cases task with
  | ensure point => exact lineMoves_map (lineMoves_ensure (point.step_moves now s)) hblocked
  | ask point =>
    exact lineMoves_map (fun _ => hfree (fun _ => rfl) rfl (point.drift_step now s).turns) hblocked
  | notify point =>
    exact lineMoves_map (fun _ => hfree (fun _ => rfl) rfl (point.quiet_step s).turns) hblocked
  | stop point => exact lineMoves_map (lineMoves_stop (point.step_moves now s)) hblocked
  | reset point =>
    exact lineMoves_map (lineMoves_guard (turns_resetNow s) (fun _ => rfl) (fun _ _ => id)
      (point.step_moves resetNow s)) hblocked
  | checkAlive point =>
    have hlook (point : GuardPoint) {stepped : Stepped Session GuardPoint Bool}
        (hmoves : GuardMoves (fun s => (s, s.hasLiveConnection)) s point stepped)
        (h : stepped.2 ≠ .blocked) :
        LineMoves s.turns (checkAlive point) (stepped.2.point?.map checkAlive) stepped.1.turns :=
      lineMoves_guard rfl (fun _ => rfl) (fun _ _ => id) hmoves h
    refine lineMoves_map ?_ hblocked
    cases point with
    | asking =>
      by_cases haccepts : s.state.acceptsRequests = true
      · simp only [stepAlive, if_pos haccepts]
        exact hlook .asking (GuardPoint.step_moves _ _ s)
      · simp only [stepAlive, if_neg haccepts]
        exact fun _ => .stays rfl rfl rfl
    | queued ticket => exact hlook (.queued ticket) (GuardPoint.step_moves _ _ s)

/-- An operation that is given up leaves the line. -/
theorem lineMoves_cancel (task : SessionTask) (s : Session) :
    LineMoves s.turns task none (task.cancel s).turns := by
  have hleaves {ticket : Ticket} {m : Session} (hticket : task.ticket? = some ticket)
      (hturns : m.turns = s.turns) :
      LineMoves s.turns task none ({ m with turns := m.turns.leave ticket } : Session).turns :=
    .leaves _ _ ticket (congrArg (·.leave ticket) hturns) hticket rfl
  cases task with
  | ensure point =>
    cases point with
    | asking => exact .stays rfl rfl rfl
    | cooling resume => exact .stays rfl rfl rfl
    | queued ticket => exact hleaves (m := s) rfl rfl
    | launching ticket => exact hleaves (m := { s with launch := .none }) rfl rfl
    | linked ticket deadline => exact hleaves (m := s) rfl rfl
    | greeting ticket call deadline => exact hleaves rfl (call.quiet_cancel s).turns
    | confirming ticket send deadline capabilities => exact hleaves rfl (send.quiet_cancel s).turns
  | ask point =>
    cases point with
    | starting query => exact .stays rfl rfl rfl
    | calling query call => exact .stays (call.quiet_cancel s).turns rfl rfl
  | notify point =>
    cases point with
    | starting notice => exact .stays rfl rfl rfl
    | sending send => exact .stays (send.quiet_cancel s).turns rfl rfl
  | stop point =>
    cases point with
    | asking => exact .stays rfl rfl rfl
    | queued ticket => exact hleaves (m := s) rfl rfl
    | parting ticket asked => exact hleaves (m := s) rfl rfl
    | farewell ticket call => exact hleaves rfl (call.quiet_cancel s).turns
    | exiting ticket send => exact hleaves rfl (send.quiet_cancel s).turns
    | finishing ticket send => exact hleaves rfl (send.quiet_cancel s).turns
    | reaping ticket link | killing ticket link | draining ticket link =>
      exact hleaves (m := s.updateLink link Link.drop) rfl rfl
  | reset point | checkAlive point =>
    cases point with
    | asking => exact .stays rfl rfl rfl
    | queued ticket => exact hleaves (m := s) rfl rfl

end SessionTask

/-! ### Courses -/

namespace SessionCourse

/-- The ticket of an operation, if it has one. -/
def ticketOf (course : SessionCourse) (i : Nat) : Option Ticket :=
  (course.task? i).bind SessionTask.ticket?

/-- Whether an operation is at work with the guard. -/
def Inside (course : SessionCourse) (i : Nat) : Prop :=
  ∃ task ticket, course.task? i = some task ∧ task.Entered ticket

/-- Those who wait for the guard or have it do so in good order. -/
def InLine (course : SessionCourse) : Prop :=
  course.shared.turns.Serves course.ticketOf course.Inside

variable {course : SessionCourse} {i : Nat} {task : SessionTask} {s' : Session}

/-- An operation has gone on. -/
theorem InLine.put (h : course.InLine) (hi : course.task? i = some task)
    {standing : Standing SessionTask (Option SessionReply)}
    (hmoves : SessionTask.LineMoves course.shared.turns task standing.point? s'.turns) :
    InLine (course.put i s' standing) := by
  have hself : (course.put i s' standing).task? i = standing.point? :=
    Crowd.task?_put_self hi standing
  have hother (j : Nat) (hj : j ≠ i) : ticketOf (course.put i s' standing) j = course.ticketOf j := by
    rw [ticketOf, Crowd.task?_put_of_ne hj.symm]
    rfl
  -- Whoever else is at work was so before.
  have hinside {j : Nat} (hj : Inside (course.put i s' standing) j) :
      j ≠ i ∧ course.Inside j ∨ j = i ∧ ∃ task' ticket, standing.point? = some task' ∧
        task'.Entered ticket := by
    obtain ⟨task', ticket, htask', hentered⟩ := hj
    by_cases hji : j = i
    · subst hji
      exact .inr ⟨rfl, task', ticket, hself.symm.trans htask', hentered⟩
    · rw [Crowd.task?_put_of_ne (Ne.symm hji)] at htask'
      exact .inl ⟨hji, task', ticket, htask', hentered⟩
  have hticket : course.ticketOf i = task.ticket? := by rw [ticketOf, hi]; rfl
  have hticket' : ticketOf (course.put i s' standing) i = standing.point?.bind SessionTask.ticket? := by
    rw [ticketOf, hself]
  show s'.turns.Serves _ _
  generalize hafter : standing.point? = after at hmoves hinside hticket'
  cases hmoves with
  | keeps _ _ turns_eq ticket_eq enters =>
    rw [turns_eq]
    refine Turns.Serves.keep h (fun j => ?_) fun j hj => ?_
    · by_cases hji : j = i
      · rw [hji, hticket', ticket_eq, hticket]
      · exact hother j hji
    · rcases hinside hj with ⟨-, hbefore⟩ | ⟨rfl, task', ticket, hpoint, hentered⟩
      · exact .inl hbefore
      · rcases enters task' ticket hpoint hentered with hbefore | hholder
        · exact .inl ⟨task, ticket, hi, hbefore⟩
        · refine .inr ⟨ticket, ?_, hholder⟩
          rw [hticket, ← ticket_eq, hpoint]
          exact hentered.ticket_eq
  | joins task' _ turns_eq ticket_eq idle =>
    rw [turns_eq]
    refine Turns.Serves.join h (hticket'.trans ticket_eq) hother fun j hj => ?_
    rcases hinside hj with hbefore | ⟨-, other, ticket, hpoint, hentered⟩
    · exact hbefore
    · obtain rfl := Option.some.inj hpoint
      exact absurd hentered (idle ticket)
  | leaves _ _ ticket turns_eq ticket_eq gone =>
    rw [turns_eq]
    refine Turns.Serves.leave h (hticket.trans ticket_eq) (hticket'.trans gone) hother fun j hj => ?_
    rcases hinside hj with hbefore | ⟨-, other, held, hpoint, hentered⟩
    · exact hbefore
    · rw [hpoint] at gone
      exact absurd hentered (SessionTask.not_entered_of_ticket gone held)

/-- A call that begins is not in line yet. -/
theorem ticket?_task (call : SessionCall) : call.task.ticket? = none := by
  cases call <;> rfl

/-- Every event keeps the line in good order. -/
theorem InLine.next (h : course.InLine) (event : CourseEvent) :
    InLine (sessionRules.next course event) := by
  have hmoves := sessionRules.next_moves course event
  generalize sessionRules.next course event = course' at hmoves
  cases hmoves with
  | blocks | misses => exact h
  | begins call =>
    -- The new operation has no ticket, and the others are where they were.
    have htask (j : Nat) (hj : j ≠ course.tasks.length) :
        Crowd.task? { course with tasks := course.tasks ++ [.waiting (sessionRules.enter call)] } j =
          course.task? j := Crowd.task?_concat_of_ne hj _
    have hlast := Crowd.task?_concat_self course (sessionRules.enter call)
    refine Turns.Serves.keep h (fun j => ?_) fun j hj => ?_
    · by_cases hjl : j = course.tasks.length
      · rw [hjl, ticketOf, hlast, ticketOf, Crowd.task?_length]
        exact ticket?_task call
      · rw [ticketOf, htask j hjl]
        rfl
    · obtain ⟨task, ticket, hj, hentered⟩ := hj
      by_cases hjl : j = course.tasks.length
      · rw [hjl, hlast] at hj
        obtain rfl := Option.some.inj hj
        exact absurd hentered (SessionTask.not_entered_of_ticket (ticket?_task call) ticket)
      · rw [htask j hjl] at hj
        exact .inl ⟨task, ticket, hj, hentered⟩
  | moves i input point point' shared stands step =>
    have hline := point.lineMoves_step course.now course.shared
    rw [show point.step course.now course.shared = (shared, .moved point') from step] at hline
    exact h.put stands (hline (by rintro ⟨⟩))
  | finishes i input point result shared stands step =>
    have hline := point.lineMoves_step course.now course.shared
    rw [show point.step course.now course.shared = (shared, .finished result) from step] at hline
    exact h.put stands (hline (by rintro ⟨⟩))
  | givesUp i point stands => exact h.put stands (point.lineMoves_cancel course.shared)
  | occurs event =>
    have hturns := (drift_undergo course.now event course.shared).turns
    have hline : (course.shared.undergo course.now event).turns.Serves course.ticketOf
        course.Inside := by
      rw [hturns]
      exact h
    exact hline
  | waits time => exact h

theorem inLine_start (settings : SessionSettings) (hello : Except String ClientHello) :
    InLine (start settings hello) :=
  .nobody _ (fun _ => rfl) (by rintro i ⟨task, ticket, ⟨⟩, -⟩)

end SessionCourse

end SymbolSearch

namespace SymbolSearch

/-! ### What is counted without the guard -/

/-- Whether a server is being started, or was started and is not known to have ended. -/
def SessionState.isUp : SessionState → Bool
  | .spawning | .handshaking | .ready | .degraded => true
  | _ => false

namespace Session

/-- What happens to the core of a session without the guard. -/
inductive Shifts (now : Instant) (s s' : Session) : Prop where
  | stays (core : s'.core = s.core)
  | fails (core : s'.core = s.core.recordFailure)
  | succeeds (core : s'.core = s.core.recordSuccess)
  | lost (up : s.state.isUp = true)
      (core : s'.core = { s.core with crashedAt := some now, state := .crashed })

variable {s m s' : Session} {now : Instant} {id : LinkId}

theorem Quiet.shifts (h : Quiet s s') : Shifts now s s' := .stays h.core

theorem Quiet.trans_shifts (h : Quiet s m) (h' : Shifts now m s') : Shifts now s s' := by
  cases h' with
  | stays core => exact .stays (core.trans h.core)
  | fails core => exact .fails (core.trans (congrArg recordFailure h.core))
  | succeeds core => exact .succeeds (core.trans (congrArg recordSuccess h.core))
  | lost up core =>
    refine .lost (h.state ▸ up) ?_
    rw [core, h.core]

theorem Shifts.trans_quiet (h : Shifts now s m) (h' : Quiet m s') : Shifts now s s' := by
  cases h with
  | stays core => exact .stays (h'.core.trans core)
  | fails core => exact .fails (h'.core.trans core)
  | succeeds core => exact .succeeds (h'.core.trans core)
  | lost up core => exact .lost up (h'.core.trans core)

theorem core_markCrashed (s : Session) (now : Instant) :
    (s.markCrashed now).core = { s.core with crashedAt := some now, state := .crashed } := by
  have hcore := (quiet_releaseWriter s).core
  show { s.releaseWriter.core with crashedAt := some now, state := .crashed } = _
  rw [hcore]

theorem shifts_recordFailure (s : Session) : Shifts now s s.recordFailure := .fails rfl

theorem shifts_recordSuccess (s : Session) : Shifts now s s.recordSuccess := .succeeds rfl

/-! ### Readers -/

theorem shifts_transportClosed (s : Session) (id : LinkId) (now : Instant) :
    Shifts now s (s.transportClosed id now) := by
  have hlost (hup : s.state.isUp = true) : Shifts now s (s.markCrashed now) :=
    .lost hup (core_markCrashed s now)
  unfold transportClosed
  split
  · split
    next h => exact hlost (by rw [h]; rfl)
    next h => exact hlost (by rw [h]; rfl)
    next h => exact hlost (by rw [h]; rfl)
    next h => exact hlost (by rw [h]; rfl)
    next => exact .stays rfl
  · exact .stays rfl

theorem shifts_endReader (s : Session) (id : LinkId) (now : Instant) :
    Shifts now s (s.endReader id now) :=
  (shifts_transportClosed s id now).trans_quiet (quiet_stopReader _ id)

theorem shifts_handleItem (now : Instant) (item : FrameReader.Item) (halive : s.ReaderAlive id) :
    Shifts now s (s.handleItem id now item) := by
  cases item with
  | ended => exact shifts_endReader s id now
  | failed reason => exact shifts_endReader s id now
  | event event =>
    cases event with
    | frame frame =>
      have hactive : Quiet s { s with active := true } := { Quiet.refl s with }
      simp only [handleItem, handleEvent]
      split
      next message _ => exact (hactive.trans (quiet_dispatch message (by exact halive))).shifts
      next => exact hactive.trans_shifts (shifts_recordFailure _)
    | error error =>
      cases error with
      | unexpectedEnd => exact shifts_endReader s id now
      | missingLength | invalidLength | oversized | headerTooLong | invalidJson =>
        exact shifts_recordFailure s

theorem shifts_advanceReader (now : Instant) (read : Option FrameReader.Item × FrameReader)
    (halive : s.ReaderAlive id) : Shifts now s (s.advanceReader id now read) := by
  have hframes : Quiet s (s.updateLink id fun link => { link with frames := read.2 }) :=
    quiet_updateLink s id _ fun _ _ h => h
  unfold advanceReader
  split
  next item _ =>
    exact hframes.trans_shifts
      (shifts_handleItem now item (readerAlive_updateLink _ halive fun _ h => h))
  next => exact hframes.shifts

theorem shifts_hear (s : Session) (id : LinkId) (now : Instant) (said : SourceRead) :
    Shifts now s (s.hear id now said) := by
  unfold hear
  split
  next link hlink =>
    split
    next hwants => exact shifts_advanceReader now _ (readerAlive_of_wantsRead hlink hwants)
    next => exact .stays rfl
  next => exact .stays rfl

theorem shifts_stepReader (s : Session) (id : LinkId) (now : Instant) :
    Shifts now s (s.stepReader id now).1 := by
  unfold stepReader
  split
  next => exact .stays rfl
  next link hlink =>
    split
    next => exact .stays rfl
    next reply ticket hreplying =>
      split
      next => exact .stays rfl
      -- The reply goes out, and the reader listens again.
      next outbox _ _ _ => exact .stays rfl
    next hreading =>
      split
      next => exact .stays rfl
      next =>
        have halive : s.ReaderAlive id := ⟨link, hlink, by simp [Link.readerDone, hreading]⟩
        exact shifts_advanceReader now _ halive

/-! ### Any event, and questions -/

/-- An event that is no step of an operation. -/
theorem shifts_undergo (now : Instant) (event : SessionEvent) (s : Session) :
    Shifts now s (s.undergo now event) := by
  cases event with
  | launched result =>
    simp only [undergo, SessionRun.next]
    split
    · exact .stays rfl
    · exact .stays rfl
  | hear link said => exact shifts_hear s link now said
  | read link => exact shifts_stepReader s link now
  | write link => exact (quiet_stepWriter s link).shifts
  | «begin» | step | written | writeFails | processEnds | wait => exact .stays rfl

end Session

open Session

theorem QueryPoint.shifts_step (now : Instant) (point : QueryPoint) (s : Session) :
    Shifts now s (point.step now s).1 := by
  have hafter (query : Query) (stepped : Stepped Session CallPoint (Except SessionError Json))
      (h : Quiet s stepped.1) : Shifts now s (QueryPoint.afterCall query stepped).1 := by
    obtain ⟨m, progress⟩ := stepped
    cases progress with
    | blocked => exact h.shifts
    | moved call => exact h.shifts
    | finished result =>
      simp only [QueryPoint.afterCall, QueryPoint.finish]
      split
      · exact h.trans_shifts (shifts_recordSuccess m)
      · dsimp only
        split
        · exact h.trans_shifts (shifts_recordFailure m)
        · exact h.shifts
  cases point with
  | starting query =>
    simp only [QueryPoint.step]
    split
    · exact hafter query _ (CallPoint.quiet_step now _ s)
    · exact .stays rfl
  | calling query call => exact hafter query _ (call.quiet_step now s)

namespace Session

variable {s s' : Session} {now : Instant}

/-! ### What is left of the core -/

theorem settings_of_core (h : s'.core = s.core) : s'.settings = s.settings := by
  have hsettings := congrArg Session.settings h
  exact hsettings

theorem state_of_core (h : s'.core = s.core) : s'.state = s.state := by
  have hstate := congrArg Session.state h
  exact hstate

end Session

end SymbolSearch
