import SymbolSearch.Proofs.Session.Correlation
import SymbolSearch.Proofs.Session.Course
import SymbolSearch.Proofs.Session.Engaged

/-!
# What is left of a connection that has ended

While a session has no server, it has no writer and no request is in the table, also in a course in
which operations are given up on the way.

* `SessionState.isDead` — the states without a server, and `Session.Bare` what the session has in
  them.
* `Session.Settles` — asking and sending without a writer enter nothing into the table.
* `SessionCourse.bare_after` — every event keeps a session bare.
* `SessionCourse.nothing_in_flight_after` — so whatever was in flight has its outcome, and nothing
  that comes later changes it.
-/

namespace SymbolSearch

/-- Whether there is no server to which anything could be in flight. -/
def SessionState.isDead : SessionState → Bool
  | .idle | .spawning | .crashed | .closed => true
  | _ => false

/-- What a session has left while there is no server. -/
structure Session.Bare (s : Session) : Prop where
  writer : s.state.isDead = true → s.writer = none
  pending : s.state.isDead = true → s.pending.entries = []
  /-- Only a session that has just crashed may still have to give its connection up. -/
  connection : s.state.isDead = true → s.state ≠ .crashed → s.connection = none

/-! ### Tables that only shrink -/

namespace Pending

variable {pending pending' : Pending}

theorem entries_remove_subset (pending : Pending) (id : Nat) :
    (pending.remove id).1.entries ⊆ pending.entries := by
  have hfilter : pending.entries.filter (·.1 ≠ id) ⊆ pending.entries := List.filter_subset_self _
  unfold remove takeOut
  cases pending.entries.lookup id with
  | none => exact hfilter
  | some channel => exact hfilter

theorem entries_resolve_subset (pending : Pending) (id : Nat) (outcome : ResponseOutcome) :
    (pending.resolve id outcome).1.entries ⊆ pending.entries := by
  have hfilter : pending.entries.filter (·.1 ≠ id) ⊆ pending.entries := List.filter_subset_self _
  unfold resolve takeOut
  cases pending.entries.lookup id with
  | none => exact hfilter
  | some channel => exact hfilter

theorem entries_wait_subset (now : Instant) (reply : PendingReply) (pending : Pending) :
    (reply.wait? now pending).1.entries ⊆ pending.entries := by
  have hremove := entries_remove_subset pending reply.id
  unfold PendingReply.wait?
  split
  · exact List.Subset.refl _
  · split
    · unfold PendingReply.expire
      cases hgone : pending.remove reply.id with
      | mk left found =>
        rw [hgone] at hremove
        cases found with
        | true => exact hremove
        | false => exact hremove
    · exact List.Subset.refl _

end Pending

namespace Session

/-- What is quiet, and enters nothing into the table of a session without a writer. -/
structure Settles (s s' : Session) : Prop extends Quiet s s' where
  entries : s.writer = none → s'.pending.entries ⊆ s.pending.entries

variable {s m s' : Session} {now : Instant} {id : LinkId}

theorem Quiet.settles (h : Quiet s s') (hpending : s'.pending.entries ⊆ s.pending.entries) :
    Settles s s' := ⟨h, fun _ => hpending⟩

theorem Settles.trans (h : Settles s m) (h' : Settles m s') : Settles s s' :=
  ⟨h.toQuiet.trans h'.toQuiet, fun hnone =>
    List.Subset.trans (h'.entries (h.writer_eq_none hnone)) (h.entries hnone)⟩

theorem Bare.settles (h : Bare s) (hsettles : Settles s s') : Bare s' where
  writer := fun hdead => hsettles.writer_eq_none (h.writer (hsettles.state ▸ hdead))
  pending := by
    intro hdead
    rw [hsettles.state] at hdead
    have hsubset := hsettles.entries (h.writer hdead)
    rw [h.pending hdead] at hsubset
    exact List.subset_nil.mp hsubset
  connection := by
    intro hdead hcrashed
    rw [hsettles.state] at hdead hcrashed
    exact hsettles.connection.trans (h.connection hdead hcrashed)

end Session

open Session

variable {s m s' : Session} {now : Instant} {ticket : Ticket}

/-! ### Sending and asking -/

namespace SendPoint

theorem settles_step (point : SendPoint) (s : Session) : Settles s (point.step s).1 := by
  have hpending : (point.step s).1.pending = s.pending :=
    (congrArg Desk.pending (point.desk_step s none) :)
  exact (point.quiet_step s).settles (by rw [hpending]; exact List.Subset.refl _)

theorem settles_cancel (point : SendPoint) (s : Session) : Settles s (point.cancel s) :=
  (point.quiet_cancel s).settles (List.Subset.refl _)

end SendPoint

namespace CallPoint

theorem settles_refuse (s : Session) (reply : PendingReply) (link : LinkId) :
    Settles s (refuse s reply link).1 :=
  (quiet_refuse s reply link).settles (Pending.entries_remove_subset s.pending reply.id)

theorem settles_step (now : Instant) (point : CallPoint) (s : Session) :
    Settles s (point.step now s).1 := by
  cases point with
  | starting call timeout =>
    refine ⟨quiet_step now _ s, fun hnone => ?_⟩
    -- Without a writer nothing is registered.
    simp only [step, hnone]
    exact List.Subset.refl _
  | sending reply send =>
    have hsend := send.settles_step s
    simp only [step]
    split
    next hstep =>
      rw [hstep] at hsend
      exact hsend
    next hstep =>
      rw [hstep] at hsend
      exact hsend.trans (settles_refuse _ reply send.link)
    next hstep =>
      rw [hstep] at hsend
      exact hsend
    next hstep =>
      rw [hstep] at hsend
      exact hsend
  | waiting reply link =>
    refine ⟨quiet_step now _ s, fun _ => ?_⟩
    have hwait := Pending.entries_wait_subset now reply s.pending
    simp only [step]
    split
    next pending result hresult =>
      rw [hresult] at hwait
      exact hwait
    next => exact List.Subset.refl _

theorem settles_cancel (point : CallPoint) (s : Session) : Settles s (point.cancel s) := by
  refine (point.quiet_cancel s).settles ?_
  cases point with
  | starting call timeout => exact List.Subset.refl _
  | sending reply send => exact Pending.entries_remove_subset s.pending reply.id
  | waiting reply link => exact Pending.entries_remove_subset s.pending reply.id

end CallPoint

/-! ### States -/

namespace Session

variable {id : LinkId}

theorem Bare.of_alive (h : s.state.isDead = false) : Bare s where
  writer := fun hdead => by rw [h] at hdead; cases hdead
  pending := fun hdead => by rw [h] at hdead; cases hdead
  connection := fun hdead => by rw [h] at hdead; cases hdead

theorem bare_markCrashed (s : Session) (now : Instant) : Bare (s.markCrashed now) where
  writer := fun _ => writer_releaseWriter s
  pending := fun _ => Pending.entries_failAll _
  connection := fun _ hcrashed => absurd rfl hcrashed

theorem pending_dropConnection (s : Session) : s.dropConnection.pending = s.pending :=
  (congrArg Desk.pending (desk_dropConnection s none) :)

theorem pending_releaseWriter (s : Session) : s.releaseWriter.pending = s.pending :=
  (congrArg Desk.pending (desk_releaseWriter s none) :)

/-- The connection is given up, and the session goes from one dead state to another. -/
theorem Bare.dropConnection (h : Bare s) (hdead : s.state.isDead = true)
    (hwriter : s'.writer = none) (hpending : s'.pending = s.pending)
    (hconnection : s'.connection = none) : Bare s' where
  writer := fun _ => hwriter
  pending := fun _ => by rw [hpending]; exact h.pending hdead
  connection := fun _ _ => hconnection

theorem Bare.recordFailure (h : Bare s) : Bare s.recordFailure := by
  by_cases hdegrades : s.settings.degradedAfter ≤ s.failures + 1 ∧ s.state = .ready
  · refine .of_alive ?_
    simp [Session.recordFailure, hdegrades, SessionState.isDead]
  · have hstate : s.recordFailure.state = s.state := by
      simpa [Session.recordFailure] using fun hlimit hready => absurd ⟨hlimit, hready⟩ hdegrades
    exact ⟨fun hdead => h.writer (hstate ▸ hdead), fun hdead => h.pending (hstate ▸ hdead),
      fun hdead hcrashed => h.connection (hstate ▸ hdead) (hstate ▸ hcrashed)⟩

theorem Bare.recordSuccess (h : Bare s) : Bare s.recordSuccess := by
  by_cases hdegraded : s.state = .degraded
  · refine .of_alive ?_
    simp [Session.recordSuccess, hdegraded, SessionState.isDead]
  · have hstate : s.recordSuccess.state = s.state := by simp [Session.recordSuccess, hdegraded]
    exact ⟨fun hdead => h.writer (hstate ▸ hdead), fun hdead => h.pending (hstate ▸ hdead),
      fun hdead hcrashed => h.connection (hstate ▸ hdead) (hstate ▸ hcrashed)⟩

/-! ### Readers -/

theorem Bare.endReader (h : Bare s) (id : LinkId) (now : Instant) : Bare (s.endReader id now) := by
  have hclosed : Bare (s.transportClosed id now) := by
    unfold transportClosed
    split
    · split
      · exact bare_markCrashed s now
      · exact bare_markCrashed s now
      · exact bare_markCrashed s now
      · exact bare_markCrashed s now
      · exact h
    · exact h
  exact hclosed.settles ((quiet_stopReader _ id).settles (List.Subset.refl _))

theorem settles_dispatch (message : Message) (halive : s.ReaderAlive id) :
    Settles s (s.dispatch id message) := by
  refine (quiet_dispatch message halive).settles ?_
  cases message with
  | response responseId outcome =>
    simp only [dispatch]
    split
    · exact Pending.entries_resolve_subset s.pending _ outcome
    · exact List.Subset.refl _
  | request requestId method params =>
    have hpending : (s.sendReply id (replyToServer requestId method params)).pending = s.pending :=
      (congrArg Desk.pending (desk_sendReply s id _ none) :)
    simp only [dispatch, hpending]
    exact List.Subset.refl _
  | notification method params => exact List.Subset.refl _

theorem Bare.handleItem (h : Bare s) (now : Instant) (item : FrameReader.Item)
    (halive : s.ReaderAlive id) : Bare (s.handleItem id now item) := by
  cases item with
  | ended => exact h.endReader id now
  | failed reason => exact h.endReader id now
  | event event =>
    cases event with
    | frame frame =>
      have hactive : Bare { s with active := true } := ⟨h.writer, h.pending, h.connection⟩
      simp only [Session.handleItem, handleEvent]
      split
      next message _ => exact hactive.settles (settles_dispatch message (by exact halive))
      next => exact hactive.recordFailure
    | error error =>
      cases error with
      | unexpectedEnd => exact h.endReader id now
      | missingLength | invalidLength | oversized | headerTooLong | invalidJson =>
        exact h.recordFailure

theorem Bare.advanceReader (h : Bare s) (now : Instant)
    (read : Option FrameReader.Item × FrameReader) (halive : s.ReaderAlive id) :
    Bare (s.advanceReader id now read) := by
  have hframes : Bare (s.updateLink id fun link => { link with frames := read.2 }) :=
    ⟨h.writer, h.pending, h.connection⟩
  unfold Session.advanceReader
  split
  next item _ => exact hframes.handleItem now item (readerAlive_updateLink _ halive fun _ h => h)
  next => exact hframes

/-- An event that is no step of an operation. -/
theorem Bare.undergo (h : Bare s) (now : Instant) (event : SessionEvent) :
    Bare (s.undergo now event) := by
  cases event with
  | hear id said =>
    simp only [Session.undergo, SessionRun.next, SessionRun.withSession, hear]
    split
    next link hlink =>
      split
      next hwants => exact h.advanceReader now _ (readerAlive_of_wantsRead hlink hwants)
      next => exact h
    next => exact h
  | read id =>
    simp only [Session.undergo, SessionRun.next, SessionRun.withSession, stepReader]
    split
    next => exact h
    next link hlink =>
      split
      next => exact h
      next =>
        split
        · exact h
        · exact ⟨h.writer, h.pending, h.connection⟩
      next hreading =>
        split
        · exact h
        · exact h.advanceReader now _ ⟨link, hlink, by simp [Link.readerDone, hreading]⟩
  | launched result =>
    simp only [Session.undergo, SessionRun.next]
    split
    · exact ⟨h.writer, h.pending, h.connection⟩
    · exact h
  | write id =>
    have hquiet := quiet_stepWriter s id
    refine h.settles (hquiet.settles ?_)
    show (s.stepWriter id).1.pending.entries ⊆ s.pending.entries
    unfold stepWriter
    split <;> exact List.Subset.refl _
  | «begin» | step | written | writeFails | processEnds | wait =>
    exact ⟨h.writer, h.pending, h.connection⟩

end Session

/-! ### Operations -/

namespace SessionTask

theorem bare_ask (h : Bare s) (now : Instant) (point : QueryPoint) : Bare (point.step now s).1 := by
  have hafter (query : Query) (stepped : Stepped Session CallPoint (Except SessionError Json))
      (h : Bare stepped.1) : Bare (QueryPoint.afterCall query stepped).1 := by
    obtain ⟨m, progress⟩ := stepped
    cases progress with
    | blocked => exact h
    | moved call => exact h
    | finished result =>
      simp only [QueryPoint.afterCall, QueryPoint.finish]
      split
      · exact h.recordSuccess
      · dsimp only
        split
        · exact h.recordFailure
        · exact h
  cases point with
  | starting query =>
    simp only [QueryPoint.step]
    split
    · exact hafter query _ (h.settles (CallPoint.settles_step now _ s))
    · exact h
  | calling query call => exact hafter query _ (h.settles (call.settles_step now s))

theorem bare_notify (h : Bare s) (point : NoticePoint) : Bare (point.step s).1 := by
  refine h.settles ((point.quiet_step s).settles ?_)
  have hpending : (point.step s).1.pending = s.pending :=
    (congrArg Desk.pending (point.desk_step s) :)
  rw [hpending]
  exact List.Subset.refl _

/-- A step in the middle of a handshake that goes on. -/
theorem settles_greeting {point point' : EnsurePoint} (hgreets : point.Greets ticket)
    (hwriter : s.writer = none) (hmoved : (point.step now s).2 = .moved point') :
    Settles s (point.step now s).1 := by
  have hfail (m : Session) (error : SessionError) :
      (EnsurePoint.fail now ticket m error).2 ≠ .moved point' := by
    unfold EnsurePoint.fail
    split <;> rintro ⟨⟩
  have hafter {deadline : Instant}
      {stepped : Stepped Session CallPoint (Except SessionError Json)} (h : Settles s stepped.1)
      (hmoved : (EnsurePoint.afterCall now ticket deadline stepped).2 = .moved point') :
      Settles s (EnsurePoint.afterCall now ticket deadline stepped).1 := by
    obtain ⟨m, progress⟩ := stepped
    cases progress with
    | blocked => exact h
    | moved call => exact h
    | finished result =>
      cases result with
      | error error => exact absurd hmoved (hfail m error)
      | ok answer =>
        -- Without a writer there is nobody to whom the handshake could be confirmed.
        have hnone : m.writer = none := h.writer_eq_none hwriter
        simp only [EnsurePoint.afterCall, EnsurePoint.confirm, hnone] at hmoved
        split at hmoved
        · exact absurd hmoved (hfail m _)
        · exact absurd hmoved (hfail m _)
  cases point with
  | asking | queued | cooling | launching => exact hgreets.elim
  | linked held deadline =>
    obtain rfl : held = ticket := hgreets
    simp only [EnsurePoint.step, EnsurePoint.greet] at hmoved ⊢
    split at hmoved
    · exact absurd hmoved (hfail s _)
    · exact hafter (CallPoint.settles_step now _ s) hmoved
  | greeting held call deadline =>
    obtain rfl : held = ticket := hgreets
    have hcall := call.settles_step now s
    simp only [EnsurePoint.step] at hmoved ⊢
    split at hmoved
    next hstep =>
      split at hmoved
      · cases hmoved
      · cases hmoved
    next hstep => exact hafter hcall hmoved
  | confirming held send deadline capabilities =>
    obtain rfl : held = ticket := hgreets
    have hsend := send.settles_step s
    simp only [EnsurePoint.step] at hmoved ⊢
    split at hmoved
    next hstep =>
      rw [hstep] at hsend
      exact hsend
    next => cases hmoved
    next => exact absurd hmoved (hfail _ _)
    next =>
      split at hmoved
      · cases hmoved
      · cases hmoved

theorem bare_ensure (h : Bare s) {point : EnsurePoint}
    (hengaged : ∀ ticket, (ensure point).Entered ticket → Engaged s (.ensure point))
    (hblocked : (point.step now s).2 ≠ .blocked) : Bare (point.step now s).1 := by
  have hmoves := point.step_moves now s
  have hgreeting (ticket : Ticket) (hgreets : point.Greets ticket) (hwriter : s.writer = none)
      (point' : EnsurePoint) : (point.step now s).2 = .moved point' →
        Settles s (point.step now s).1 := settles_greeting hgreets hwriter
  generalize point.step now s = stepped at hmoves hgreeting hblocked
  cases hmoves with
  | blocks => exact absurd rfl hblocked
  | joins | wakes | answers | cools => exact ⟨h.writer, h.pending, h.connection⟩
  | launches ticket holds idle =>
    have hdead : s.state.isDead = true := by rw [idle]; rfl
    exact h.dropConnection hdead ((writer_dropConnection s).trans (h.writer hdead))
      (pending_dropConnection s) (connection_dropConnection s)
  | relaunches ticket holds crashed =>
    have hdead : s.state.isDead = true := by rw [crashed]; rfl
    exact h.dropConnection hdead ((writer_dropConnection _).trans (h.writer hdead))
      (pending_dropConnection _) (connection_dropConnection _)
  | fails ticket error =>
    have hcrashed := bare_markCrashed s now
    exact ⟨hcrashed.writer, hcrashed.pending, hcrashed.connection⟩
  | links ticket process => exact .of_alive rfl
  | greets _ point' ticket m before quiet after =>
    have hstate : s.state = .handshaking ∨ s.state = .crashed := by
      cases hengaged ticket (entered_of_greets before) with
      | launching => exact before.elim
      | greeting _ _ _ state => exact state
    rcases hstate with hhandshaking | hcrashed
    · refine .of_alive ?_
      rw [quiet.state, hhandshaking]
      rfl
    · exact h.settles (hgreeting ticket before (h.writer (by rw [hcrashed]; rfl)) point' rfl)
  | crashes _ ticket m error before quiet =>
    have hcrashed := bare_markCrashed m now
    have hstate : (m.markCrashed now).dropConnection.state = .crashed := state_dropConnection _
    constructor
    · exact fun _ => (writer_dropConnection _).trans (hcrashed.writer rfl)
    · intro _
      show (m.markCrashed now).dropConnection.pending.entries = []
      rw [pending_dropConnection]
      exact hcrashed.pending rfl
    · exact fun _ hne => absurd hstate hne
  | succeeds _ ticket m capabilities before quiet => exact .of_alive rfl

theorem bare_stop (h : Bare s) {point : StopPoint}
    (hengaged : ∀ ticket, (stop point).Entered ticket → Engaged s (.stop point))
    (hblocked : (point.step now s).2 ≠ .blocked) : Bare (point.step now s).1 := by
  have hmoves := point.step_moves now s
  have hlets (held : Ticket) (hcloses : point.Closes held) : StopPoint.Lets (point.step now s) := by
    refine StopPoint.lets_step now s hcloses fun hreleased => ?_
    cases hengaged held hcloses with
    | closing _ _ _ _ released => exact released hreleased
  have hclosing {ticket : Ticket} (hcloses : point.Closes ticket) : s.state = .closing := by
    cases hengaged ticket hcloses with
    | closing _ _ _ state => exact state
  generalize point.step now s = stepped at hmoves hlets hblocked
  cases hmoves with
  | blocks => exact absurd rfl hblocked
  | joins | leaves => exact ⟨h.writer, h.pending, h.connection⟩
  | parts ticket asked => exact .of_alive rfl
  | goesOn _ point' ticket m before quiet =>
    refine .of_alive ?_
    rw [quiet.state, hclosing before]
    rfl
  | takes _ point' ticket m link before quiet =>
    refine .of_alive ?_
    show m.state.isDead = false
    rw [quiet.state, hclosing before]
    rfl
  | finishes _ ticket m before quiet connection link =>
    exact ⟨fun _ => hlets ticket before, fun _ => Pending.entries_failAll _, fun _ _ => connection⟩
  | drains _ ticket link before taken =>
    have hconnection : s.connection = none := by
      cases hengaged ticket before with
      | closing _ _ _ _ _ none => exact none (by simp [taken])
    exact ⟨fun _ => hlets ticket before, fun _ => Pending.entries_failAll _, fun _ _ => hconnection⟩

theorem bare_reset (h : Bare s) (point : GuardPoint) : Bare (s.stepReset point).1 := by
  have hmoves := point.step_moves resetNow s
  show Bare (point.step resetNow s).1
  generalize point.step resetNow s = stepped at hmoves
  cases hmoves with
  | blocks | joins => exact ⟨h.writer, h.pending, h.connection⟩
  | acts ticket holds =>
    have hidle (hdead : s.state.isDead = true) (s' : Session) (hwriter : s'.writer = none)
        (hpending : s'.pending = s.dropConnection.releaseWriter.pending)
        (hconnection : s'.connection = s.dropConnection.releaseWriter.connection) : Bare s' := by
      refine h.dropConnection hdead hwriter ?_ ?_
      · rw [hpending, pending_releaseWriter, pending_dropConnection]
      · rw [hconnection, (quiet_releaseWriter _).connection, connection_dropConnection]
    show Bare { s.resetNow.1 with turns := _ }
    unfold resetNow
    split
    next hcrashed =>
      exact hidle (by rw [hcrashed]; rfl) _ (writer_releaseWriter _) rfl rfl
    next hclosed => exact hidle (by rw [hclosed]; rfl) _ (writer_releaseWriter _) rfl rfl
    next => exact ⟨h.writer, h.pending, h.connection⟩

theorem bare_checkAlive (h : Bare s) (point : GuardPoint) : Bare (s.stepAlive point).1 := by
  obtain ⟨turns, hturns⟩ := s.exists_stepAlive point
  rw [hturns]
  exact ⟨h.writer, h.pending, h.connection⟩

/-- A step of any operation, unless it has to wait. -/
theorem bare_step (h : Bare s) (now : Instant) (task : SessionTask)
    (hengaged : ∀ ticket, task.Entered ticket → Engaged s task)
    (hblocked : (task.step now s).2 ≠ .blocked) : Bare (task.step now s).1 := by
  cases task with
  | ensure point => exact bare_ensure h hengaged (Stepped.ne_blocked_of_map hblocked)
  | ask point => exact bare_ask h now point
  | notify point => exact bare_notify h point
  | stop point => exact bare_stop h hengaged (Stepped.ne_blocked_of_map hblocked)
  | reset point => exact bare_reset h point
  | checkAlive point => exact bare_checkAlive h point

/-- An operation that is given up. -/
theorem bare_cancel (h : Bare s) (task : SessionTask) : Bare (task.cancel s) := by
  have hleave {m : Session} (hm : Bare m) (turns : Turns) : Bare { m with turns } :=
    ⟨hm.writer, hm.pending, hm.connection⟩
  cases task with
  | ensure point =>
    cases point with
    | greeting ticket call => exact hleave (h.settles (call.settles_cancel s)) _
    | confirming ticket send => exact hleave (h.settles (send.settles_cancel s)) _
    | asking | cooling | queued | launching | linked => exact ⟨h.writer, h.pending, h.connection⟩
  | ask point =>
    cases point with
    | starting query => exact h
    | calling query call => exact h.settles (call.settles_cancel s)
  | notify point =>
    cases point with
    | starting notice => exact h
    | sending send => exact h.settles (send.settles_cancel s)
  | stop point =>
    cases point with
    | farewell ticket call => exact hleave (h.settles (call.settles_cancel s)) _
    | exiting ticket send => exact hleave (h.settles (send.settles_cancel s)) _
    | finishing ticket send => exact hleave (h.settles (send.settles_cancel s)) _
    | asking | queued | parting | reaping | killing | draining =>
      exact ⟨h.writer, h.pending, h.connection⟩
  | reset point | checkAlive point =>
    cases point with
    | asking => exact h
    | queued ticket => exact hleave h _

end SessionTask

/-! ### Courses -/

namespace SessionCourse

variable {past : List CourseMoment} {course : SessionCourse} {event : CourseEvent} {i : Nat}

/-- Every event keeps a session bare. -/
theorem Engages.bare_next (hwork : course.Engages) (h : course.shared.Bare) (event : CourseEvent) :
    (sessionRules.next course event).shared.Bare := by
  have hstep {i : Nat} {task : SessionTask} {shared : Session}
      {progress : Progress SessionTask SessionReply} (stands : course.task? i = some task)
      (step : task.step course.now course.shared = (shared, progress))
      (hmoved : progress ≠ .blocked) : shared.Bare := by
    have hbare := SessionTask.bare_step h course.now task
      (fun ticket => hwork.engaged i task ticket stands)
    rw [step] at hbare
    exact hbare hmoved
  have hmoves := sessionRules.next_moves course event
  generalize sessionRules.next course event = course' at hmoves
  cases hmoves with
  | blocks | misses | begins | waits => exact h
  | moves i input task task' shared stands step => exact hstep stands step (by rintro ⟨⟩)
  | finishes i input task result shared stands step => exact hstep stands step (by rintro ⟨⟩)
  | givesUp i task stands => exact SessionTask.bare_cancel h task
  | occurs event => exact h.undergo course.now event

theorem bare_after (settings : SessionSettings) (hello : Except String ClientHello)
    (events : List CourseEvent) :
    (sessionRules.after (start settings hello) events).shared.Bare := by
  refine (sessionRules.history_induction
    (motive := fun _ course => SessionCourse.Engages course ∧ course.shared.Bare) ?_ ?_ events).2
  · exact ⟨engages_after settings hello [], fun _ => rfl, fun _ => rfl, fun _ _ => rfl⟩
  · exact fun past course event h => ⟨h.1.next event, h.1.bare_next h.2 event⟩

end SessionCourse

/-! ### What was in flight -/

/-- What is left for a request whose connection has ended: the reply that it was brought before, or
    that the server is gone. -/
def fate : Option ResponseOutcome → Except SessionError Json
  | some outcome => PendingReply.resultOf outcome
  | none => .error .processExit

/-- An entry of the table was there before, or has a new id. -/
theorem DeskMoves.entries_cases {desk desk' : Desk} (hmoves : DeskMoves desk desk') :
    ∀ id channel, (id, channel) ∈ desk'.pending.entries →
      (id, channel) ∈ desk.pending.entries ∨ desk.nextId ≤ id := by
  induction hmoves with
  | refl => exact fun id channel => .inl
  | @tail before after hmoves hmove ih =>
    intro id channel hentry
    cases hmove with
    | registers pending nextId now method timeout =>
      rcases List.mem_append.mp hentry with hold | hnew
      · exact ih id channel (Pending.entries_remove_subset pending nextId hold)
      · -- The new request has the next id, which only grows.
        obtain ⟨rfl, -⟩ := Prod.mk.inj (List.mem_singleton.mp hnew)
        exact .inr (DeskMoves.id_cases hmoves).1
    | abandons pending nextId reply =>
      exact ih id channel (Pending.entries_remove_subset pending reply.id hentry)
    | settles pending pending' nextId now reply result wait =>
      have hwait := Pending.entries_wait_subset now reply pending
      rw [wait] at hwait
      exact ih id channel (hwait hentry)
    | failsAll =>
      rw [Pending.entries_failAll] at hentry
      cases hentry

/-- Whoever asks a server to shut down is closing the session. -/
theorem StopPoint.closes_of_reply {point : StopPoint} {reply : PendingReply}
    (h : point.reply? = some reply) : ∃ ticket, point.Closes ticket := by
  cases point with
  | farewell ticket call => exact ⟨ticket, rfl⟩
  | asking | queued | parting | exiting | finishing | reaping | killing | draining => cases h

section InFlight

variable {pending : Pending} {first? : Option ResponseOutcome} {reply : PendingReply}

/-- Whoever is not in the table any more is told at once, and always the same. -/
theorem InFlight.told_of_gone (h : InFlight pending first? reply) (hgone : ¬pending.Has reply.id)
    (now : Instant) : reply.wait? now pending = (pending, some (fate first?)) := by
  cases h with
  | registered entry => exact absurd ⟨_, entry⟩ hgone
  | answered outcome _ channel first =>
    simp only [PendingReply.wait?, PendingReply.poll?, channel, first, fate]
  | failed _ channel first =>
    simp only [PendingReply.wait?, PendingReply.poll?, channel, first, fate]

end InFlight

namespace SessionCourse

variable {past : List CourseMoment} {course : SessionCourse} {event : CourseEvent} {i : Nat}
  {id : Nat}

/-- A request with an old id that is not in the table does not come back. -/
theorem not_has_next (hold : id < course.shared.nextId) (hgone : ¬course.shared.pending.Has id)
    (event : CourseEvent) : ¬(sessionRules.next course event).shared.pending.Has id ∧
      course.shared.nextId ≤ (sessionRules.next course event).shared.nextId := by
  have hdesk {shared : Session} {own own' : Option PendingReply}
      (hmoves : DeskMoves (course.shared.desk own) (shared.desk own')) :
      ¬shared.pending.Has id ∧ course.shared.nextId ≤ shared.nextId := by
    refine ⟨?_, hmoves.id_cases.1⟩
    rintro ⟨channel, hentry⟩
    rcases hmoves.entries_cases id channel hentry with hbefore | hnew
    · exact hgone ⟨channel, hbefore⟩
    · exact absurd hold (Nat.not_lt.mpr hnew)
  have hmoves := sessionRules.next_moves course event
  generalize sessionRules.next course event = course' at hmoves
  cases hmoves with
  | blocks | misses | begins | waits => exact ⟨hgone, Nat.le_refl _⟩
  | moves i input task task' shared stands step =>
    have hstep := task.desk_step course.now course.shared
    rw [show task.step course.now course.shared = (shared, .moved task') from step] at hstep
    exact hdesk hstep
  | finishes i input task result shared stands step =>
    have hstep := task.desk_step course.now course.shared
    rw [show task.step course.now course.shared = (shared, .finished result) from step] at hstep
    exact hdesk hstep
  | givesUp i task stands => exact hdesk (task.desk_cancel course.shared)
  | occurs event =>
    show ¬(course.shared.undergo course.now event).pending.Has id ∧ _
    cases hresponse : course.shared.response? event with
    | none => exact hdesk (course.shared.desk_undergo hresponse none)
    | some response =>
      obtain ⟨responseId, outcome⟩ := response
      obtain ⟨link, frames, hundergo⟩ : ∃ link frames, course.shared.undergo course.now event =
          { course.shared.updateLink link fun link => { link with frames } with
            active := true
            pending := course.shared.pendingAfter responseId outcome } :=
        Session.undergo_response hresponse
      have hnext : (course.shared.undergo course.now event).nextId = course.shared.nextId := by
        rw [hundergo]
        rfl
      refine ⟨?_, Nat.le_of_eq hnext.symm⟩
      rw [hundergo]
      rintro ⟨channel, hentry⟩
      refine hgone ⟨channel, ?_⟩
      simp only [pendingAfter] at hentry
      split at hentry
      · exact Pending.entries_resolve_subset _ _ _ hentry
      · exact hentry

/-- A request that is not in the table any more. -/
structure Gone (past : List CourseMoment) (id : Nat) (first? : Option ResponseOutcome)
    (course : SessionCourse) : Prop where
  corresponds : Corresponds past course
  old : id < course.shared.nextId
  gone : ¬course.shared.pending.Has id
  first : firstReply? past id = first?

theorem Gone.next {first? : Option ResponseOutcome} (h : Gone past id first? course)
    (event : CourseEvent) :
    Gone (past ++ [(course, event)]) id first? (sessionRules.next course event) := by
  obtain ⟨hgone, hle⟩ := not_has_next h.old h.gone event
  refine ⟨h.corresponds.next event, Nat.lt_of_lt_of_le h.old hle, hgone, ?_⟩
  -- Nothing is brought to a request that is not in the table.
  have hnothing : CourseMoment.delivery? id (course, event) = none := by
    unfold CourseMoment.delivery?
    split
    · split
      · exact if_neg fun hboth => h.gone hboth.2
      · rfl
    · rfl
  rw [firstReply?_concat, hnothing, Option.or_none, h.first]

theorem Gone.after {first? : Option ResponseOutcome} (h : Gone past id first? course)
    (more : List CourseEvent) : ∃ past', Gone past' id first? (sessionRules.after course more) := by
  induction more using List.reverseRecOn with
  | nil => exact ⟨past, h⟩
  | append_singleton more event ih =>
    obtain ⟨past', h'⟩ := ih
    rw [CrowdRules.after_concat]
    exact ⟨_, h'.next event⟩

/-- What becomes of an operation whose request has its outcome already. -/
structure EndsWith (course : SessionCourse) (i : Nat) (reply : PendingReply)
    (outcome : Except SessionError Json) : Prop where
  /-- The request is not carried over to another connection. -/
  gone : ¬course.shared.pending.Has reply.id
  told : course.replyOf i = some reply → ∀ now,
    reply.wait? now course.shared.pending = (course.shared.pending, some outcome)
  /-- A question that waits for its answer ends with the next step. -/
  ends : ∀ query link, course.task? i = some (.ask (.calling query (.waiting reply link))) →
    (QueryPoint.step course.now (.calling query (.waiting reply link)) course.shared).2 =
      .finished (outcome.bind (QueryPoint.answerOf query))
  /-- A question that ends was told the outcome, or was never sent. -/
  ended : ∀ query call result, course.task? i = some (.ask (.calling query call)) →
    call.reply? = some reply →
    (QueryPoint.step course.now (.calling query call) course.shared).2 = .finished result →
    result = outcome.bind (QueryPoint.answerOf query) ∨ result = .error .processExit

theorem Gone.endsWith {reply : PendingReply} {first? : Option ResponseOutcome}
    (h : Gone past reply.id first? course) (i : Nat) : EndsWith course i reply (fate first?) := by
  have htold (hi : course.replyOf i = some reply) (now : Instant) :
      reply.wait? now course.shared.pending = (course.shared.pending, some (fate first?)) := by
    have hflight := h.corresponds.kept.inFlight i reply hi
    rw [h.first] at hflight
    exact hflight.told_of_gone h.gone now
  refine ⟨h.gone, htold, fun query link hi => ?_, fun query call result hi hreply hended => ?_⟩
  · have hown : course.replyOf i = some reply := by
      rw [replyOf, hi]
      rfl
    simp only [QueryPoint.step, CallPoint.step, htold hown, QueryPoint.afterCall]
    cases (fate first?).bind (QueryPoint.answerOf query) with
    | ok answer => rfl
    | error error => rfl
  · have hown : course.replyOf i = some reply := by
      rw [replyOf, hi]
      exact hreply
    obtain ⟨value, hvalue, rfl⟩ := QueryPoint.finished_afterCall hended
    rcases CallPoint.finished_cases hvalue with ⟨found, pending, hfound, hwait⟩ | rfl
    · obtain rfl := Option.some.inj (hfound.symm.trans hreply)
      rw [htold hown] at hwait
      obtain ⟨-, hsame⟩ := Prod.mk.inj hwait
      exact .inl (by rw [Option.some.inj hsame])
    · exact .inr rfl

/-! ### Handshakes -/

/-- What becomes of a handshake whose request has its outcome already, but whose connection is
    gone: its time is over, or it fails for what it was told. -/
def BreaksOff (now : Instant) (s : Session) (point : EnsurePoint)
    (outcome : Except SessionError Json) (result : Except SessionError Unit) : Prop :=
  (∃ deadline, point.deadline? = some deadline ∧ deadline ≤ now ∧
      result = .error (.handshakeTimeout s.settings.handshakeTimeout)) ∨
    ∃ error : SessionError, result = .error (.handshakeFailed error.message) ∧
      (error = .processExit ∨ outcome = .error error ∨
        ∃ answer, outcome = .ok answer ∧ error = .invalidResult "initialize" "")

theorem fate_ne_requestTimeout (first? : Option ResponseOutcome) (method : String)
    (timeout : Duration) : fate first? ≠ .error (.requestTimeout method timeout) := by
  cases first? with
  | none => rintro ⟨⟩
  | some outcome => cases outcome <;> rintro ⟨⟩

theorem breaksOff {s : Session} {now : Instant} {point : EnsurePoint} {reply : PendingReply}
    {first? : Option ResponseOutcome} {result : Except SessionError Unit}
    (hwriter : s.writer = none)
    (htold : ∀ now, reply.wait? now s.pending = (s.pending, some (fate first?)))
    (hreply : point.reply? = some reply) (hended : (point.step now s).2 = .finished result) :
    BreaksOff now s point (fate first?) result := by
  cases point with
  | asking | queued | cooling | launching | linked | confirming => cases hreply
  | greeting ticket call deadline =>
    have hreply : call.reply? = some reply := hreply
    have hquiet := call.quiet_step now s
    have hsettings := settings_of_core hquiet.core
    -- An error that is no timeout of the request breaks the handshake off as it is.
    have hfail {m : Session} {error : SessionError}
        (hother : ∀ method timeout, error ≠ .requestTimeout method timeout)
        (hended : (EnsurePoint.fail now ticket m error).2 = .finished result) :
        result = .error (.handshakeFailed error.message) := by
      unfold EnsurePoint.fail at hended
      split at hended
      next => exact absurd rfl (hother _ _)
      next => exact (Progress.finished.inj hended).symm
    simp only [EnsurePoint.step] at hended
    split at hended
    next m hstep =>
      split at hended
      next hlate =>
        refine .inl ⟨_, rfl, ?_, ?_⟩
        · cases call.deadline? with
          | none => exact hlate
          | some own => exact Nat.le_trans (Nat.min_le_left deadline own) hlate
        · rw [hstep] at hsettings
          rw [← hsettings, ← settings_of_core (call.quiet_cancel m).core]
          exact (Progress.finished.inj hended).symm
      next => cases hended
    next =>
      -- The request has ended: it was told its outcome, or was never sent.
      have hvalue {value : Except SessionError Json}
          (h : (call.step now s).2 = .finished value) :
          value = fate first? ∨ value = .error .processExit := by
        rcases CallPoint.finished_cases h with ⟨found, pending, hfound, hwait⟩ | hexit
        · obtain rfl := Option.some.inj (hfound.symm.trans hreply)
          rw [htold] at hwait
          exact .inl (Option.some.inj (Prod.mk.inj hwait).2).symm
        · exact .inr hexit
      generalize call.step now s = stepped at hended hvalue hquiet
      obtain ⟨m, progress⟩ := stepped
      cases progress with
      | blocked | moved => cases hended
      | finished value =>
        refine .inr ?_
        cases value with
        | error error =>
          rcases hvalue rfl with hfate | hexit
          · refine ⟨error, hfail (fun method timeout heq => ?_) hended, .inr (.inl hfate.symm)⟩
            exact fate_ne_requestTimeout first? method timeout (heq ▸ hfate.symm)
          · obtain rfl := Except.error.inj hexit
            exact ⟨_, hfail (by rintro _ _ ⟨⟩) hended, .inl rfl⟩
        | ok answer =>
          have hfate : fate first? = .ok answer := by
            rcases hvalue rfl with hfate | hexit
            · exact hfate.symm
            · cases hexit
          have hnone : m.writer = none := hquiet.writer_eq_none hwriter
          simp only [EnsurePoint.afterCall, EnsurePoint.confirm, hnone] at hended
          split at hended
          · exact ⟨_, hfail (by rintro _ _ ⟨⟩) hended, .inr (.inr ⟨answer, hfate, rfl⟩)⟩
          · exact ⟨_, hfail (by rintro _ _ ⟨⟩) hended, .inl rfl⟩

/-- **Nothing in flight on a dead session.**  Any course of a session, whatever its servers do,
    whoever calls it and whoever gives up: while it is idle, spawning, crashed or closed, it has no
    writer and no request is in the table, and there is no connection unless it has just crashed.
    Whatever was in flight then has its outcome, which is the reply that it was brought before, or
    that the server is gone: it is never in the table again, whatever comes later, a question that
    waits ends with the next step, and a handshake ends with this outcome or with its own timeout.
    No request to shut down is in flight. -/
theorem nothing_in_flight_after (settings : SessionSettings) (hello : Except String ClientHello)
    (events : List CourseEvent) :
    let past := sessionRules.history (start settings hello) events
    let course : SessionCourse := sessionRules.after (start settings hello) events
    course.shared.Bare ∧ (course.shared.state.isDead = true →
      ∀ i reply, course.replyOf i = some reply →
        (∀ more, EndsWith (sessionRules.after course more) i reply
          (fate (firstReply? past reply.id))) ∧
        (∀ point result, course.task? i = some (.ensure point) →
          (point.step course.now course.shared).2 = .finished result →
            BreaksOff course.now course.shared point (fate (firstReply? past reply.id)) result) ∧
        ∀ point, course.task? i ≠ some (.stop point)) := by
  intro past course
  have hbare : course.shared.Bare := bare_after settings hello events
  have hcorresponds : Corresponds past course := corresponds_after settings hello events
  refine ⟨hbare, fun hdead i reply hi => ?_⟩
  have hgone : Gone past reply.id (firstReply? past reply.id) course := by
    refine ⟨hcorresponds, (hcorresponds.kept.reply_lt i reply hi).1, ?_, rfl⟩
    rintro ⟨channel, hentry⟩
    rw [hbare.pending hdead] at hentry
    cases hentry
  refine ⟨fun more => ?_, fun point result hpoint hended => ?_, fun point hpoint => ?_⟩
  · obtain ⟨past', hgone'⟩ := hgone.after more
    exact hgone'.endsWith i
  · have hreply : point.reply? = some reply := by
      rw [replyOf, hpoint] at hi
      exact hi
    exact breaksOff (hbare.writer hdead) ((hgone.endsWith i).told hi) hreply hended
  · rw [replyOf, hpoint] at hi
    obtain ⟨ticket, hcloses⟩ := StopPoint.closes_of_reply hi
    cases (engages_after settings hello events).engaged i _ ticket hpoint hcloses with
    | closing _ _ _ state =>
      rw [show course.shared.state = .closing from state] at hdead
      cases hdead

end SessionCourse
end SymbolSearch
