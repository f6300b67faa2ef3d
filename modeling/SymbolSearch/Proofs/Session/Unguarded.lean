import SymbolSearch.Session.Task

/-!
# Runs of a session, and what goes on in them without the guard

Any number of operations on one session go on side by side, each from one point where it may have
to wait to the next, while servers are launched, talk, fall silent and end, and time passes.

* `SessionRun` — a session, the operations on it, and the time.
* `SessionEvent` — one thing that happens; `SessionRun.next` is what it does. No operation is given
  up on the way.
* `SessionRun.after` — what any list of events leads to from a new session.

Questions, notifications, readers and writers go on whoever has the guard of a session.  This file
says once what they leave alone.

* `Session.Keeps` — the guard, the connection and the number of links stay, no writer is added, and
  no reader comes back.
* `Session.Quiet` — the state stays as well, and all of `Session.core`. Sending, asking and writing
  are quiet.
* `Session.Drift` — the state stays, or moves between ready and degraded, or a reader that was
  there has found that the connection is lost.
-/

namespace SymbolSearch

/-! ### Runs -/

/-- An operation on a session that someone asks for. -/
inductive SessionCall where
  | ensure
  | ask (query : Query)
  | notify (notice : Notice)
  | stop
  | reset
  | checkAlive

/-- The operation before its first step. -/
def SessionCall.task : SessionCall → SessionTask
  | .ensure => .ensure .asking
  | .ask query => .ask (.starting query)
  | .notify notice => .notify (.starting notice)
  | .stop => .stop .asking
  | .reset => .reset .asking
  | .checkAlive => .checkAlive .asking

/-- A session, the operations on it, and the time. -/
structure SessionRun where
  session : Session
  tasks : List (Standing SessionTask SessionReply) := []
  now : Instant := 0

/-- One thing that happens to a session. -/
inductive SessionEvent where
  | begin (call : SessionCall)
  /-- An operation goes on, if it can. -/
  | step (index : Nat)
  /-- A launch that was asked for has a result. -/
  | launched (result : Except SessionError ServerProcess)
  /-- The server of a link says something, or its stream ends. -/
  | hear (link : LinkId) (said : SourceRead)
  /-- The reader of a link goes on with what it has. -/
  | read (link : LinkId)
  /-- The writer of a link goes on to the next message. -/
  | write (link : LinkId)
  /-- The server of a link takes bytes from the writer. -/
  | written (link : LinkId) (count : Nat)
  /-- The server of a link takes no more bytes. -/
  | writeFails (link : LinkId)
  | processEnds (link : LinkId)
  | wait (time : Duration)

namespace SessionRun

/-- A new session that nobody uses. -/
def start (settings : SessionSettings) (hello : Except String ClientHello) : SessionRun :=
  { session := { settings, hello } }

/-- Changes the session. -/
def withSession (run : SessionRun) (change : Session → Session) : SessionRun :=
  { run with session := change run.session }

/-- An operation has gone on. -/
def setTask (run : SessionRun) (index : Nat) (session : Session)
    (standing : Standing SessionTask SessionReply) : SessionRun :=
  { run with session, tasks := run.tasks.set index standing }

/-- What a step of an operation comes to; nothing, if it has to wait. -/
def goOn (run : SessionRun) (index : Nat) :
    Stepped Session SessionTask SessionReply → SessionRun
  | (_, .blocked) => run
  | (session, .moved task) => run.setTask index session (.waiting task)
  | (session, .finished reply) => run.setTask index session (.ended reply)

/-- What an event does. Nothing happens where it cannot. -/
def next (run : SessionRun) : SessionEvent → SessionRun
  | .begin call => { run with tasks := run.tasks ++ [.waiting call.task] }
  | .step index =>
    match run.tasks[index]? with
    | some (.waiting task) => run.goOn index (task.step run.now run.session)
    | _ => run
  | .launched result =>
    match run.session.launch with
    | .wanted => run.withSession fun session => { session with launch := .finished result }
    | _ => run
  | .hear link said => run.withSession (·.hear link run.now said)
  | .read link => run.withSession fun session => (session.stepReader link run.now).1
  | .write link => run.withSession fun session => (session.stepWriter link).1
  | .written link count => run.withSession (·.updateLink link (·.written count))
  | .writeFails link => run.withSession (·.updateLink link Link.stopWriter)
  | .processEnds link =>
    run.withSession (·.updateLink link fun link => { link with process := .ended })
  | .wait time => { run with now := run.now + time }

/-- What a list of events leads to from a new session. -/
def after (settings : SessionSettings) (hello : Except String ClientHello)
    (events : List SessionEvent) : SessionRun :=
  events.foldl next (start settings hello)

/-- A property of new sessions that every event keeps holds after any events. -/
theorem after_induction {motive : SessionRun → Prop} (settings : SessionSettings)
    (hello : Except String ClientHello) (events : List SessionEvent)
    (hstart : motive (start settings hello))
    (hnext : ∀ run event, motive run → motive (run.next event)) :
    motive (after settings hello events) := by
  have hfold (run : SessionRun) (hrun : motive run) : motive (events.foldl next run) := by
    induction events generalizing run with
    | nil => exact hrun
    | cons event rest ih => exact ih (run.next event) (hnext run event hrun)
  exact hfold _ hstart

end SessionRun

/-! ### What goes on without the guard -/

namespace Session

/-- Whether the reader of a link is still there. -/
def ReaderAlive (s : Session) (k : LinkId) : Prop :=
  ∃ link, s.links[k]? = some link ∧ link.readerDone = false

/-- What is left alone by everyone who does not have the guard. -/
structure Keeps (s s' : Session) : Prop where
  turns : s'.turns = s.turns
  connection : s'.connection = s.connection
  writer : s'.writer = s.writer ∨ s'.writer = none
  length : s'.links.length = s.links.length
  readers : ∀ k, s'.ReaderAlive k → s.ReaderAlive k

/-- The part of a session that neither sending nor asking nor writing touches. -/
def core (s : Session) : Session :=
  { s with
    writer := none
    pending := {}
    nextId := 1
    links := []
    launch := .none
    active := false
    listeners := [] }

/-- What is left alone by those who do not look at the state. -/
structure Quiet (s s' : Session) : Prop extends Keeps s s' where
  state : s'.state = s.state
  core : s'.core = s.core

/-- The changes of the state that need no guard. -/
inductive StateDrift (s s' : Session) : Prop where
  | stays (h : s'.state = s.state)
  | degraded (h : s.state = .ready) (h' : s'.state = .degraded)
  | recovered (h : s.state = .degraded) (h' : s'.state = .ready)
  | lost (h : s.state ∈ [.spawning, .handshaking, .ready, .degraded]) (h' : s'.state = .crashed)
      (writer : s'.writer = none) (reader : ∃ k, s.ReaderAlive k)

/-- What happens to a session without the guard. -/
structure Drift (s s' : Session) : Prop extends Keeps s s' where
  state : StateDrift s s'

variable {s m s' : Session} {id : LinkId}

theorem Keeps.refl (s : Session) : Keeps s s := ⟨rfl, rfl, .inl rfl, rfl, fun _ h => h⟩

theorem Keeps.trans (h : Keeps s m) (h' : Keeps m s') : Keeps s s' where
  turns := h'.turns.trans h.turns
  connection := h'.connection.trans h.connection
  writer := by
    rcases h'.writer with hsame | hnone
    · rw [hsame]
      exact h.writer
    · exact .inr hnone
  length := h'.length.trans h.length
  readers := fun k hk => h.readers k (h'.readers k hk)

/-- No writer comes back without the guard. -/
theorem Keeps.writer_eq_none (h : Keeps s s') (hnone : s.writer = none) : s'.writer = none := by
  rcases h.writer with hsame | hnone'
  · rw [hsame, hnone]
  · exact hnone'

theorem Quiet.refl (s : Session) : Quiet s s := ⟨.refl s, rfl, rfl⟩

theorem Quiet.trans (h : Quiet s m) (h' : Quiet m s') : Quiet s s' :=
  ⟨h.toKeeps.trans h'.toKeeps, h'.state.trans h.state, h'.core.trans h.core⟩

theorem Quiet.drift (h : Quiet s s') : Drift s s' := ⟨h.toKeeps, .stays h.state⟩

/-- Nobody begins to start a server without the guard. -/
theorem StateDrift.eq_of_starting (h : StateDrift s s')
    (hstarting : s'.state = .spawning ∨ s'.state = .handshaking) : s.state = s'.state := by
  cases h with
  | stays hstays => exact hstays.symm
  | degraded _ hdegraded => simp [hdegraded] at hstarting
  | recovered _ hready => simp [hready] at hstarting
  | lost _ hcrashed => simp [hcrashed] at hstarting

theorem Quiet.trans_drift (h : Quiet s m) (h' : Drift m s') : Drift s s' where
  toKeeps := h.toKeeps.trans h'.toKeeps
  state := by
    cases h'.state with
    | stays hstate => exact .stays (hstate.trans h.state)
    | degraded hready hdegraded => exact .degraded (h.state ▸ hready) hdegraded
    | recovered hdegraded hready => exact .recovered (h.state ▸ hdegraded) hready
    | lost hbefore hcrashed hwriter hreader =>
      obtain ⟨k, hk⟩ := hreader
      exact .lost (h.state ▸ hbefore) hcrashed hwriter ⟨k, h.readers k hk⟩

theorem Drift.trans_quiet (h : Drift s m) (h' : Quiet m s') : Drift s s' where
  toKeeps := h.toKeeps.trans h'.toKeeps
  state := by
    cases h.state with
    | stays hstate => exact .stays (h'.state.trans hstate)
    | degraded hready hdegraded => exact .degraded hready (h'.state.trans hdegraded)
    | recovered hdegraded hready => exact .recovered hdegraded (h'.state.trans hready)
    | lost hbefore hcrashed hwriter hreader =>
      exact .lost hbefore (h'.state.trans hcrashed) (h'.writer_eq_none hwriter) hreader

/-! ### Links -/

/-- A change of a link that does not bring its reader back. -/
theorem quiet_updateLink (s : Session) (id : LinkId) (change : Link → Link)
    (h : ∀ link, s.links[id]? = some link → (change link).readerDone = false →
      link.readerDone = false) : Quiet s (s.updateLink id change) where
  turns := rfl
  connection := rfl
  writer := .inl rfl
  length := List.length_modify _ _ _
  readers := by
    rintro k ⟨link, hlink, halive⟩
    simp only [updateLink, List.getElem?_modify] at hlink
    cases hfound : s.links[k]? with
    | none =>
      rw [hfound] at hlink
      cases hlink
    | some found =>
      rw [hfound] at hlink
      -- Only the link with the id is changed.
      by_cases hk : id = k
      · subst hk
        simp only [if_true, Option.map_eq_map, Option.map_some, Option.some.injEq] at hlink
        subst hlink
        exact ⟨found, hfound, h found hfound halive⟩
      · simp only [if_neg hk, Option.map_eq_map, Option.map_some, Option.some.injEq] at hlink
        subst hlink
        exact ⟨found, hfound, halive⟩
  state := rfl
  core := rfl

theorem quiet_updateOutbox (s : Session) (id : LinkId)
    (change : Outbox Outgoing → Outbox Outgoing) : Quiet s (s.updateOutbox id change) :=
  quiet_updateLink s id _ fun _ _ h => h

theorem quiet_releaseWriter (s : Session) : Quiet s s.releaseWriter := by
  unfold releaseWriter
  split
  next link _ =>
    have h := quiet_updateOutbox s link Outbox.release
    exact { h with writer := .inr rfl }
  next => exact .refl s

end Session

/-! ### Sending and asking -/

namespace SendPoint

open Session

theorem quiet_begin (s : Session) (link : LinkId) (item : Outgoing) :
    Quiet s (SendPoint.begin s link item).1 := by
  unfold SendPoint.begin
  split
  · exact .refl s
  · split
    all_goals dsimp only
    · exact quiet_updateOutbox s link _
    · exact .refl s
    · exact quiet_updateOutbox s link _

theorem quiet_step (point : SendPoint) (s : Session) : Quiet s (point.step s).1 := by
  unfold SendPoint.step
  split
  · exact .refl s
  · split
    all_goals dsimp only
    · exact quiet_updateOutbox s point.link _
    · exact quiet_updateOutbox s point.link _
    · exact .refl s

theorem quiet_cancel (point : SendPoint) (s : Session) : Quiet s (point.cancel s) :=
  quiet_updateOutbox s point.link _

end SendPoint

namespace CallPoint

open Session

theorem quiet_refuse (s : Session) (reply : PendingReply) (link : LinkId) :
    Quiet s (refuse s reply link).1 :=
  { quiet_updateOutbox s link Outbox.release with }

theorem quiet_step (now : Instant) (point : CallPoint) (s : Session) :
    Quiet s (point.step now s).1 := by
  cases point with
  | starting call timeout =>
    simp only [step]
    cases hwriter : s.writer with
    | none => exact .refl s
    | some link =>
      dsimp only
      -- A sender, a request in the table and a message: none of them touches the state.
      have hregister : Quiet s { s.updateOutbox link Outbox.retain with
          nextId := s.nextId + 1
          pending := (s.pending.register now s.nextId call.method timeout).1 } :=
        { quiet_updateOutbox s link Outbox.retain with }
      have hsend := hregister.trans
        (SendPoint.quiet_begin _ link (.request s.nextId call))
      split
      next hbegin => rwa [hbegin] at hsend
      next hbegin =>
        rw [hbegin] at hsend
        exact hsend.trans (quiet_refuse _ _ link)
      next hbegin => rwa [hbegin] at hsend
      next hbegin => rwa [hbegin] at hsend
  | sending reply send =>
    simp only [step]
    have hsend := send.quiet_step s
    split
    next hstep => rwa [hstep] at hsend
    next hstep =>
      rw [hstep] at hsend
      exact hsend.trans (quiet_refuse _ reply send.link)
    next hstep => rwa [hstep] at hsend
    next hstep => rwa [hstep] at hsend
  | waiting reply link =>
    simp only [step]
    split
    next => exact { quiet_updateOutbox s link Outbox.release with }
    next => exact .refl s

theorem quiet_cancel (point : CallPoint) (s : Session) : Quiet s (point.cancel s) := by
  cases point with
  | starting call timeout => exact .refl s
  | sending reply send =>
    have h := (send.quiet_cancel s).trans (quiet_updateOutbox _ send.link Outbox.release)
    exact { h with }
  | waiting reply link => exact { quiet_updateOutbox s link Outbox.release with }

end CallPoint

/-! ### States -/

namespace Session

variable {s : Session} {id : LinkId}

theorem Keeps.markCrashed (s : Session) (now : Instant) : Keeps s (s.markCrashed now) := by
  have h := quiet_releaseWriter s
  exact { h with }

theorem writer_releaseWriter (s : Session) : s.releaseWriter.writer = none := by
  unfold releaseWriter
  split
  · rfl
  · assumption

theorem drift_recordFailure (s : Session) : Drift s s.recordFailure where
  toKeeps := { Keeps.refl s with }
  state := by
    by_cases h : s.settings.degradedAfter ≤ s.failures + 1 ∧ s.state = .ready
    · exact .degraded h.2 (by simp [recordFailure, h])
    · exact .stays (by simpa [recordFailure] using fun hlimit hready => absurd ⟨hlimit, hready⟩ h)

theorem drift_recordSuccess (s : Session) : Drift s s.recordSuccess where
  toKeeps := { Keeps.refl s with }
  state := by
    by_cases h : s.state = .degraded
    · exact .recovered h (by simp [recordSuccess, h])
    · exact .stays (by simp [recordSuccess, h])

theorem readerDone_stopReader (link : Link) : link.stopReader.readerDone = true := by
  unfold Link.stopReader
  split
  next h => simp [Link.readerDone, h]
  next => rfl
  next => rfl

theorem quiet_stopReader (s : Session) (id : LinkId) :
    Quiet s (s.updateLink id Link.stopReader) := by
  refine quiet_updateLink s id _ fun link _ h => ?_
  rw [readerDone_stopReader] at h
  cases h

theorem drift_transportClosed (now : Instant) (halive : s.ReaderAlive id) :
    Drift s (s.transportClosed id now) := by
  unfold transportClosed
  split
  · -- The latest link ends: in four states that is a crash, in the others it is no news.
    have hcrash (h : s.state ∈ [.spawning, .handshaking, .ready, .degraded]) :
        Drift s (s.markCrashed now) :=
      ⟨.markCrashed s now, .lost h rfl (writer_releaseWriter s) ⟨id, halive⟩⟩
    split
    next h => exact hcrash (by simp [h])
    next h => exact hcrash (by simp [h])
    next h => exact hcrash (by simp [h])
    next h => exact hcrash (by simp [h])
    next => exact (Quiet.refl s).drift
  · exact (Quiet.refl s).drift

/-! ### Readers and writers -/

theorem drift_endReader (now : Instant) (halive : s.ReaderAlive id) :
    Drift s (s.endReader id now) :=
  (drift_transportClosed now halive).trans_quiet (quiet_stopReader _ id)

theorem readerAlive_updateLink (change : Link → Link) (halive : s.ReaderAlive id)
    (hchange : ∀ link, link.readerDone = false → (change link).readerDone = false) :
    (s.updateLink id change).ReaderAlive id := by
  obtain ⟨link, hlink, hreader⟩ := halive
  refine ⟨change link, ?_, hchange link hreader⟩
  simp [updateLink, hlink]

/-- A reader that is there may wait for room. -/
theorem quiet_setReader (point : ReaderPoint) (halive : s.ReaderAlive id) :
    Quiet s (s.setReader id point) := by
  refine quiet_updateLink s id _ fun link hlink _ => ?_
  obtain ⟨found, hfound, hreader⟩ := halive
  rw [hlink] at hfound
  rwa [Option.some.inj hfound]

theorem quiet_sendReply (reply : Json) (halive : s.ReaderAlive id) :
    Quiet s (s.sendReply id reply) := by
  unfold sendReply
  split
  · exact .refl s
  next link hlink =>
    split
    next outbox ticket _ =>
      refine (quiet_updateOutbox s id fun _ => outbox).trans (quiet_setReader _ ?_)
      exact readerAlive_updateLink _ halive fun _ h => h
    next outbox _ _ _ => exact quiet_updateOutbox s id fun _ => outbox

theorem quiet_dispatch (message : Message) (halive : s.ReaderAlive id) :
    Quiet s (s.dispatch id message) := by
  cases message with
  | response responseId outcome =>
    simp only [dispatch]
    split
    · exact { Quiet.refl s with }
    · exact .refl s
  | request requestId method params => exact quiet_sendReply _ halive
  | notification method params => exact { Quiet.refl s with }

theorem drift_handleItem (now : Instant) (item : FrameReader.Item) (halive : s.ReaderAlive id) :
    Drift s (s.handleItem id now item) := by
  cases item with
  | ended => exact drift_endReader now halive
  | failed reason => exact drift_endReader now halive
  | event event =>
    cases event with
    | frame frame =>
      have hactive : Quiet s { s with active := true } := { Quiet.refl s with }
      simp only [handleItem, handleEvent]
      split
      next message _ => exact (hactive.trans (quiet_dispatch message (by exact halive))).drift
      next => exact hactive.trans_drift (drift_recordFailure _)
    | error error =>
      cases error with
      | unexpectedEnd => exact drift_endReader now halive
      | missingLength | invalidLength | oversized | headerTooLong | invalidJson =>
        exact drift_recordFailure s

theorem drift_advanceReader (now : Instant) (read : Option FrameReader.Item × FrameReader)
    (halive : s.ReaderAlive id) : Drift s (s.advanceReader id now read) := by
  have hframes : Quiet s (s.updateLink id fun link => { link with frames := read.2 }) :=
    quiet_updateLink s id _ fun _ _ h => h
  unfold advanceReader
  split
  next item _ =>
    exact hframes.trans_drift
      (drift_handleItem now item (readerAlive_updateLink _ halive fun _ h => h))
  next => exact hframes.drift

theorem readerAlive_of_wantsRead {link : Link} (hlink : s.links[id]? = some link)
    (hwants : link.wantsRead = true) : s.ReaderAlive id := by
  refine ⟨link, hlink, ?_⟩
  unfold Link.wantsRead at hwants
  split at hwants
  next hreading => simp [Link.readerDone, hreading]
  next => cases hwants

/-- What a server says, and the end of what it says. -/
theorem drift_hear (s : Session) (id : LinkId) (now : Instant) (said : SourceRead) :
    Drift s (s.hear id now said) := by
  unfold hear
  split
  next link hlink =>
    split
    next hwants => exact drift_advanceReader now _ (readerAlive_of_wantsRead hlink hwants)
    next => exact (Quiet.refl s).drift
  next => exact (Quiet.refl s).drift

theorem drift_stepReader (s : Session) (id : LinkId) (now : Instant) :
    Drift s (s.stepReader id now).1 := by
  unfold stepReader
  split
  next => exact (Quiet.refl s).drift
  next link hlink =>
    split
    next => exact (Quiet.refl s).drift
    next reply ticket hreplying =>
      have halive : s.ReaderAlive id := ⟨link, hlink, by simp [Link.readerDone, hreplying]⟩
      split
      next => exact (Quiet.refl s).drift
      next outbox _ _ _ =>
        have hsent := quiet_updateOutbox s id fun _ => outbox
        exact (hsent.trans (quiet_setReader _ (readerAlive_updateLink _ halive fun _ h => h))).drift
    next hreading =>
      have halive : s.ReaderAlive id := ⟨link, hlink, by simp [Link.readerDone, hreading]⟩
      split
      next => exact (Quiet.refl s).drift
      next => exact drift_advanceReader now _ halive

theorem reader_stepWriter (link : Link) : link.stepWriter.1.reader = link.reader := by
  unfold Link.stepWriter
  repeat' split
  all_goals rfl

theorem reader_written (link : Link) (count : Nat) : (link.written count).reader = link.reader := by
  unfold Link.written
  split <;> rfl

theorem quiet_stepWriter (s : Session) (id : LinkId) : Quiet s (s.stepWriter id).1 := by
  unfold stepWriter
  split
  next => exact .refl s
  next link hlink =>
    refine quiet_updateLink s id _ fun found hfound h => ?_
    obtain rfl : link = found := Option.some.inj (hlink.symm.trans hfound)
    rwa [Link.readerDone, reader_stepWriter] at h

/-- A reader that has ended does nothing more, whatever the server says. -/
theorem hear_eq_self (now : Instant) (said : SourceRead) (h : ¬s.ReaderAlive id) :
    s.hear id now said = s := by
  unfold hear
  split
  next link hlink => exact if_neg fun hwants => h (readerAlive_of_wantsRead hlink hwants)
  next => rfl

theorem stepReader_eq_self (now : Instant) (h : ¬s.ReaderAlive id) :
    (s.stepReader id now).1 = s := by
  unfold stepReader
  split
  next => rfl
  next link hlink =>
    have hdone : link.readerDone = true :=
      eq_true_of_ne_false fun hreader => h ⟨link, hlink, hreader⟩
    unfold Link.readerDone at hdone
    split at hdone
    next hreader => simp only [hreader]
    next => cases hdone

end Session

/-! ### Questions and notifications -/

open Session

theorem QueryPoint.drift_step (now : Instant) (point : QueryPoint) (s : Session) :
    Drift s (point.step now s).1 := by
  have hafter (query : Query) (stepped : Stepped Session CallPoint (Except SessionError Json))
      (h : Quiet s stepped.1) : Drift s (QueryPoint.afterCall query stepped).1 := by
    obtain ⟨m, progress⟩ := stepped
    cases progress with
    | blocked => exact h.drift
    | moved call => exact h.drift
    | finished result =>
      simp only [QueryPoint.afterCall, QueryPoint.finish]
      split
      · exact h.trans_drift (drift_recordSuccess m)
      · dsimp only
        split
        · exact h.trans_drift (drift_recordFailure m)
        · exact h.drift
  cases point with
  | starting query =>
    simp only [QueryPoint.step]
    split
    · exact hafter query _ (CallPoint.quiet_step now _ s)
    · exact (Quiet.refl s).drift
  | calling query call => exact hafter query _ (call.quiet_step now s)

theorem NoticePoint.quiet_step (point : NoticePoint) (s : Session) :
    Quiet s (point.step s).1 := by
  cases point with
  | starting notice =>
    simp only [NoticePoint.step]
    split
    · split
      next => exact .refl s
      next link _ =>
        have hsend := SendPoint.quiet_begin s link (.notice notice)
        split
        all_goals
          next hbegin => rwa [hbegin] at hsend
    · exact .refl s
  | sending send =>
    simp only [NoticePoint.step]
    have hsend := send.quiet_step s
    split
    all_goals
      next hstep => rwa [hstep] at hsend

end SymbolSearch
