import SymbolSearch.Proofs.Session.Account
import SymbolSearch.Proofs.Session.Engaged
import SymbolSearch.Proofs.Session.Requests

/-!
# Failures in a row

A session is degraded when enough failures have come in a row.

* `CourseMoment.mark?` — what a moment of a course is for the row: a failure, or one of the things
  that end it. It is read off results of operations and items of streams; `failureRow` is the number
  of failures since the last end.
* `Session.Counts` — what an event does to the state and the number that the session keeps, and
  `SessionCourse.counts_next` shows it of every event.
* `SessionCourse.tracks_failures_after` — any course: the session keeps the length of the row, and
  is degraded from the failure that makes it long enough until a success, a crash or a shutdown.
-/

namespace SymbolSearch

/-! ### The row -/

/-- What something that happens is for the row of failures. -/
inductive Mark where
  | failure
  /-- A question was answered. -/
  | success
  /-- A handshake was confirmed. -/
  | greeting
  | reset
  deriving DecidableEq

/-- The length of the row after something has happened. -/
def Mark.count (row : Nat) : Option Mark → Nat
  | some .failure => row + 1
  | some _ => 0
  | none => row

/-- Whether an item of the stream is one that the session cannot make sense of. -/
def FrameReader.Item.isFault : FrameReader.Item → Bool
  | .event (.frame frame) =>
    match Message.classify frame.value with
    | .ok _ => false
    | .error _ => true
  | .event (.error .unexpectedEnd) => false
  | .event (.error _) => true
  | .ended | .failed _ => false

/-- What a step of an operation is for the row. -/
def SessionTask.mark? (task : SessionTask) : Progress SessionTask SessionReply → Option Mark
  | .finished (.answered (.ok _)) => some .success
  | .finished (.answered (.error error)) => if error.countsAsFailure then some .failure else none
  | .finished (.ensured (.ok _)) => if task.starts then some .greeting else none
  | .finished (.wasReset true) => some .reset
  | _ => none

/-- What a moment is for the row. -/
def CourseMoment.mark? (moment : CourseMoment) : Option Mark :=
  match moment.2 with
  | .occur event =>
    if (moment.1.shared.item? event).any FrameReader.Item.isFault then some .failure else none
  | _ => (sessionRules.step? moment).bind fun (_, task, progress) => task.mark? progress

/-- Whether a moment is a step of closing the session. -/
def CourseMoment.Closes (moment : CourseMoment) : Prop :=
  ∃ i point progress, sessionRules.step? moment = some (i, .stop point, progress)

/-- The number of failures since the last moment that ended a row. -/
def failureRow (past : List CourseMoment) : Nat :=
  past.foldl (fun row moment => Mark.count row moment.mark?) 0

theorem failureRow_concat (past : List CourseMoment) (moment : CourseMoment) :
    failureRow (past ++ [moment]) = Mark.count (failureRow past) moment.mark? := by
  rw [failureRow, List.foldl_append]
  rfl

/-! ### What counts -/

/-- What decides whether a session is degraded. -/
structure Tally where
  settings : SessionSettings
  state : SessionState
  failures : Nat

namespace Session

/-- What a session knows about its failures. -/
def tally (s : Session) : Tally := ⟨s.settings, s.state, s.failures⟩

/-- What a session does about something. Whoever does it may be closing the session. -/
inductive Counts (closing : Prop) (s s' : Session) : Option Mark → Prop where
  | stays (tally : s'.tally = s.tally) : Counts closing s s' none
  | goes (tally : s'.tally = { s.tally with state := s'.state })
      (after : s'.state ≠ .ready ∧ s'.state ≠ .degraded)
      (before : s'.state = .crashed ∨ s'.state = .closing ∧ closing ∨
        s.state ≠ .ready ∧ s.state ≠ .degraded) : Counts closing s s' none
  | fails (tally : s'.tally = s.recordFailure.tally) : Counts closing s s' (some .failure)
  | succeeds (tally : s'.tally = s.recordSuccess.tally) : Counts closing s s' (some .success)
  | greets (starting : s.state = .handshaking ∨ s.state = .crashed)
      (tally : s'.tally = ⟨s.settings, .ready, 0⟩) : Counts closing s s' (some .greeting)
  | resets (ended : s.state = .crashed ∨ s.state = .closed)
      (tally : s'.tally = ⟨s.settings, .idle, 0⟩) : Counts closing s s' (some .reset)

variable {s m s' s'' : Session} {now : Instant} {closing : Prop} {id : LinkId} {mark : Option Mark}

theorem tally_of_core (h : s'.core = s.core) : s'.tally = s.tally := (congrArg Session.tally h :)

theorem tally_recordFailure (h : m.tally = s.tally) :
    m.recordFailure.tally = s.recordFailure.tally := by
  have hsettings : m.settings = s.settings := (congrArg Tally.settings h :)
  have hstate : m.state = s.state := (congrArg Tally.state h :)
  have hfailures : m.failures = s.failures := (congrArg Tally.failures h :)
  simp only [tally, recordFailure, hsettings, hstate, hfailures]

theorem tally_recordSuccess (h : m.tally = s.tally) :
    m.recordSuccess.tally = s.recordSuccess.tally := by
  have hsettings : m.settings = s.settings := (congrArg Tally.settings h :)
  have hstate : m.state = s.state := (congrArg Tally.state h :)
  simp only [tally, recordSuccess, hsettings, hstate]

theorem tally_markCrashed (s : Session) (now : Instant) :
    (s.markCrashed now).tally = { s.tally with state := .crashed } :=
  (congrArg Session.tally (core_markCrashed s now) :)

theorem tally_dropConnection (s : Session) : s.dropConnection.tally = s.tally := by
  unfold dropConnection
  split <;> rfl

/-- Nothing but the tally matters. -/
theorem Counts.congr (h : Counts closing m s' mark) (hbefore : m.tally = s.tally)
    (hafter : s''.tally = s'.tally) : Counts closing s s'' mark := by
  have hsettings : m.settings = s.settings := (congrArg Tally.settings hbefore :)
  have hstate : m.state = s.state := (congrArg Tally.state hbefore :)
  have hstate' : s''.state = s'.state := (congrArg Tally.state hafter :)
  cases h with
  | stays tally => exact .stays (hafter.trans (tally.trans hbefore))
  | goes tally after before =>
    refine .goes ?_ (hstate' ▸ after) (hstate' ▸ hstate ▸ before)
    rw [hafter, tally, hbefore, hstate']
  | fails tally => exact .fails (hafter.trans (tally.trans (tally_recordFailure hbefore)))
  | succeeds tally => exact .succeeds (hafter.trans (tally.trans (tally_recordSuccess hbefore)))
  | greets starting tally => exact .greets (hstate ▸ starting) (hafter.trans (hsettings ▸ tally))
  | resets ended tally => exact .resets (hstate ▸ ended) (hafter.trans (hsettings ▸ tally))

theorem Quiet.tally (h : Quiet s s') : s'.tally = s.tally := tally_of_core h.core

theorem Quiet.counts (h : Quiet s s') : Counts closing s s' none := .stays h.tally

theorem Quiet.trans_counts (h : Quiet s m) (h' : Counts closing m s' mark) :
    Counts closing s s' mark := h'.congr h.tally rfl

/-- The end of a connection that nobody asked for. -/
theorem counts_crashed (h : s'.tally = { s.tally with state := .crashed }) :
    Counts closing s s' none := by
  have hstate : s'.state = .crashed := (congrArg Tally.state h :)
  refine .goes (by rw [h, hstate]) ?_ (.inl hstate)
  simp [hstate]

/-- A session goes from a state in which it takes no requests to another one. -/
theorem counts_elsewhere (h : s'.tally = { s.tally with state := s'.state })
    (hbefore : s.state ≠ .ready ∧ s.state ≠ .degraded)
    (hafter : s'.state ≠ .ready ∧ s'.state ≠ .degraded) : Counts closing s s' none :=
  .goes h hafter (.inr (.inr hbefore))

/-! ### Readers -/

theorem counts_endReader (s : Session) (id : LinkId) (now : Instant) :
    Counts closing s (s.endReader id now) none := by
  have hreader := (quiet_stopReader (s.transportClosed id now) id).tally
  have hlost : Counts closing s (s.markCrashed now) none :=
    counts_crashed (tally_markCrashed s now)
  have hclosed : Counts closing s (s.transportClosed id now) none := by
    unfold transportClosed
    split
    · split
      · exact hlost
      · exact hlost
      · exact hlost
      · exact hlost
      · exact .stays rfl
    · exact .stays rfl
  exact hclosed.congr rfl hreader

theorem counts_handleItem (now : Instant) (item : FrameReader.Item) (halive : s.ReaderAlive id) :
    Counts closing s (s.handleItem id now item)
      (if item.isFault then some .failure else none) := by
  cases item with
  | ended => exact counts_endReader s id now
  | failed reason => exact counts_endReader s id now
  | event event =>
    cases event with
    | frame frame =>
      have hactive : Quiet s { s with active := true } := { Quiet.refl s with }
      cases hmessage : Message.classify frame.value with
      | ok message =>
        simp only [handleItem, handleEvent, FrameReader.Item.isFault, hmessage]
        exact (hactive.trans (quiet_dispatch message (by exact halive))).counts
      | error error =>
        simp only [handleItem, handleEvent, FrameReader.Item.isFault, hmessage]
        exact hactive.trans_counts (.fails rfl)
    | error error =>
      cases error with
      | unexpectedEnd => exact counts_endReader s id now
      | missingLength | invalidLength | oversized | headerTooLong | invalidJson => exact .fails rfl

theorem counts_advanceReader (now : Instant) (read : Option FrameReader.Item × FrameReader)
    (halive : s.ReaderAlive id) :
    Counts closing s (s.advanceReader id now read)
      (if read.1.any FrameReader.Item.isFault then some .failure else none) := by
  have hframes : Quiet s (s.updateLink id fun link => { link with frames := read.2 }) :=
    quiet_updateLink s id _ fun _ _ h => h
  obtain ⟨item, frames⟩ := read
  cases item with
  | none => exact hframes.counts
  | some item =>
    exact hframes.trans_counts
      (counts_handleItem now item (readerAlive_updateLink _ halive fun _ h => h))

/-- An event that is no step of an operation. -/
theorem counts_undergo (now : Instant) (event : SessionEvent) (s : Session) :
    Counts closing s (s.undergo now event)
      (if (s.item? event).any FrameReader.Item.isFault then some .failure else none) := by
  cases event with
  | hear id said =>
    rcases hlink : s.links[id]? with _ | link
    · simp only [undergo, SessionRun.next, SessionRun.withSession, hear, item?, hlink]
      exact .stays rfl
    · by_cases hwants : link.wantsRead = true
      · simp only [undergo, SessionRun.next, SessionRun.withSession, hear, item?, hlink, hwants,
          if_true, Option.bind_some]
        exact counts_advanceReader now _ (readerAlive_of_wantsRead hlink hwants)
      · simp only [undergo, SessionRun.next, SessionRun.withSession, hear, item?, hlink, hwants,
          Option.bind_some]
        exact .stays rfl
  | read id =>
    rcases hlink : s.links[id]? with _ | link
    · simp only [undergo, SessionRun.next, SessionRun.withSession, stepReader, item?, hlink]
      exact .stays rfl
    cases hreader : link.reader with
    | done =>
      simp only [undergo, SessionRun.next, SessionRun.withSession, stepReader, item?, hlink,
        hreader, Option.bind_some]
      exact .stays rfl
    | replying reply ticket =>
      simp only [undergo, SessionRun.next, SessionRun.withSession, stepReader, item?, hlink,
        hreader, Option.bind_some]
      split
      · exact .stays rfl
      · exact .stays rfl
    | reading =>
      have halive : s.ReaderAlive id := ⟨link, hlink, by simp [Link.readerDone, hreader]⟩
      by_cases hwants : link.wantsRead = true
      · simp only [undergo, SessionRun.next, SessionRun.withSession, stepReader, item?, hlink,
          hreader, hwants, if_true, Option.bind_some]
        exact .stays rfl
      · simp only [undergo, SessionRun.next, SessionRun.withSession, stepReader, item?, hlink,
          hreader, hwants, Option.bind_some]
        exact counts_advanceReader now _ halive
  | launched result =>
    simp only [undergo, SessionRun.next, item?]
    split
    · exact .stays rfl
    · exact .stays rfl
  | write id => exact (quiet_stepWriter s id).counts
  | «begin» | step | written | writeFails | processEnds | wait => exact .stays rfl

end Session

/-! ### Operations -/

open Session

variable {s m : Session} {now : Instant} {closing : Prop}

namespace SessionTask

theorem counts_ask (now : Instant) (point : QueryPoint) (s : Session) :
    Counts closing s (point.step now s).1
      ((ask point).mark? ((point.step now s).2.map ask .answered)) := by
  have hafter (query : Query) (stepped : Stepped Session CallPoint (Except SessionError Json))
      (h : Quiet s stepped.1) : Counts closing s (QueryPoint.afterCall query stepped).1
        ((ask point).mark? ((QueryPoint.afterCall query stepped).2.map ask .answered)) := by
    obtain ⟨m, progress⟩ := stepped
    cases progress with
    | blocked => exact h.counts
    | moved call => exact h.counts
    | finished result =>
      simp only [QueryPoint.afterCall]
      cases result.bind (QueryPoint.answerOf query) with
      | ok answer => exact h.trans_counts (.succeeds rfl)
      | error error =>
        cases hcounted : error.countsAsFailure with
        | true =>
          simp only [QueryPoint.finish, Progress.map, mark?, hcounted]
          exact h.trans_counts (.fails rfl)
        | false =>
          simp only [QueryPoint.finish, Progress.map, mark?, hcounted]
          exact h.counts
  cases point with
  | starting query =>
    simp only [QueryPoint.step]
    split
    · exact hafter query _ (CallPoint.quiet_step now _ s)
    · exact .stays rfl
  | calling query call => exact hafter query _ (call.quiet_step now s)

theorem counts_ensure {point : EnsurePoint} {stepped : EnsurePoint.Ensured}
    (hmoves : EnsureMoves now s point stepped) (hblocked : stepped.2 ≠ .blocked)
    (hengaged : ∀ ticket, (ensure point).Entered ticket → Engaged s (.ensure point)) :
    Counts closing s stepped.1 ((ensure point).mark? (stepped.2.map ensure .ensured)) := by
  cases hmoves with
  | blocks => exact absurd rfl hblocked
  | joins | wakes | cools => exact .stays rfl
  | answers ticket result =>
    cases result with
    | ok _ => exact .stays rfl
    | error error => exact .stays rfl
  | launches ticket holds idle =>
    have htally : s.dropConnection.tally = s.tally := tally_dropConnection s
    refine counts_elsewhere ?_ (by simp [idle]) ⟨by rintro ⟨⟩, by rintro ⟨⟩⟩
    exact (congrArg (fun tally => ({ tally with state := .spawning } : Tally)) htally :)
  | relaunches ticket holds crashed =>
    have htally :
        ({ s with restarts := s.restarts + 1 } : Session).dropConnection.tally = s.tally :=
      tally_dropConnection _
    refine counts_elsewhere ?_ (by simp [crashed]) ⟨by rintro ⟨⟩, by rintro ⟨⟩⟩
    exact (congrArg (fun tally => ({ tally with state := .spawning } : Tally)) htally :)
  | fails ticket error => exact counts_crashed (tally_markCrashed s now)
  | links ticket process =>
    have hbefore : s.state = .spawning ∨ s.state = .crashed := by
      cases hengaged ticket rfl with
      | launching _ state => exact state
      | greeting _ _ greets => exact greets.elim
    refine counts_elsewhere rfl ?_ ⟨by rintro ⟨⟩, by rintro ⟨⟩⟩
    rcases hbefore with h | h <;> simp [h]
  | greets _ point' ticket m before quiet => exact quiet.counts
  | crashes _ ticket m error before quiet =>
    refine counts_crashed ?_
    show (m.markCrashed now).dropConnection.tally = _
    rw [tally_dropConnection, tally_markCrashed, quiet.tally]
  | succeeds _ ticket m capabilities before quiet =>
    have hstarts : (ensure point).starts = true := EnsurePoint.starts_of_greets before
    have hsettings : m.settings = s.settings := settings_of_core quiet.core
    have hstate : s.state = .handshaking ∨ s.state = .crashed := by
      cases hengaged ticket (entered_of_greets before) with
      | launching => exact before.elim
      | greeting _ _ _ state => exact state
    simp only [EnsurePoint.succeed, EnsurePoint.finish, Progress.map, mark?, hstarts, if_true]
    exact .greets hstate (by rw [← hsettings]; rfl)

theorem counts_stop {point : StopPoint} {stepped : StopPoint.Stopped} (hclosing : closing)
    (hmoves : StopMoves s point stepped) (hblocked : stepped.2 ≠ .blocked)
    (hengaged : ∀ ticket, (stop point).Entered ticket → Engaged s (.stop point)) :
    Counts closing s stepped.1 none := by
  have hfinish {ticket : Ticket} {m : Session} (before : point.Closes ticket)
      (htally : m.tally = s.tally) : Counts closing s (StopPoint.finish ticket m).1 none := by
    have hstate : s.state = .closing := by
      cases hengaged ticket before with
      | closing _ _ _ state => exact state
    refine counts_elsewhere ?_ (by simp [hstate]) ⟨by rintro ⟨⟩, by rintro ⟨⟩⟩
    exact (congrArg (fun tally => ({ tally with state := .closed } : Tally)) htally :)
  cases hmoves with
  | blocks => exact absurd rfl hblocked
  | joins | leaves => exact .stays rfl
  | parts ticket asked holds closed =>
    exact .goes rfl ⟨by rintro ⟨⟩, by rintro ⟨⟩⟩ (.inr (.inl ⟨rfl, hclosing⟩))
  | goesOn _ point' ticket m before quiet => exact quiet.counts
  | takes _ point' ticket m link before quiet => exact .stays quiet.tally
  | finishes _ ticket m before quiet => exact hfinish before quiet.tally
  | drains _ ticket link before => exact hfinish before rfl

theorem counts_reset {point : GuardPoint} {stepped : Stepped Session GuardPoint Bool}
    (hmoves : GuardMoves resetNow s point stepped) :
    Counts closing s stepped.1 ((reset point).mark? (stepped.2.map reset .wasReset)) := by
  cases hmoves with
  | blocks | joins => exact .stays rfl
  | acts ticket holds =>
    have hsettings : s.dropConnection.releaseWriter.settings = s.settings :=
      (settings_of_core (quiet_releaseWriter _).core).trans
        (congrArg Tally.settings (tally_dropConnection s))
    have hreset (hended : s.state = .crashed ∨ s.state = .closed) (s' : Session)
        (hs' : s'.tally = ⟨s.settings, .idle, 0⟩) :
        Counts closing s s' ((reset (.queued ticket)).mark? (.finished (.wasReset true))) :=
      .resets hended hs'
    show Counts closing s { s.resetNow.1 with turns := _ }
      ((reset (.queued ticket)).mark? (.finished (.wasReset s.resetNow.2)))
    unfold resetNow
    split
    next h => exact hreset (.inl h) _ (by rw [← hsettings]; rfl)
    next h => exact hreset (.inr h) _ (by rw [← hsettings]; rfl)
    next => exact .stays rfl

theorem tally_stepAlive (point : GuardPoint) (s : Session) :
    (s.stepAlive point).1.tally = s.tally := by
  obtain ⟨turns, hturns⟩ := s.exists_stepAlive point
  rw [hturns]
  rfl

/-- A step of any operation, unless it has to wait. -/
theorem counts_step (now : Instant) (task : SessionTask) (s : Session)
    (hblocked : (task.step now s).2 ≠ .blocked)
    (hengaged : ∀ ticket, task.Entered ticket → Engaged s task) :
    Counts (∃ point, task = .stop point) s (task.step now s).1
      (task.mark? (task.step now s).2) := by
  have hnone {task : SessionTask} {π ρ : Type} {make : π → SessionTask} {reply : ρ → SessionReply}
      {stepped : Stepped Session π ρ} {closing : Prop} (h : Counts closing s stepped.1 none)
      (hreply : ∀ result, task.mark? (.finished (reply result)) = none) :
      Counts closing s (stepped.map make reply).1 (task.mark? (stepped.map make reply).2) := by
    obtain ⟨s', progress⟩ := stepped
    cases progress with
    | blocked | moved => exact h
    | finished result =>
      show Counts closing s s' (task.mark? (.finished (reply result)))
      rw [hreply]
      exact h
  cases task with
  | ensure point =>
    exact counts_ensure (point.step_moves now s) (Stepped.ne_blocked_of_map hblocked) hengaged
  | ask point => exact counts_ask now point s
  | notify point => exact hnone (point.quiet_step s).counts fun _ => rfl
  | stop point =>
    have hunblocked : (point.step now s).2 ≠ .blocked := Stepped.ne_blocked_of_map hblocked
    exact hnone (counts_stop ⟨point, rfl⟩ (point.step_moves now s) hunblocked hengaged)
      fun _ => rfl
  | reset point => exact counts_reset (point.step_moves resetNow s)
  | checkAlive point => exact hnone (.stays (tally_stepAlive point s)) fun _ => rfl

theorem tally_cancel (task : SessionTask) (s : Session) : (task.cancel s).tally = s.tally := by
  cases task with
  | ensure point =>
    cases point with
    | greeting ticket call => exact (call.quiet_cancel s).tally
    | confirming ticket send => exact (send.quiet_cancel s).tally
    | asking | cooling | queued | launching | linked => rfl
  | ask point =>
    cases point with
    | starting query => rfl
    | calling query call => exact (call.quiet_cancel s).tally
  | notify point =>
    cases point with
    | starting notice => rfl
    | sending send => exact (send.quiet_cancel s).tally
  | stop point =>
    cases point with
    | farewell ticket call => exact (call.quiet_cancel s).tally
    | exiting ticket send => exact (send.quiet_cancel s).tally
    | finishing ticket send => exact (send.quiet_cancel s).tally
    | asking | queued | parting | reaping | killing | draining => rfl
  | reset point | checkAlive point => cases point <;> rfl

end SessionTask

/-! ### Ready and degraded -/

namespace Session

/-- A session keeps the length of the row, and its state goes by it. -/
structure Tracks (settings : SessionSettings) (row : Nat) (s : Session) : Prop where
  fixed : s.settings = settings
  counted : s.failures = row
  ready : s.state = .ready → row < settings.degradedAfter
  degraded : s.state = .degraded → settings.degradedAfter ≤ row

/-- A session becomes degraded with the failure that makes the row long enough, and stays so until a
    success, a crash or a shutdown. Whenever it becomes ready, the row is empty. -/
structure Timely (settings : SessionSettings) (row : Nat) (closing : Prop) (mark : Option Mark)
    (s s' : Session) : Prop where
  enters : s.state ≠ .degraded → (s'.state = .degraded ↔
    s.state = .ready ∧ mark = some .failure ∧ row + 1 = settings.degradedAfter)
  leaves : s.state = .degraded → (s'.state ≠ .degraded ↔
    mark = some .success ∨ s'.state = .crashed ∨ s'.state = .closing ∧ closing)
  recovers : s.state = .degraded → mark = some .success → s'.state = .ready
  readies : s.state ≠ .ready → s'.state = .ready → s'.failures = 0 ∧
    (mark = some .greeting ∨ s.state = .degraded ∧ mark = some .success)

variable {s s' : Session} {settings : SessionSettings} {row : Nat} {closing : Prop}
  {mark : Option Mark}

theorem Counts.mono {closing' : Prop} (h : Counts closing s s' mark) (himp : closing → closing') :
    Counts closing' s s' mark := by
  cases h with
  | stays tally => exact .stays tally
  | goes tally after before =>
    exact .goes tally after (before.imp_right (Or.imp_left (And.imp_right himp)))
  | fails tally => exact .fails tally
  | succeeds tally => exact .succeeds tally
  | greets starting tally => exact .greets starting tally
  | resets ended tally => exact .resets ended tally

/-- What a failure does to a session in each state. -/
theorem state_recordFailure (h : Tracks settings row s) :
    s.recordFailure.state =
      if s.state = .ready ∧ row + 1 = settings.degradedAfter then .degraded else s.state := by
  have hready := h.ready
  simp only [recordFailure, h.fixed, h.counted, Bool.and_eq_true, decide_eq_true_eq]
  by_cases hstate : s.state = .ready
  · have hlt := hready hstate
    have hiff : settings.degradedAfter ≤ row + 1 ↔ row + 1 = settings.degradedAfter := by omega
    simp [hstate, hiff]
  · simp [hstate]

theorem Tracks.counts (h : Tracks settings row s) (hlimit : 1 ≤ settings.degradedAfter)
    (hcounts : Counts closing s s' mark) : Tracks settings (Mark.count row mark) s' := by
  cases hcounts with
  | stays tally =>
    have hstate : s'.state = s.state := (congrArg Tally.state tally :)
    have hsettings : s'.settings = s.settings := (congrArg Tally.settings tally :)
    have hfailures : s'.failures = s.failures := (congrArg Tally.failures tally :)
    exact ⟨hsettings.trans h.fixed, hfailures.trans h.counted, hstate ▸ h.ready,
      hstate ▸ h.degraded⟩
  | goes tally after before =>
    have hsettings : s'.settings = s.settings := (congrArg Tally.settings tally :)
    have hfailures : s'.failures = s.failures := (congrArg Tally.failures tally :)
    exact ⟨hsettings.trans h.fixed, hfailures.trans h.counted, fun hready => absurd hready after.1,
      fun hdegraded => absurd hdegraded after.2⟩
  | fails tally =>
    have hsettings : s'.settings = s.settings := (congrArg Tally.settings tally :)
    have hfailures : s'.failures = s.failures + 1 := (congrArg Tally.failures tally :)
    have hstate : s'.state = s.recordFailure.state := (congrArg Tally.state tally :)
    rw [state_recordFailure h] at hstate
    refine ⟨hsettings.trans h.fixed, hfailures.trans (congrArg (· + 1) h.counted), ?_, ?_⟩
    · intro hready
      rw [hstate] at hready
      split at hready
      next => cases hready
      next hshort =>
        have hlt := h.ready hready
        have hne : row + 1 ≠ settings.degradedAfter := fun heq => hshort ⟨hready, heq⟩
        show row + 1 < settings.degradedAfter
        omega
    · intro hdegraded
      rw [hstate] at hdegraded
      split at hdegraded
      next hlong => exact Nat.le_of_eq hlong.2.symm
      next => exact Nat.le_succ_of_le (h.degraded hdegraded)
  | succeeds tally =>
    have hsettings : s'.settings = s.settings := (congrArg Tally.settings tally :)
    have hfailures : s'.failures = 0 := (congrArg Tally.failures tally :)
    have hstate : s'.state = s.recordSuccess.state := (congrArg Tally.state tally :)
    refine ⟨hsettings.trans h.fixed, hfailures, fun _ => hlimit, fun hdegraded => ?_⟩
    rw [hstate] at hdegraded
    simp only [recordSuccess] at hdegraded
    split at hdegraded
    next => cases hdegraded
    next hother => exact absurd hdegraded hother
  | greets starting tally =>
    have hsettings : s'.settings = s.settings := (congrArg Tally.settings tally :)
    have hfailures : s'.failures = 0 := (congrArg Tally.failures tally :)
    have hstate : s'.state = .ready := (congrArg Tally.state tally :)
    refine ⟨hsettings.trans h.fixed, hfailures, fun _ => hlimit, fun hdegraded => ?_⟩
    rw [hstate] at hdegraded
    cases hdegraded
  | resets ended tally =>
    have hsettings : s'.settings = s.settings := (congrArg Tally.settings tally :)
    have hfailures : s'.failures = 0 := (congrArg Tally.failures tally :)
    have hstate : s'.state = .idle := (congrArg Tally.state tally :)
    refine ⟨hsettings.trans h.fixed, hfailures, fun _ => hlimit, fun hdegraded => ?_⟩
    rw [hstate] at hdegraded
    cases hdegraded

theorem Tracks.timely (h : Tracks settings row s) (hcounts : Counts closing s s' mark) :
    Timely settings row closing mark s s' := by
  cases hcounts with
  | stays tally =>
    have hstate : s'.state = s.state := (congrArg Tally.state tally :)
    constructor
    · simp [hstate]
    · intro hdegraded
      simp [hstate, hdegraded]
    · rintro _ ⟨⟩
    · intro hnot hready
      exact absurd (hstate.symm.trans hready) hnot
  | goes tally after before =>
    constructor
    · simp [after.2]
    · intro hdegraded
      rcases before with hcrashed | hclosing | hother
      · simp [hcrashed]
      · simp [hclosing]
      · exact absurd hdegraded hother.2
    · rintro _ ⟨⟩
    · exact fun _ hready => absurd hready after.1
  | fails tally =>
    have hstate : s'.state = s.recordFailure.state := (congrArg Tally.state tally :)
    rw [state_recordFailure h] at hstate
    constructor
    · intro hnot
      rw [hstate]
      split
      next hlong => simp [hlong]
      next hshort => simpa [hnot] using hshort
    · intro hdegraded
      simp [hstate, hdegraded]
    · rintro _ ⟨⟩
    · intro hnot hready
      rw [hstate] at hready
      split at hready
      next => cases hready
      next => exact absurd hready hnot
  | succeeds tally =>
    have hfailures : s'.failures = 0 := (congrArg Tally.failures tally :)
    have hstate : s'.state = s.recordSuccess.state := (congrArg Tally.state tally :)
    simp only [recordSuccess] at hstate
    constructor
    · intro hnot
      simp [hstate, hnot]
    · intro hdegraded
      simp [hstate, hdegraded]
    · intro hdegraded _
      simp [hstate, hdegraded]
    · intro hnot hready
      refine ⟨hfailures, .inr ⟨?_, rfl⟩⟩
      rw [hstate] at hready
      split at hready
      next hdegraded => exact hdegraded
      next => exact absurd hready hnot
  | greets starting tally =>
    have hfailures : s'.failures = 0 := (congrArg Tally.failures tally :)
    have hstate : s'.state = .ready := (congrArg Tally.state tally :)
    constructor
    · simp [hstate]
    · intro hdegraded
      simp [hdegraded] at starting
    · rintro _ ⟨⟩
    · exact fun _ _ => ⟨hfailures, .inl rfl⟩
  | resets ended tally =>
    have hstate : s'.state = .idle := (congrArg Tally.state tally :)
    constructor
    · simp [hstate]
    · intro hdegraded
      simp [hdegraded] at ended
    · rintro _ ⟨⟩
    · simp [hstate]

end Session

/-! ### Courses -/

namespace SessionCourse

variable {course : SessionCourse}

/-- What any event of a course does about the row. -/
theorem Engages.counts_next (h : course.Engages) (event : CourseEvent) :
    Counts (CourseMoment.Closes (course, event)) course.shared
      (sessionRules.next course event).shared (CourseMoment.mark? (course, event)) := by
  have hstep {i : Nat} {input : Unit} {task : SessionTask} {shared : Session}
      {progress : Progress SessionTask SessionReply} (stands : course.task? i = some task)
      (step : task.step course.now course.shared = (shared, progress))
      (hmoved : progress ≠ .blocked) :
      Counts (CourseMoment.Closes (course, .step i input)) course.shared shared
        (CourseMoment.mark? (course, .step i input)) := by
    have hstepped : sessionRules.step? (course, .step i input) = some (i, task, progress) := by
      rw [sessionRules.step?_step stands]
      exact congrArg (fun stepped => some (i, task, stepped.2)) step
    have hmark : CourseMoment.mark? (course, .step i input) = task.mark? progress := by
      simp only [CourseMoment.mark?, hstepped, Option.bind_some]
    have hcounts := task.counts_step course.now course.shared
    rw [step] at hcounts
    rw [hmark]
    refine (hcounts hmoved fun ticket => h.engaged i task ticket stands).mono ?_
    rintro ⟨point, rfl⟩
    exact ⟨i, point, progress, hstepped⟩
  have hmoves := sessionRules.next_moves course event
  generalize sessionRules.next course event = course' at hmoves
  cases hmoves with
  | blocks i input blocked =>
    have hmark : CourseMoment.mark? (course, .step i input) = none := by
      cases hstepped : sessionRules.step? (course, .step i input) with
      | none => simp only [CourseMoment.mark?, hstepped, Option.bind_none]
      | some step =>
        obtain ⟨j, task, progress⟩ := step
        obtain rfl := sessionRules.eq_blocked_of_step? blocked hstepped
        simp only [CourseMoment.mark?, hstepped, Option.bind_some, SessionTask.mark?]
    rw [hmark]
    exact .stays rfl
  | misses | begins | waits => exact .stays rfl
  | moves i input task task' shared stands step => exact hstep stands step (by rintro ⟨⟩)
  | finishes i input task result shared stands step => exact hstep stands step (by rintro ⟨⟩)
  | givesUp i task stands => exact .stays (task.tally_cancel course.shared)
  | occurs event => exact counts_undergo course.now event course.shared

theorem tracks_after (settings : SessionSettings) (hlimit : 1 ≤ settings.degradedAfter)
    (hello : Except String ClientHello) (events : List CourseEvent) :
    Tracks settings (failureRow (sessionRules.history (start settings hello) events))
      (sessionRules.after (start settings hello) events).shared := by
  refine (sessionRules.history_induction (motive := fun past course =>
    SessionCourse.Engages course ∧ Tracks settings (failureRow past) course.shared) ?_ ?_ events).2
  · exact ⟨engages_after settings hello [], rfl, rfl, by rintro ⟨⟩, by rintro ⟨⟩⟩
  · intro past course event h
    rw [failureRow_concat]
    exact ⟨h.1.next event, h.2.counts hlimit (h.1.counts_next event)⟩

/-- **Degraded tracks the row of failures.**  Any course of a session, whatever its servers do,
    whoever calls it and whoever gives up: the session keeps the number of failures since the last
    success, handshake or reset; it is ready only while this row is too short to degrade it, and
    degraded only when it is long enough. Whatever happens next, it becomes degraded exactly with
    the failure of a ready session that makes the row long enough, and leaves this state exactly with
    a success, a crash or a shutdown; and whenever it becomes ready, no failure is counted. -/
theorem tracks_failures_after (settings : SessionSettings) (hlimit : 1 ≤ settings.degradedAfter)
    (hello : Except String ClientHello) (events : List CourseEvent) :
    let past := sessionRules.history (start settings hello) events
    let course : SessionCourse := sessionRules.after (start settings hello) events
    Tracks settings (failureRow past) course.shared ∧
      ∀ event, Timely settings (failureRow past) (CourseMoment.Closes (course, event))
        (CourseMoment.mark? (course, event)) course.shared
        (sessionRules.next course event).shared := by
  intro past course
  have htracks := tracks_after settings hlimit hello events
  exact ⟨htracks, fun event =>
    htracks.timely ((engages_after settings hello events).counts_next event)⟩

/-- The server answers the first request, and then says two things that make no sense. -/
def mumblingServer : List CourseEvent :=
  let said (text : String) : CourseEvent := .occur (.hear 0 (.bytes (frameBytes text.toUTF8)))
  [.begin .ensure, .step 0 (), .step 0 (), .occur (.launched (.ok .absent)), .step 0 (),
    .step 0 (), said "\x7b\"id\":1,\"result\":\x7b\"capabilities\":\x7b\x7d\x7d\x7d", .step 0 (),
    said "[]", said "[]"]

/-- A session that the second failure in a row degrades. -/
theorem tracks_failures_mumblingServer :
    let settings : SessionSettings := { degradedAfter := 2 }
    let begun := start settings (.ok ⟨"file:///ws", "ws"⟩)
    let past := sessionRules.history begun mumblingServer
    let course : SessionCourse := sessionRules.after begun mumblingServer
    1 ≤ settings.degradedAfter ∧ failureRow past = 2 ∧ course.shared.state = .degraded ∧
      Tracks settings (failureRow past) course.shared ∧
      ∀ event, Timely settings (failureRow past) (CourseMoment.Closes (course, event))
        (CourseMoment.mark? (course, event)) course.shared
        (sessionRules.next course event).shared := by
  intro settings begun past course
  exact ⟨by decide, by decide +kernel, by decide +kernel,
    tracks_failures_after settings (by decide) (.ok ⟨"file:///ws", "ws"⟩) mumblingServer⟩

end SessionCourse
end SymbolSearch
