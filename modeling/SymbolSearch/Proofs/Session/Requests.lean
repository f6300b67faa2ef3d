import Mathlib.Logic.Relation
import SymbolSearch.Proofs.Session.Course

/-!
# Requests of operations

Every operation has at most one request in flight.  This file says what the steps of an operation do
to the table of requests, to the next id and to its own request.

* `SessionTask.reply?` — the request that an operation has in flight.
* `DeskMove` — a request is registered, given up, or settled by the one who waits for it, or all
  requests fail; `SessionTask.desk_step` and `SessionTask.desk_cancel` show that a step of an
  operation does nothing else.
* `Session.response?` — the response that an event brings, if it brings one.
* `Session.undergo_response` and `Session.desk_undergo` — what that does, and what else events do to
  the table.
-/

namespace SymbolSearch

/-! ### What is in flight -/

/-- The request that is in flight. -/
def CallPoint.reply? : CallPoint → Option PendingReply
  | .starting _ _ => none
  | .sending reply _ | .waiting reply _ => some reply

/-- The request that an operation has in flight. -/
def SessionTask.reply? : SessionTask → Option PendingReply
  | .ensure (.greeting _ call _) | .ask (.calling _ call) | .stop (.farewell _ call) => call.reply?
  | _ => none

/-- The request that is left after a step. -/
def Progress.left {π ρ : Type} (before : Option PendingReply) (reply? : π → Option PendingReply) :
    Progress π ρ → Option PendingReply
  | .blocked => before
  | .moved point => reply? point
  | .finished _ => none

/-- What an operation has to do with when it makes a request. -/
structure Desk where
  pending : Pending
  nextId : Nat
  own : Option PendingReply

/-- What an operation can do to its request and the others. -/
inductive DeskMove : Desk → Desk → Prop where
  | registers (pending : Pending) (nextId : Nat) (now : Instant) (method : String)
      (timeout : Duration) :
      DeskMove ⟨pending, nextId, none⟩
        ⟨(pending.register now nextId method timeout).1, nextId + 1,
          some (pending.register now nextId method timeout).2⟩
  | abandons (pending : Pending) (nextId : Nat) (reply : PendingReply) :
      DeskMove ⟨pending, nextId, some reply⟩ ⟨reply.abandon pending, nextId, none⟩
  | settles (pending pending' : Pending) (nextId : Nat) (now : Instant) (reply : PendingReply)
      (result : Except SessionError Json) (wait : reply.wait? now pending = (pending', some result)) :
      DeskMove ⟨pending, nextId, some reply⟩ ⟨pending', nextId, none⟩
  | failsAll (desk : Desk) : DeskMove desk { desk with pending := desk.pending.failAll }

/-- Any number of such moves. -/
abbrev DeskMoves := Relation.ReflTransGen DeskMove

/-- The table and the next id of a session, with the request of one operation. -/
def Session.desk (s : Session) (own : Option PendingReply) : Desk := ⟨s.pending, s.nextId, own⟩

variable {s m s' : Session} {now : Instant} {own : Option PendingReply}

/-! ### Sending -/

namespace Session

theorem desk_releaseWriter (s : Session) (own : Option PendingReply) :
    s.releaseWriter.desk own = s.desk own := by
  unfold releaseWriter
  split <;> rfl

theorem desk_dropConnection (s : Session) (own : Option PendingReply) :
    s.dropConnection.desk own = s.desk own := by
  unfold dropConnection
  split <;> rfl

theorem desk_markCrashed (s : Session) (now : Instant) (own : Option PendingReply) :
    DeskMove (s.desk own) ((s.markCrashed now).desk own) := by
  have hnext : s.releaseWriter.nextId = s.nextId :=
    (congrArg Desk.nextId (desk_releaseWriter s own) :)
  have hdesk : (s.markCrashed now).desk own =
      { s.desk own with pending := (s.desk own).pending.failAll } := by
    simp only [desk, markCrashed, hnext]
  rw [hdesk]
  exact .failsAll _

end Session

theorem SendPoint.desk_begin (s : Session) (link : LinkId) (item : Outgoing)
    (own : Option PendingReply) : (SendPoint.begin s link item).1.desk own = s.desk own := by
  unfold SendPoint.begin
  split
  · rfl
  · split <;> rfl

theorem SendPoint.begin_ne_blocked (s : Session) (link : LinkId) (item : Outgoing) :
    (SendPoint.begin s link item).2 ≠ .blocked := by
  unfold SendPoint.begin
  split
  · rintro ⟨⟩
  · split <;> rintro ⟨⟩

theorem SendPoint.desk_step (point : SendPoint) (s : Session) (own : Option PendingReply) :
    (point.step s).1.desk own = s.desk own := by
  unfold SendPoint.step
  split
  · rfl
  · split <;> rfl

/-! ### One request -/

namespace CallPoint

theorem desk_refuse (reply : PendingReply) (link : LinkId) (h : m.desk own = s.desk own) :
    DeskMove (s.desk (some reply)) ((refuse m reply link).1.desk none) := by
  have hpending : m.pending = s.pending := (congrArg Desk.pending h :)
  have hnext : m.nextId = s.nextId := (congrArg Desk.nextId h :)
  have hdesk : (refuse m reply link).1.desk none = ⟨reply.abandon s.pending, s.nextId, none⟩ := by
    rw [← hpending, ← hnext]
    rfl
  rw [hdesk]
  exact .abandons _ _ _

/-- The moves of one step of a request. -/
theorem desk_step (now : Instant) (point : CallPoint) (s : Session) :
    DeskMoves (s.desk point.reply?)
      ((point.step now s).1.desk ((point.step now s).2.left point.reply? reply?)) := by
  cases point with
  | starting call timeout =>
    simp only [step]
    cases hwriter : s.writer with
    | none => exact .refl
    | some link =>
      dsimp only
      generalize hregister : s.pending.register now s.nextId call.method timeout = registered
      obtain ⟨pending, reply⟩ := registered
      dsimp only
      generalize hm : ({ s.updateOutbox link Outbox.retain with
        nextId := s.nextId + 1, pending } : Session) = m
      -- The request is in the table before the message goes anywhere.
      have hfirst : DeskMove (s.desk none) (m.desk (some reply)) := by
        have hmove := DeskMove.registers s.pending s.nextId now call.method timeout
        rw [hregister] at hmove
        rw [← hm]
        exact hmove
      have hsend := SendPoint.desk_begin m link (.request s.nextId call)
      have hblocked := SendPoint.begin_ne_blocked m link (.request s.nextId call)
      split
      next m' hbegin =>
        rw [hbegin] at hsend
        show DeskMoves _ (m'.desk (some reply))
        rw [hsend]
        exact .single hfirst
      next m' hbegin =>
        rw [hbegin] at hsend
        exact (Relation.ReflTransGen.single hfirst).tail (desk_refuse reply link (hsend none))
      next m' send hbegin =>
        rw [hbegin] at hsend
        show DeskMoves _ (m'.desk (some reply))
        rw [hsend]
        exact .single hfirst
      next hbegin =>
        rw [hbegin] at hblocked
        exact absurd rfl hblocked
  | sending reply send =>
    simp only [step]
    have hsend := send.desk_step s
    split
    next m hstep =>
      rw [hstep] at hsend
      show DeskMoves _ (m.desk (some reply))
      rw [hsend]
      exact .refl
    next m hstep =>
      rw [hstep] at hsend
      exact .single (desk_refuse reply send.link (hsend none))
    next m send' hstep =>
      rw [hstep] at hsend
      show DeskMoves _ (m.desk (some reply))
      rw [hsend]
      exact .refl
    next m hstep =>
      rw [hstep] at hsend
      show DeskMoves _ (m.desk (some reply))
      rw [hsend]
      exact .refl
  | waiting reply link =>
    simp only [step]
    split
    next pending result hwait => exact .single (.settles _ _ _ now reply result hwait)
    next => exact .refl

theorem desk_cancel (point : CallPoint) (s : Session) :
    DeskMoves (s.desk point.reply?) ((point.cancel s).desk none) := by
  cases point with
  | starting call timeout => exact .refl
  | sending reply send => exact .single (.abandons s.pending s.nextId reply)
  | waiting reply link => exact .single (.abandons s.pending s.nextId reply)

end CallPoint

/-! ### Any operation -/

/-- Something that leaves the table and the next id alone. -/
theorem deskMoves_of_eq (h : s'.desk none = s.desk none) (own : Option PendingReply) :
    DeskMoves (s.desk own) (s'.desk own) := by
  have hpending : s'.pending = s.pending := (congrArg Desk.pending h :)
  have hnext : s'.nextId = s.nextId := (congrArg Desk.nextId h :)
  have hdesk : s'.desk own = s.desk own := by
    rw [Session.desk, hpending, hnext]
    rfl
  rw [hdesk]

namespace QueryPoint

/-- The request of a question. -/
def reply? (point : QueryPoint) : Option PendingReply := (SessionTask.ask point).reply?

theorem desk_afterCall {before : Option PendingReply} (query : Query)
    {stepped : Stepped Session CallPoint (Except SessionError Json)}
    (h : DeskMoves (s.desk before) (stepped.1.desk (stepped.2.left before CallPoint.reply?))) :
    DeskMoves (s.desk before)
      ((afterCall query stepped).1.desk ((afterCall query stepped).2.left before reply?)) := by
  obtain ⟨m, progress⟩ := stepped
  cases progress with
  | blocked => exact h
  | moved call => exact h
  | finished result =>
    simp only [afterCall, finish]
    split
    · exact h
    · dsimp only
      split
      · exact h
      · exact h

theorem desk_step (now : Instant) (point : QueryPoint) (s : Session) :
    DeskMoves (s.desk point.reply?)
      ((point.step now s).1.desk ((point.step now s).2.left point.reply? reply?)) := by
  cases point with
  | starting query =>
    simp only [step]
    split
    · exact desk_afterCall query
        (CallPoint.desk_step now (.starting (.query query) s.settings.requestTimeout) s)
    · exact .refl
  | calling query call => exact desk_afterCall query (call.desk_step now s)

end QueryPoint

namespace EnsurePoint

/-- The request of a handshake. -/
def reply? (point : EnsurePoint) : Option PendingReply := (SessionTask.ensure point).reply?

variable {ticket : Ticket} {before : Option PendingReply}

theorem desk_crash (h : DeskMoves (s.desk before) (m.desk none)) (error : SessionError) :
    DeskMoves (s.desk before) ((crash now ticket m error).1.desk none) := by
  have hcrashed := h.tail (Session.desk_markCrashed m now none)
  rw [← Session.desk_dropConnection (m.markCrashed now)] at hcrashed
  exact hcrashed

theorem desk_fail (h : DeskMoves (s.desk before) (m.desk none)) (error : SessionError) :
    DeskMoves (s.desk before) ((fail now ticket m error).1.desk none) := by
  unfold fail
  split
  · exact desk_crash h _
  · exact desk_crash h _

theorem left_fail (m : Session) (error : SessionError) :
    (fail now ticket m error).2.left before reply? = none := by
  unfold fail
  split <;> rfl

theorem desk_confirm (h : DeskMoves (s.desk before) (m.desk none)) (deadline : Instant)
    (answer : Json) :
    DeskMoves (s.desk before) ((confirm now ticket deadline m answer).1.desk
      ((confirm now ticket deadline m answer).2.left before reply?)) := by
  have hfail {m : Session} (h : DeskMoves (s.desk before) (m.desk none)) (error : SessionError) :
      DeskMoves (s.desk before) ((fail now ticket m error).1.desk
        ((fail now ticket m error).2.left before reply?)) := by
    rw [left_fail]
    exact desk_fail h error
  unfold confirm
  split
  · exact hfail h _
  next hello _ =>
    split
    · exact hfail h _
    next link _ =>
      have hsend := SendPoint.desk_begin m link (.notice .initialized) none
      have hsent := h.trans (deskMoves_of_eq hsend none)
      split
      next hbegin =>
        rw [hbegin] at hsent
        exact hsent
      next hbegin =>
        rw [hbegin] at hsent
        exact hsent
      next hbegin =>
        rw [hbegin] at hsent
        exact hfail hsent _

theorem desk_afterCall (deadline : Instant)
    {stepped : Stepped Session CallPoint (Except SessionError Json)}
    (h : DeskMoves (s.desk before) (stepped.1.desk (stepped.2.left before CallPoint.reply?))) :
    DeskMoves (s.desk before) ((afterCall now ticket deadline stepped).1.desk
      ((afterCall now ticket deadline stepped).2.left before reply?)) := by
  obtain ⟨m, progress⟩ := stepped
  cases progress with
  | blocked => exact h
  | moved call => exact h
  | finished result =>
    cases result with
    | ok answer => exact desk_confirm h deadline answer
    | error error =>
      simp only [afterCall, left_fail]
      exact desk_fail h error

theorem desk_step (now : Instant) (point : EnsurePoint) (s : Session) :
    DeskMoves (s.desk point.reply?)
      ((point.step now s).1.desk ((point.step now s).2.left point.reply? reply?)) := by
  cases point with
  | asking => exact .refl
  | queued ticket =>
    simp only [step]
    split
    · unfold decide
      split
      all_goals try exact .refl
      · exact deskMoves_of_eq (Session.desk_dropConnection s none) none
      · split
        · exact .refl
        · dsimp only
          split
          · exact .refl
          · have hdesk := Session.desk_dropConnection { s with restarts := s.restarts + 1 } none
            exact deskMoves_of_eq hdesk none
    · exact .refl
  | cooling resume =>
    simp only [step]
    split
    · exact .refl
    · exact .refl
  | launching ticket =>
    simp only [step]
    split
    · exact .refl
    · exact .single (Session.desk_markCrashed s now none)
    · exact .refl
  | linked ticket deadline =>
    simp only [step, greet]
    split
    · rw [left_fail]
      exact desk_fail .refl _
    next hello _ =>
      exact desk_afterCall deadline
        (CallPoint.desk_step now (.starting (.hello hello) s.settings.handshakeTimeout) s)
  | greeting ticket call deadline =>
    simp only [step]
    have hcall := call.desk_step now s
    split
    next m hstep =>
      rw [hstep] at hcall
      split
      · -- The request is given up, and the connection with it.
        exact desk_crash (hcall.trans (call.desk_cancel m)) _
      · exact hcall
    · exact desk_afterCall deadline hcall
  | confirming ticket send deadline capabilities =>
    simp only [step]
    have hsend := deskMoves_of_eq (send.desk_step s none) none
    split
    next hstep =>
      rw [hstep] at hsend
      exact hsend
    next hstep =>
      rw [hstep] at hsend
      exact hsend
    next hstep =>
      rw [hstep] at hsend
      rw [left_fail]
      exact desk_fail hsend _
    next m hstep =>
      rw [hstep] at hsend
      have hcancel : DeskMoves (s.desk none) ((send.cancel m).desk none) := hsend
      split
      · exact desk_crash hcancel _
      · exact hsend

end EnsurePoint

namespace StopPoint

/-- The request to shut down. -/
def reply? (point : StopPoint) : Option PendingReply := (SessionTask.stop point).reply?

variable {ticket : Ticket} {before : Option PendingReply}

theorem desk_close (h : DeskMoves (s.desk before) (m.desk none)) :
    DeskMoves (s.desk before)
      ((close now ticket m).1.desk ((close now ticket m).2.left before reply?)) := by
  unfold close
  split
  · exact h.tail (.failsAll (m.desk none))
  · dsimp only
    split
    · exact h
    · exact h

theorem desk_finishOutbox (h : DeskMoves (s.desk before) (m.desk none)) :
    DeskMoves (s.desk before)
      ((finishOutbox now ticket m).1.desk ((finishOutbox now ticket m).2.left before reply?)) := by
  unfold finishOutbox
  split
  · exact desk_close h
  next link _ =>
    have hsent := h.trans (deskMoves_of_eq (SendPoint.desk_begin m link .finish none) none)
    split
    next m' send hbegin =>
      rw [hbegin, ← Session.desk_releaseWriter m'] at hsent
      exact hsent
    next m' _ _ hbegin =>
      rw [hbegin, ← Session.desk_releaseWriter m'] at hsent
      exact desk_close hsent

theorem desk_sendExit (h : DeskMoves (s.desk before) (m.desk none)) :
    DeskMoves (s.desk before)
      ((sendExit now ticket m).1.desk ((sendExit now ticket m).2.left before reply?)) := by
  unfold sendExit
  split
  · exact desk_finishOutbox h
  next link _ =>
    have hsent := h.trans (deskMoves_of_eq (SendPoint.desk_begin m link (.notice .exit) none) none)
    split
    next hbegin =>
      rw [hbegin] at hsent
      exact hsent
    next hbegin =>
      rw [hbegin] at hsent
      exact desk_finishOutbox hsent

theorem desk_afterFarewell {stepped : Stepped Session CallPoint (Except SessionError Json)}
    (h : DeskMoves (s.desk before) (stepped.1.desk (stepped.2.left before CallPoint.reply?))) :
    DeskMoves (s.desk before) ((afterFarewell now ticket stepped).1.desk
      ((afterFarewell now ticket stepped).2.left before reply?)) := by
  obtain ⟨m, progress⟩ := stepped
  cases progress with
  | blocked => exact h
  | moved call => exact h
  | finished result => exact desk_sendExit h

theorem desk_step (now : Instant) (point : StopPoint) (s : Session) :
    DeskMoves (s.desk point.reply?)
      ((point.step now s).1.desk ((point.step now s).2.left point.reply? reply?)) := by
  cases point with
  | asking => exact .refl
  | queued ticket =>
    simp only [step]
    split
    · unfold decide
      split
      · exact .refl
      · exact .refl
    · exact .refl
  | parting ticket asked =>
    simp only [step, part]
    split
    · exact desk_afterFarewell
        (CallPoint.desk_step now (.starting .shutdown s.settings.shutdownTimeout) s)
    · exact desk_finishOutbox .refl
  | farewell ticket call => exact desk_afterFarewell (call.desk_step now s)
  | exiting ticket send =>
    simp only [step]
    have hsend := deskMoves_of_eq (send.desk_step s none) none
    split
    next hstep =>
      rw [hstep] at hsend
      exact hsend
    next hstep =>
      rw [hstep] at hsend
      exact desk_finishOutbox hsend
    next hstep =>
      rw [hstep] at hsend
      exact hsend
  | finishing ticket send =>
    simp only [step]
    have hsend := deskMoves_of_eq (send.desk_step s none) none
    split
    next hstep =>
      rw [hstep] at hsend
      exact hsend
    next hstep =>
      rw [hstep] at hsend
      exact desk_close hsend
    next hstep =>
      rw [hstep] at hsend
      exact hsend
  | reaping ticket link deadline =>
    simp only [step]
    split
    · split
      · exact .refl
      · exact .refl
    · exact .refl
  | killing ticket link =>
    simp only [step]
    split
    · exact .refl
    · exact .refl
  | draining ticket link deadline =>
    simp only [step]
    split
    · exact .single (.failsAll (s.desk none))
    · exact .refl

end StopPoint

theorem NoticePoint.desk_step (point : NoticePoint) (s : Session) :
    (point.step s).1.desk none = s.desk none := by
  cases point with
  | starting notice =>
    simp only [step]
    split
    · split
      · rfl
      next link _ =>
        have hsend := SendPoint.desk_begin s link (.notice notice) none
        split
        all_goals
          next hbegin => rwa [hbegin] at hsend
    · rfl
  | sending send =>
    simp only [step]
    have hsend := send.desk_step s none
    split
    all_goals
      next hstep => rwa [hstep] at hsend

theorem GuardPoint.desk_step {ρ : Type} {act : Session → Session × ρ}
    (hact : (act s).1.desk none = s.desk none) (point : GuardPoint) :
    (point.step act s).1.desk none = s.desk none := by
  cases point with
  | asking => rfl
  | queued ticket =>
    simp only [step]
    split
    · exact hact
    · rfl

namespace Session

theorem desk_resetNow (s : Session) : s.resetNow.1.desk none = s.desk none := by
  have hdrop := (desk_releaseWriter s.dropConnection none).trans (desk_dropConnection s none)
  unfold resetNow
  split
  · exact hdrop
  · exact hdrop
  · rfl

theorem desk_stepAlive (point : GuardPoint) (s : Session) :
    (s.stepAlive point).1.desk none = s.desk none := by
  obtain ⟨turns, hturns⟩ := s.exists_stepAlive point
  rw [hturns]
  rfl

end Session

namespace SessionTask

/-- A step of an operation that makes no requests. -/
theorem desk_map {task : SessionTask} {π ρ : Type} {make : π → SessionTask}
    {reply : ρ → SessionReply} {stepped : Stepped Session π ρ} (hnone : task.reply? = none)
    (hmake : ∀ point, (make point).reply? = none) (h : stepped.1.desk none = s.desk none) :
    DeskMoves (s.desk task.reply?)
      ((stepped.map make reply).1.desk ((stepped.map make reply).2.left task.reply? reply?)) := by
  have hleft : (stepped.map make reply).2.left task.reply? reply? = none := by
    obtain ⟨s', progress⟩ := stepped
    cases progress with
    | blocked => exact hnone
    | moved point => exact hmake point
    | finished result => rfl
  rw [hleft, hnone]
  exact deskMoves_of_eq h none

theorem left_map {π ρ : Type} {make : π → SessionTask} {reply : ρ → SessionReply}
    (before : Option PendingReply) (progress : Progress π ρ) :
    (progress.map make reply).left before reply? =
      progress.left before fun point => (make point).reply? := by
  cases progress <;> rfl

/-- The moves of one step of any operation. -/
theorem desk_step (now : Instant) (task : SessionTask) (s : Session) :
    DeskMoves (s.desk task.reply?)
      ((task.step now s).1.desk ((task.step now s).2.left task.reply? reply?)) := by
  cases task with
  | ensure point =>
    have hstep := point.desk_step now s
    rwa [step, Stepped.map, left_map]
  | ask point =>
    have hstep := point.desk_step now s
    rwa [step, Stepped.map, left_map]
  | notify point => exact desk_map rfl (fun _ => rfl) (point.desk_step s)
  | stop point =>
    have hstep := point.desk_step now s
    rwa [step, Stepped.map, left_map]
  | reset point =>
    exact desk_map rfl (fun _ => rfl) (GuardPoint.desk_step (Session.desk_resetNow s) point)
  | checkAlive point => exact desk_map rfl (fun _ => rfl) (Session.desk_stepAlive point s)

/-- The moves of an operation that is given up. -/
theorem desk_cancel (task : SessionTask) (s : Session) :
    DeskMoves (s.desk task.reply?) ((task.cancel s).desk none) := by
  cases task with
  | ensure point =>
    cases point with
    | greeting ticket call => exact call.desk_cancel s
    | asking | queued | cooling | launching | linked | confirming => exact .refl
  | ask point =>
    cases point with
    | starting query => exact .refl
    | calling query call => exact call.desk_cancel s
  | notify point =>
    cases point with
    | starting notice => exact .refl
    | sending send => exact .refl
  | stop point =>
    cases point with
    | farewell ticket call => exact call.desk_cancel s
    | asking | queued | parting | exiting | finishing | reaping | killing | draining => exact .refl
  | reset point | checkAlive point => cases point <;> exact .refl

end SessionTask

/-! ### Responses -/

/-- The response that an item of the stream is, if it is one. -/
def FrameReader.Item.response? : FrameReader.Item → Option (MessageId × ResponseOutcome)
  | .event (.frame frame) =>
    match Message.classify frame.value with
    | .ok (.response id outcome) => some (id, outcome)
    | _ => none
  | _ => none

namespace Session

/-- The item that a reader hands out with an event. -/
def item? (s : Session) : SessionEvent → Option FrameReader.Item
  | .hear id said =>
    (s.links[id]?).bind fun link => if link.wantsRead then (link.frames.absorb said).1 else none
  | .read id =>
    (s.links[id]?).bind fun link =>
      match link.reader with
      | .reading => if link.wantsRead then none else link.frames.next?.1
      | _ => none
  | _ => none

/-- The response that an event brings, if it brings one. -/
def response? (s : Session) (event : SessionEvent) : Option (MessageId × ResponseOutcome) :=
  (s.item? event).bind FrameReader.Item.response?

variable {id : MessageId} {outcome : ResponseOutcome} {event : SessionEvent} {link : LinkId}

/-- The table after a response. -/
def pendingAfter (s : Session) (id : MessageId) (outcome : ResponseOutcome) : Pending :=
  match id.toNat? with
  | some n => (s.pending.resolve n outcome).1
  | none => s.pending

theorem advanceReader_response {item : FrameReader.Item} {frames : FrameReader}
    (h : item.response? = some (id, outcome)) :
    s.advanceReader link now (some item, frames) =
      { s.updateLink link fun link => { link with frames } with
        active := true
        pending := s.pendingAfter id outcome } := by
  unfold FrameReader.Item.response? at h
  split at h
  next frame =>
    split at h
    next found foundOutcome hmessage =>
      obtain ⟨rfl, rfl⟩ := Prod.mk.inj (Option.some.inj h)
      simp only [advanceReader, handleItem, handleEvent, hmessage, dispatch, pendingAfter]
      cases found.toNat? with
      | none => rfl
      | some key => rfl
    next => cases h
  next => cases h

/-- A response changes no more than the frames of its link and the table of requests. -/
theorem undergo_response (h : s.response? event = some (id, outcome)) :
    ∃ link frames, s.undergo now event =
      { s.updateLink link fun link => { link with frames } with
        active := true
        pending := s.pendingAfter id outcome } := by
  obtain ⟨item, hitem, hresponse⟩ := Option.bind_eq_some_iff.mp h
  cases event with
  | hear k said =>
    obtain ⟨found, hfound, hread⟩ := Option.bind_eq_some_iff.mp hitem
    obtain ⟨hwants, hread⟩ := Option.ite_none_right_eq_some.mp hread
    refine ⟨k, (found.frames.absorb said).2, ?_⟩
    simp only [undergo, SessionRun.next, SessionRun.withSession, hear, hfound, if_pos hwants]
    rw [← advanceReader_response hresponse, ← hread]
  | read k =>
    obtain ⟨found, hfound, hread⟩ := Option.bind_eq_some_iff.mp hitem
    split at hread
    next hreading =>
      obtain ⟨hwants, hread⟩ := Option.ite_none_left_eq_some.mp hread
      refine ⟨k, found.frames.next?.2, ?_⟩
      simp only [undergo, SessionRun.next, SessionRun.withSession, stepReader, hfound, hreading,
        if_neg hwants]
      rw [← advanceReader_response hresponse, ← hread]
    next => cases hread
  | «begin» | step | launched | write | written | writeFails | processEnds | wait => cases hitem

/-! ### Other events -/

theorem desk_transportClosed (s : Session) (link : LinkId) (now : Instant)
    (own : Option PendingReply) :
    DeskMoves (s.desk own) ((s.transportClosed link now).desk own) := by
  have hlost := Relation.ReflTransGen.single (desk_markCrashed s now own)
  unfold transportClosed
  split
  · split
    · exact hlost
    · exact hlost
    · exact hlost
    · exact hlost
    · exact .refl
  · exact .refl

theorem desk_sendReply (s : Session) (link : LinkId) (reply : Json) (own : Option PendingReply) :
    (s.sendReply link reply).desk own = s.desk own := by
  unfold sendReply
  split
  · rfl
  · split <;> rfl

theorem desk_handleItem {item : FrameReader.Item} (h : item.response? = none)
    (own : Option PendingReply) :
    DeskMoves (s.desk own) ((s.handleItem link now item).desk own) := by
  cases item with
  | ended => exact desk_transportClosed s link now own
  | failed reason => exact desk_transportClosed s link now own
  | event event =>
    cases event with
    | frame frame =>
      simp only [FrameReader.Item.response?] at h
      simp only [handleItem, handleEvent]
      split
      next message hmessage =>
        rw [hmessage] at h
        cases message with
        | response id outcome => cases h
        | request id method params =>
          have hdesk := desk_sendReply { s with active := true } link
            (replyToServer id method params) none
          exact deskMoves_of_eq hdesk own
        | notification method params => exact .refl
      next => exact .refl
    | error error =>
      cases error with
      | unexpectedEnd => exact desk_transportClosed s link now own
      | missingLength | invalidLength | oversized | headerTooLong | invalidJson => exact .refl

theorem desk_advanceReader {read : Option FrameReader.Item × FrameReader}
    (h : read.1.bind FrameReader.Item.response? = none) (own : Option PendingReply) :
    DeskMoves (s.desk own) ((s.advanceReader link now read).desk own) := by
  obtain ⟨item, frames⟩ := read
  cases item with
  | none => exact .refl
  | some item =>
    exact desk_handleItem (s := s.updateLink link fun link => { link with frames }) h own

/-- An event that brings no response leaves the table alone, or fails all requests. -/
theorem desk_undergo (h : s.response? event = none) (own : Option PendingReply) :
    DeskMoves (s.desk own) ((s.undergo now event).desk own) := by
  cases event with
  | hear k said =>
    simp only [undergo, SessionRun.next, SessionRun.withSession, hear]
    cases hfound : s.links[k]? with
    | none => exact .refl
    | some found =>
      dsimp only
      split
      next hwants =>
        refine desk_advanceReader ?_ own
        simpa [response?, item?, hfound, hwants] using h
      next => exact .refl
  | read k =>
    simp only [undergo, SessionRun.next, SessionRun.withSession, stepReader]
    cases hfound : s.links[k]? with
    | none => exact .refl
    | some found =>
      dsimp only
      split
      next => exact .refl
      next =>
        split
        next => exact .refl
        next => exact .refl
      next hreading =>
        split
        next => exact .refl
        next hwants =>
          refine desk_advanceReader ?_ own
          simpa [response?, item?, hfound, hreading, hwants] using h
  | launched result =>
    simp only [undergo, SessionRun.next]
    split
    · exact .refl
    · exact .refl
  | write k =>
    simp only [undergo, SessionRun.next, SessionRun.withSession, stepWriter]
    split
    · exact .refl
    · exact .refl
  | «begin» | step | written | writeFails | processEnds | wait => exact .refl

end Session
end SymbolSearch
