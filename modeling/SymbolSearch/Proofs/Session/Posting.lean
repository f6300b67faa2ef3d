import SymbolSearch.Proofs.Session.Mail

/-!
# Operations, readers and writers at the mailboxes

* `SessionTask.post_step` and `SessionTask.post_cancel` — every operation on a session does nothing
  with the mailboxes but send what it may utter, give links up and make new ones.
* `Mailbox.Hears` and `Mailbox.Writes` — what a reader and a writer can do with their mailbox;
  `Session.within_undergo` — no other event does anything with one.
-/

namespace SymbolSearch

open Session

/-! ### Bringing a session up -/

namespace EnsurePoint

/-- The message of the handshake that waits for room. -/
def send? : EnsurePoint → Option SendPoint
  | .greeting _ call _ => call.send?
  | .confirming _ send _ _ => some send
  | _ => none

/-- The request that is not made yet. -/
def call? : EnsurePoint → Option Call
  | .greeting _ call _ => call.call?
  | _ => none

variable {may : LinkId → Outgoing → Prop} {post : Post} {s m : Session} {now : Instant}
  {ticket : Ticket} {before : Option SendPoint}

theorem post_finish (h : PostMoves may post (m.post none)) (result : Except SessionError Unit) :
    PostMoves may post ((finish ticket m result).1.post
      ((finish ticket m result).2.unsent before send?)) := h

theorem post_crash (h : PostMoves may post (m.post none)) (error : SessionError) :
    PostMoves may post ((crash now ticket m error).1.post
      ((crash now ticket m error).2.unsent before send?)) := by
  have hcrashed : PostMoves may post ((m.markCrashed now).post none) := by
    rwa [post_markCrashed]
  exact post_finish (hcrashed.trans (post_dropConnection _ none)) _

theorem post_fail (h : PostMoves may post (m.post none)) (error : SessionError) :
    PostMoves may post ((fail now ticket m error).1.post
      ((fail now ticket m error).2.unsent before send?)) := by
  unfold fail
  split
  · exact post_crash h _
  · exact post_crash h _

theorem post_confirm (hmay : ∀ k, may k (.notice .initialized))
    (h : PostMoves may post (m.post none)) (deadline : Instant) (answer : Json) :
    PostMoves may post ((confirm now ticket deadline m answer).1.post
      ((confirm now ticket deadline m answer).2.unsent before send?)) := by
  unfold confirm
  split
  · exact post_fail h _
  · split
    · exact post_fail h _
    next link _ =>
      have hsend := SendPoint.mailed_begin m (hmay link)
      generalize SendPoint.begin m link (.notice .initialized) = stepped at hsend
      cases hsend with
      | sent m' moves => exact h.trans moves.postMoves
      | refused m' moves => exact post_fail (h.trans moves.postMoves) _
      | waits m' send moves => exact h.trans moves.postMoves
      | blocks m' same =>
        refine post_fail ?_ _
        rwa [show m'.post none = m.post none from same]

theorem post_afterCall (hmay : ∀ k, may k (.notice .initialized)) (deadline : Instant)
    {stepped : Stepped Session CallPoint (Except SessionError Json)}
    (h : PostMoves may post (stepped.1.post (stepped.2.unsent before CallPoint.send?))) :
    PostMoves may post ((afterCall now ticket deadline stepped).1.post
      ((afterCall now ticket deadline stepped).2.unsent before send?)) := by
  obtain ⟨m, progress⟩ := stepped
  cases progress with
  | blocked | moved => exact h
  | finished result =>
    cases result with
    | ok answer => exact post_confirm hmay h deadline answer
    | error error => exact post_fail h error

/-- A step of bringing a session up. -/
theorem post_step (now : Instant) (point : EnsurePoint) (s : Session)
    (hmay : ∀ k, may k (.notice .initialized))
    (hello : ∀ k id hello, may k (.request id (.hello hello)))
    (hnew : ∀ k id call, point.call? = some call → may k (.request id call))
    (hold : ∀ send, point.send? = some send → may send.link send.item) :
    PostMoves may (s.post point.send?)
      ((point.step now s).1.post ((point.step now s).2.unsent point.send? send?)) := by
  cases point with
  | asking => exact .refl
  | queued ticket =>
    simp only [step]
    split
    · unfold decide
      split
      all_goals try exact .refl
      · exact post_dropConnection s none
      · split
        · exact .refl
        · dsimp only
          split
          · exact .refl
          · exact post_dropConnection (s := { s with restarts := s.restarts + 1 }) none
    · exact .refl
  | cooling resume =>
    simp only [step]
    split
    · exact .refl
    · exact .refl
  | launching ticket =>
    simp only [step]
    split
    · exact post_addLink s _ none
    · show PostMoves may (s.post none) ((s.markCrashed now).post none)
      rw [post_markCrashed]
    · exact .refl
  | linked ticket deadline =>
    simp only [step, greet]
    split
    · exact post_fail .refl _
    next found _ =>
      have hcall := (CallPoint.mail_step now (.starting (.hello found) s.settings.handshakeTimeout) s
        (by rintro _ k ⟨⟩ -; exact hello k s.nextId found) (by rintro send ⟨⟩)).postMoves
      exact post_afterCall hmay deadline hcall
  | greeting ticket call deadline =>
    have hcall := (call.mail_step now s (fun found k h _ => hnew k s.nextId found h) hold).postMoves
    simp only [step]
    split
    next m hstep =>
      rw [hstep] at hcall
      split
      · exact post_crash (hcall.trans (call.mail_cancel m).postMoves) _
      · exact hcall
    · exact post_afterCall hmay deadline hcall
  | confirming ticket send deadline capabilities =>
    have hsend := send.mailed_step s (hold send rfl)
    simp only [step]
    generalize send.step s = stepped at hsend
    cases hsend with
    | sent m moves => exact moves.postMoves
    | refused m moves => exact post_fail moves.postMoves _
    | waits m send' moves => exact moves.postMoves
    | blocks m same =>
      have hsame : m.post (some send) = s.post (some send) := same
      dsimp only
      split
      · refine post_crash ?_ _
        have hcancel : MailMoves may (m.post (some send)) _ := send.mail_cancel m
        rw [hsame] at hcancel
        exact hcancel.postMoves
      · show PostMoves may _ (m.post (some send))
        rw [hsame]
        exact .refl

theorem post_cancel (point : EnsurePoint) (s : Session) :
    PostMoves may (s.post point.send?) ((point.cancel s).post none) := by
  cases point with
  | asking | cooling | queued | launching | linked => exact .refl
  | greeting ticket call => exact (call.mail_cancel s).postMoves
  | confirming ticket send => exact (send.mail_cancel s).postMoves

end EnsurePoint

/-! ### Closing a session -/

namespace StopPoint

/-- The message that waits for room. -/
def send? : StopPoint → Option SendPoint
  | .farewell _ call => call.send?
  | .exiting _ send => some send
  | .finishing _ send => some send
  | _ => none

/-- The request that is not made yet. -/
def call? : StopPoint → Option Call
  | .farewell _ call => call.call?
  | _ => none

variable {may : LinkId → Outgoing → Prop} {post : Post} {s m : Session} {now : Instant}
  {ticket : Ticket} {before : Option SendPoint}

theorem post_close (h : PostMoves may post (m.post none)) :
    PostMoves may post ((close now ticket m).1.post
      ((close now ticket m).2.unsent before send?)) := by
  unfold close
  split
  · exact h
  · dsimp only
    split
    · exact h
    · exact h

theorem post_finishOutbox (hfinish : ∀ k, may k .finish) (h : PostMoves may post (m.post none)) :
    PostMoves may post ((finishOutbox now ticket m).1.post
      ((finishOutbox now ticket m).2.unsent before send?)) := by
  have hrelease {m' : Session} (own : Option SendPoint) (h : PostMoves may post (m'.post own)) :
      PostMoves may post (m'.releaseWriter.post own) := by
    rwa [post_releaseWriter]
  unfold finishOutbox
  split
  · exact post_close h
  next link _ =>
    have hsend := SendPoint.mailed_begin m (hfinish link)
    generalize SendPoint.begin m link .finish = stepped at hsend
    cases hsend with
    | sent m' moves => exact post_close (hrelease none (h.trans moves.postMoves))
    | refused m' moves => exact post_close (hrelease none (h.trans moves.postMoves))
    | waits m' send moves => exact hrelease (some send) (h.trans moves.postMoves)
    | blocks m' same =>
      refine post_close (hrelease none ?_)
      rwa [show m'.post none = m.post none from same]

theorem post_sendExit (hfinish : ∀ k, may k .finish) (hexit : ∀ k, may k (.notice .exit))
    (h : PostMoves may post (m.post none)) :
    PostMoves may post ((sendExit now ticket m).1.post
      ((sendExit now ticket m).2.unsent before send?)) := by
  unfold sendExit
  split
  · exact post_finishOutbox hfinish h
  next link _ =>
    have hsend := SendPoint.mailed_begin m (hexit link)
    generalize SendPoint.begin m link (.notice .exit) = stepped at hsend
    cases hsend with
    | sent m' moves => exact post_finishOutbox hfinish (h.trans moves.postMoves)
    | refused m' moves => exact post_finishOutbox hfinish (h.trans moves.postMoves)
    | waits m' send moves => exact h.trans moves.postMoves
    | blocks m' same =>
      refine post_finishOutbox hfinish ?_
      rwa [show m'.post none = m.post none from same]

theorem post_afterFarewell (hfinish : ∀ k, may k .finish) (hexit : ∀ k, may k (.notice .exit))
    {stepped : Stepped Session CallPoint (Except SessionError Json)}
    (h : PostMoves may post (stepped.1.post (stepped.2.unsent before CallPoint.send?))) :
    PostMoves may post ((afterFarewell now ticket stepped).1.post
      ((afterFarewell now ticket stepped).2.unsent before send?)) := by
  obtain ⟨m, progress⟩ := stepped
  cases progress with
  | blocked | moved => exact h
  | finished result => exact post_sendExit hfinish hexit h

/-- A step of closing a session. -/
theorem post_step (now : Instant) (point : StopPoint) (s : Session) (hfinish : ∀ k, may k .finish)
    (hexit : ∀ k, may k (.notice .exit)) (hshutdown : ∀ k id, may k (.request id .shutdown))
    (hnew : ∀ k id call, point.call? = some call → may k (.request id call))
    (hold : ∀ send, point.send? = some send → may send.link send.item) :
    PostMoves may (s.post point.send?)
      ((point.step now s).1.post ((point.step now s).2.unsent point.send? send?)) := by
  cases point with
  | asking => exact .refl
  | queued ticket =>
    simp only [step]
    split
    · unfold decide
      split
      · exact .refl
      · exact .refl
    · exact .refl
  | parting ticket asked =>
    simp only [step, part]
    split
    · have hcall := (CallPoint.mail_step now (.starting .shutdown s.settings.shutdownTimeout) s
        (by rintro _ k ⟨⟩ -; exact hshutdown k s.nextId) (by rintro send ⟨⟩)).postMoves
      exact post_afterFarewell hfinish hexit hcall
    · exact post_finishOutbox hfinish .refl
  | farewell ticket call =>
    exact post_afterFarewell hfinish hexit
      (call.mail_step now s (fun found k h _ => hnew k s.nextId found h) hold).postMoves
  | exiting ticket send =>
    have hsend := send.mailed_step s (hold send rfl)
    simp only [step]
    generalize send.step s = stepped at hsend
    cases hsend with
    | sent m moves => exact post_finishOutbox hfinish moves.postMoves
    | refused m moves => exact post_finishOutbox hfinish moves.postMoves
    | waits m send' moves => exact moves.postMoves
    | blocks m same =>
      show PostMoves may _ (m.post (some send))
      rw [show m.post (some send) = s.post (some send) from same]
      exact .refl
  | finishing ticket send =>
    have hsend := send.mailed_step s (hold send rfl)
    simp only [step]
    generalize send.step s = stepped at hsend
    cases hsend with
    | sent m moves => exact post_close moves.postMoves
    | refused m moves => exact post_close moves.postMoves
    | waits m send' moves => exact moves.postMoves
    | blocks m same =>
      show PostMoves may _ (m.post (some send))
      rw [show m.post (some send) = s.post (some send) from same]
      exact .refl
  | reaping ticket link deadline =>
    simp only [step]
    split
    · split
      · have hsame : (s.updateLink link fun found => { found with killed := true }).post none =
            s.post none :=
          post_updateLink_same (fun found => { found with killed := true }) (fun _ _ => rfl) none
        show PostMoves may (s.post none) (Session.post _ none)
        rw [hsame]
      · exact .refl
    · exact .refl
  | killing ticket link =>
    simp only [step]
    split
    · exact .refl
    · exact .refl
  | draining ticket link deadline =>
    simp only [step]
    split
    · exact post_drop s link none
    · exact .refl

theorem post_cancel (point : StopPoint) (s : Session) :
    PostMoves may (s.post point.send?) ((point.cancel s).post none) := by
  cases point with
  | asking | queued | parting => exact .refl
  | farewell ticket call => exact (call.mail_cancel s).postMoves
  | exiting ticket send | finishing ticket send => exact (send.mail_cancel s).postMoves
  | reaping ticket link | killing ticket link | draining ticket link => exact post_drop s link none

end StopPoint

/-! ### Any operation -/

namespace Session

variable {may : LinkId → Outgoing → Prop} {s : Session}

theorem post_stepReset (point : GuardPoint) (s : Session) :
    PostMoves may (s.post none) ((s.stepReset point).1.post none) := by
  have hreset : PostMoves may (s.post none) (s.resetNow.1.post none) := by
    have hdrop : PostMoves may (s.post none) (s.dropConnection.releaseWriter.post none) := by
      rw [post_releaseWriter]
      exact post_dropConnection s none
    unfold resetNow
    split
    · exact hdrop
    · exact hdrop
    · exact .refl
  have hmoves := point.step_moves resetNow s
  unfold stepReset
  generalize point.step resetNow s = stepped at hmoves
  cases hmoves with
  | blocks | joins => exact .refl
  | acts ticket holds => exact hreset

theorem post_stepAlive (point : GuardPoint) (s : Session) :
    (s.stepAlive point).1.post none = s.post none := by
  obtain ⟨turns, hturns⟩ := s.exists_stepAlive point
  rw [hturns]
  rfl

end Session

namespace SessionTask

/-- The item that waits for room. -/
def send? : SessionTask → Option SendPoint
  | .ensure point => point.send?
  | .ask point => point.send?
  | .notify point => point.send?
  | .stop point => point.send?
  | .reset _ | .checkAlive _ => none

/-- The request that is not made yet. -/
def call? : SessionTask → Option Call
  | .ensure point => point.call?
  | .ask point => point.call?
  | .stop point => point.call?
  | .notify _ | .reset _ | .checkAlive _ => none

/-- What an operation may want to say from now on. -/
def Utters (task : SessionTask) (item : Outgoing) : Prop :=
  (∃ send, task.send? = some send ∧ item = send.item) ∨
    (∃ id call, task.call? = some call ∧ item = .request id call) ∨
    match task with
    | .ensure _ => item = .notice .initialized ∨ ∃ id hello, item = .request id (.hello hello)
    | .notify (.starting notice) => item = .notice notice
    | .stop _ => item = .finish ∨ item = .notice .exit ∨ ∃ id, item = .request id .shutdown
    | _ => False

variable {may : LinkId → Outgoing → Prop} {post : Post} {s : Session} {before : Option SendPoint}

theorem unsent_map {π ρ : Type} {make : π → SessionTask} {reply : ρ → SessionReply}
    (before : Option SendPoint) (progress : Progress π ρ) :
    (progress.map make reply).unsent before send? =
      progress.unsent before fun point => (make point).send? := by
  cases progress <;> rfl

/-- A step of any operation. -/
theorem post_step (now : Instant) (task : SessionTask) (s : Session)
    (hmay : ∀ k item, task.Utters item → may k item) :
    PostMoves may (s.post task.send?)
      ((task.step now s).1.post ((task.step now s).2.unsent task.send? send?)) := by
  have hnew (k : LinkId) (id : Nat) (call : Call) (h : task.call? = some call) :
      may k (.request id call) := hmay k _ (.inr (.inl ⟨id, call, h, rfl⟩))
  have hold (send : SendPoint) (h : task.send? = some send) : may send.link send.item :=
    hmay send.link _ (.inl ⟨send, h, rfl⟩)
  cases task with
  | ensure point =>
    have hstep := point.post_step now s (fun k => hmay k _ (.inr (.inr (.inl rfl))))
      (fun k id hello => hmay k _ (.inr (.inr (.inr ⟨id, hello, rfl⟩)))) hnew hold
    rwa [step, Stepped.map, unsent_map]
  | ask point =>
    have hstep := (point.mail_step now s (fun call k h _ => hnew k s.nextId call h) hold).postMoves
    rwa [step, Stepped.map, unsent_map]
  | notify point =>
    have hstep := (point.mail_step s
      (by rintro notice k rfl -; exact hmay k _ (.inr (.inr rfl))) hold).postMoves
    rwa [step, Stepped.map, unsent_map]
  | stop point =>
    have hstep := point.post_step now s (fun k => hmay k _ (.inr (.inr (.inl rfl))))
      (fun k => hmay k _ (.inr (.inr (.inr (.inl rfl)))))
      (fun k id => hmay k _ (.inr (.inr (.inr (.inr ⟨id, rfl⟩))))) hnew hold
    rwa [step, Stepped.map, unsent_map]
  | reset point =>
    have hstep : PostMoves may _ _ := s.post_stepReset point
    rw [step, Stepped.map, unsent_map]
    generalize s.stepReset point = stepped at hstep ⊢
    obtain ⟨s', progress⟩ := stepped
    cases progress <;> exact hstep
  | checkAlive point =>
    have hstep := s.post_stepAlive point
    rw [step, Stepped.map, unsent_map]
    generalize s.stepAlive point = stepped at hstep ⊢
    obtain ⟨s', progress⟩ := stepped
    have hsame : PostMoves may (s.post none) (s'.post none) := by
      rw [show s'.post none = s.post none from hstep]
    cases progress <;> exact hsame

/-- An operation that is given up. -/
theorem post_cancel (task : SessionTask) (s : Session) :
    PostMoves may (s.post task.send?) ((task.cancel s).post none) := by
  cases task with
  | ensure point => exact point.post_cancel s
  | ask point => exact (point.mail_cancel s).postMoves
  | notify point => exact (point.mail_cancel s).postMoves
  | stop point => exact point.post_cancel s
  | reset point | checkAlive point => cases point <;> exact .refl

end SessionTask

/-! ### Readers and writers -/

/-- What a reader can do with its mailbox. -/
inductive Mailbox.Hears (mailbox : Mailbox) : Mailbox → Prop where
  | stays : Hears mailbox mailbox
  | puts (reply : Json) (outbox : Outbox Outgoing) (reads : mailbox.reader = .reading)
      (offer : mailbox.outbox.offer (.reply reply) = (outbox, .sent)) :
      Hears mailbox { mailbox with outbox }
  | joins (reply : Json) (outbox : Outbox Outgoing) (ticket : Ticket)
      (reads : mailbox.reader = .reading)
      (offer : mailbox.outbox.offer (.reply reply) = (outbox, .waits ticket)) :
      Hears mailbox { mailbox with outbox, reader := .replying reply ticket }
  | claims (reply : Json) (outbox : Outbox Outgoing) (ticket : Ticket)
      (waits : mailbox.reader = .replying reply ticket)
      (claim : mailbox.outbox.claim ticket (.reply reply) = (outbox, .sent)) :
      Hears mailbox { mailbox with outbox, reader := .reading }
  | loses (closed : mailbox.outbox.isOpen = false) : Hears mailbox { mailbox with reader := .reading }
  | ends (reads : mailbox.reader = .reading) : Hears mailbox { mailbox with reader := .done }

/-- What a writer can do with its mailbox, and the item that it takes to write it. -/
inductive Mailbox.Writes (mailbox : Mailbox) : Option Outgoing → Mailbox → Prop where
  | stays : Writes mailbox none mailbox
  | takes (item : Outgoing) (message : Json) (rest : List Outgoing)
      (items : mailbox.outbox.items = item :: rest) (idle : mailbox.writer = .taking)
      (isMessage : item.message? = some message) :
      Writes mailbox (some item) { mailbox with
        outbox := ({ mailbox.outbox with items := rest }).grant
        writer := .writing (encodeFrame message) }
  | gives (bytes : ByteArray) (writer : WriterPoint) (busy : mailbox.writer = .writing bytes)
      (goesOn : writer ≠ .done) : Writes mailbox none { mailbox with writer }
  | closes (after : Mailbox) (closed : after.outbox.isOpen = false)
      (empty : after.outbox.items = []) : Writes mailbox none after

/-- The item that the writer takes next to write it. -/
def Mailbox.nextItem? (mailbox : Mailbox) : Option Outgoing :=
  match mailbox.writer, mailbox.outbox.items with
  | .taking, item :: _ => if item.message?.isSome then some item else none
  | _, _ => none

/-- The item that an event takes from the outbox of a link to be written. -/
def Session.takenItem? (s : Session) (k : LinkId) : SessionEvent → Option Outgoing
  | .write id => if id = k then (s.mailbox k).nextItem? else none
  | _ => none

namespace Session

variable {s s' : Session} {id k : LinkId} {link : Link} {now : Instant}

/-- Something happens in one mailbox, and nothing in the others. -/
structure Within (step : Mailbox → Mailbox → Prop) (id : LinkId) (s s' : Session) : Prop where
  step : step (s.mailbox id) (s'.mailbox id)
  post : s'.post none =
    { s.post none with box := Function.update s.mailbox id (s'.mailbox id) }

variable {step : Mailbox → Mailbox → Prop}

theorem within_of_same (hstays : step (s.mailbox id) (s.mailbox id))
    (h : s'.post none = s.post none) : Within step id s s' := by
  have hbox : s'.mailbox = s.mailbox := congrArg Post.box h
  refine ⟨by rwa [hbox], ?_⟩
  rw [h, hbox, Function.update_eq_self]
  rfl

theorem within_of_links (hstays : step (s.mailbox id) (s.mailbox id)) (h : s'.links = s.links) :
    Within step id s s' := within_of_same hstays (post_of_links h none)

theorem within_updateLink {change : Link → Link} (hlink : s.links[id]? = some link)
    (h : step link.mailbox (change link).mailbox) : Within step id s (s.updateLink id change) := by
  have hself : (s.updateLink id change).mailbox id = (change link).mailbox :=
    mailbox_updateLink_self hlink
  refine ⟨?_, ?_⟩
  · rw [hself, mailbox_eq hlink]
    exact h
  · rw [hself]
    exact post_updateLink hlink none

/-- What leaves all mailboxes alone may come first. -/
theorem within_of_before {m : Session} (hpost : m.post none = s.post none)
    (h : Within step id m s') : Within step id s s' := by
  have hbox : m.mailbox = s.mailbox := congrArg Post.box hpost
  refine ⟨by rw [← hbox]; exact h.step, ?_⟩
  rw [h.post, hpost, hbox]

theorem updateLink_updateLink (s : Session) (id : LinkId) (change change' : Link → Link) :
    (s.updateLink id change).updateLink id change' =
      s.updateLink id fun link => change' (change link) := by
  simp only [updateLink, List.modify_modify_eq]
  rfl

/-! #### Readers -/

/-- Whether the reader of a link reads. -/
def IsReading (s : Session) (id : LinkId) : Prop :=
  ∃ link, s.links[id]? = some link ∧ link.reader = .reading

theorem hears_sendReply (h : s.IsReading id) (reply : Json) :
    Within Mailbox.Hears id s (s.sendReply id reply) := by
  obtain ⟨link, hlink, hreading⟩ := h
  have hreads : link.mailbox.reader = .reading := hreading
  unfold sendReply
  split
  next => exact within_of_same .stays rfl
  next found hfound =>
    obtain rfl : link = found := Option.some.inj (hlink.symm.trans hfound)
    split
    next outbox ticket hoffer =>
      rw [setReader, updateOutbox, updateLink_updateLink]
      exact within_updateLink hlink (.joins reply _ ticket hreads (Outbox.offer_bare hoffer))
    next outbox sending hwaits hoffer =>
      refine within_updateLink hlink ?_
      cases sending with
      | sent => exact .puts reply _ hreads (Outbox.offer_bare hoffer)
      | refused =>
        obtain ⟨-, rfl⟩ := Outbox.isOpen_of_refused hoffer
        exact .stays
      | waits ticket => exact absurd rfl (hwaits ticket)

theorem hears_dispatch (h : s.IsReading id) (message : Message) :
    Within Mailbox.Hears id s (s.dispatch id message) := by
  cases message with
  | response responseId outcome =>
    simp only [dispatch]
    split
    · exact within_of_links .stays rfl
    · exact within_of_same .stays rfl
  | request requestId method params => exact hears_sendReply h _
  | notification method params => exact within_of_links .stays rfl

theorem isReading_releaseWriter (h : s.IsReading id) : s.releaseWriter.IsReading id := by
  unfold releaseWriter
  split
  next writer _ =>
    obtain ⟨link, hlink, hreading⟩ := h
    by_cases hwriter : writer = id
    · subst hwriter
      exact ⟨{ link with outbox := link.outbox.release }, by simp [updateOutbox, updateLink, hlink],
        hreading⟩
    · exact ⟨link, by simp [updateOutbox, updateLink, hlink, hwriter], hreading⟩
  next => exact h

theorem hears_endReader (h : s.IsReading id) (now : Instant) :
    Within Mailbox.Hears id s (s.endReader id now) := by
  -- The end of the stream itself does not touch any mailbox.
  have hclosed : (s.transportClosed id now).post none = s.post none ∧
      (s.transportClosed id now).IsReading id := by
    have hcrash : (s.markCrashed now).post none = s.post none ∧ (s.markCrashed now).IsReading id :=
      ⟨post_markCrashed s now none, isReading_releaseWriter h⟩
    unfold transportClosed
    split
    · split
      · exact hcrash
      · exact hcrash
      · exact hcrash
      · exact hcrash
      · exact ⟨rfl, h⟩
    · exact ⟨rfl, h⟩
  obtain ⟨hpost, link, hlink, hreading⟩ := hclosed
  refine within_of_before hpost (within_updateLink hlink ?_)
  rw [Link.stopReader, hreading]
  exact .ends hreading

theorem hears_handleItem (h : s.IsReading id) (now : Instant) (item : FrameReader.Item) :
    Within Mailbox.Hears id s (s.handleItem id now item) := by
  cases item with
  | ended => exact hears_endReader h now
  | failed reason => exact hears_endReader h now
  | event event =>
    cases event with
    | frame frame =>
      simp only [handleItem, handleEvent]
      split
      next message _ =>
        have hactive : IsReading { s with active := true } id := h
        exact within_of_before (m := { s with active := true }) rfl (hears_dispatch hactive message)
      next => exact within_of_links .stays rfl
    | error error =>
      cases error with
      | unexpectedEnd => exact hears_endReader h now
      | missingLength | invalidLength | oversized | headerTooLong | invalidJson =>
        exact within_of_links .stays rfl

theorem hears_advanceReader (h : s.IsReading id) (now : Instant)
    (read : Option FrameReader.Item × FrameReader) :
    Within Mailbox.Hears id s (s.advanceReader id now read) := by
  have hpost : (s.updateLink id fun link => { link with frames := read.2 }).post none =
      s.post none :=
    post_updateLink_same (fun link => { link with frames := read.2 }) (fun _ _ => rfl) none
  have hreading : (s.updateLink id fun link => { link with frames := read.2 }).IsReading id := by
    obtain ⟨link, hlink, hreading⟩ := h
    exact ⟨{ link with frames := read.2 }, by simp [updateLink, hlink], hreading⟩
  unfold advanceReader
  split
  next item _ => exact within_of_before hpost (hears_handleItem hreading now item)
  next => exact within_of_same .stays hpost

/-- What a server says, and the end of what it says. -/
theorem hears_hear (s : Session) (id : LinkId) (now : Instant) (said : SourceRead) :
    Within Mailbox.Hears id s (s.hear id now said) := by
  unfold hear
  split
  next link hlink =>
    split
    next hwants =>
      have hreading : s.IsReading id := by
        refine ⟨link, hlink, ?_⟩
        unfold Link.wantsRead at hwants
        split at hwants
        next hreading => exact hreading
        next => cases hwants
      exact hears_advanceReader hreading now _
    next => exact within_of_same .stays rfl
  next => exact within_of_same .stays rfl

theorem hears_stepReader (s : Session) (id : LinkId) (now : Instant) :
    Within Mailbox.Hears id s (s.stepReader id now).1 := by
  unfold stepReader
  split
  next => exact within_of_same .stays rfl
  next link hlink =>
    split
    next => exact within_of_same .stays rfl
    next reply ticket hreplying =>
      split
      next => exact within_of_same .stays rfl
      next outbox sending hwaits hclaim =>
        rw [setReader, updateOutbox, updateLink_updateLink]
        refine within_updateLink hlink ?_
        cases sending with
        | sent => exact .claims reply _ ticket hreplying (Outbox.claim_bare hclaim)
        | refused =>
          obtain ⟨hclosed, rfl⟩ := Outbox.isOpen_of_claim_refused hclaim
          exact .loses hclosed
        | waits ticket => exact absurd rfl (hwaits ticket)
    next hreading =>
      split
      · exact within_of_same .stays rfl
      · exact hears_advanceReader ⟨link, hlink, hreading⟩ now _

end Session

/-! #### Writers -/

theorem Link.writes_stepWriter (link : Link) :
    link.mailbox.Writes link.mailbox.nextItem? link.stepWriter.1.mailbox := by
  unfold Link.stepWriter Mailbox.nextItem?
  show Mailbox.Writes _ (match link.writer, link.outbox.items with
    | .taking, item :: _ => if item.message?.isSome then some item else none
    | _, _ => none) _
  cases hwriter : link.writer with
  | taking =>
    unfold Outbox.take
    cases hitems : link.outbox.items with
    | nil =>
      dsimp only
      split
      · exact .closes _ rfl rfl
      · exact .stays
    | cons item rest =>
      dsimp only
      cases hmessage : item.message? with
      | none => exact .closes _ rfl rfl
      | some message =>
        have hgrant : ({ link.outbox with items := rest } : Outbox Outgoing).grant.bare =
            ({ link.outbox.bare with items := rest } : Outbox Outgoing).grant := by
          unfold Outbox.grant Outbox.bare
          dsimp only
          split <;> rfl
        show link.mailbox.Writes (some item) ⟨_, _, _⟩
        rw [hgrant]
        exact .takes item message rest hitems hwriter hmessage
  | writing rest | done => exact .stays

namespace Session

variable {s : Session} {id : LinkId} {change : Link → Link}

/-- A change of one link by its writer. -/
theorem writes_updateLink {taken : Option Outgoing} (hnone : s.links[id]? = none → taken = none)
    (h : ∀ link, s.links[id]? = some link → link.mailbox.Writes taken (change link).mailbox) :
    Within (·.Writes taken ·) id s (s.updateLink id change) := by
  cases hlink : s.links[id]? with
  | none =>
    rw [updateLink_eq_self hlink, hnone hlink]
    exact within_of_same .stays rfl
  | some link => exact within_updateLink hlink (h link hlink)

theorem writes_stepWriter (s : Session) (id : LinkId) :
    Within (·.Writes (s.mailbox id).nextItem? ·) id s (s.stepWriter id).1 := by
  have hnone (h : s.links[id]? = none) : (s.mailbox id).nextItem? = none := by
    rw [mailbox_of_none h]
    rfl
  unfold stepWriter
  split
  next hlink =>
    rw [hnone hlink]
    exact within_of_same .stays rfl
  next link hlink =>
    refine writes_updateLink hnone fun found hfound => ?_
    obtain rfl : link = found := Option.some.inj (hlink.symm.trans hfound)
    rw [mailbox_eq hlink]
    exact link.writes_stepWriter

/-- An event that is no step of an operation: a reader or a writer goes on, or no mailbox changes. -/
theorem within_undergo (now : Instant) (event : SessionEvent) (s : Session) :
    ∃ id, (∀ k, k ≠ id → s.takenItem? k event = none) ∧
      (s.takenItem? id event = none ∧ Within Mailbox.Hears id s (s.undergo now event) ∨
        Within (·.Writes (s.takenItem? id event) ·) id s (s.undergo now event)) := by
  have hsame (h : (s.undergo now event).post none = s.post none)
      (hnone : ∀ k, s.takenItem? k event = none) :
      ∃ id, (∀ k, k ≠ id → s.takenItem? k event = none) ∧
        (s.takenItem? id event = none ∧ Within Mailbox.Hears id s (s.undergo now event) ∨
          Within (·.Writes (s.takenItem? id event) ·) id s (s.undergo now event)) :=
    ⟨0, fun k _ => hnone k, .inl ⟨hnone 0, within_of_same .stays h⟩⟩
  cases event with
  | hear id said => exact ⟨id, fun _ _ => rfl, .inl ⟨rfl, hears_hear s id now said⟩⟩
  | read id => exact ⟨id, fun _ _ => rfl, .inl ⟨rfl, hears_stepReader s id now⟩⟩
  | write id =>
    have hself : s.takenItem? id (.write id) = (s.mailbox id).nextItem? := if_pos rfl
    refine ⟨id, fun k hk => if_neg hk.symm, .inr ?_⟩
    rw [hself]
    exact writes_stepWriter s id
  | written id count =>
    refine ⟨id, fun _ _ => rfl, .inr (writes_updateLink (fun _ => rfl) fun link _ => ?_)⟩
    unfold Link.written
    split
    next rest hwriting =>
      refine .gives rest _ hwriting ?_
      dsimp only
      split <;> rintro ⟨⟩
    next => exact .stays
  | writeFails id =>
    exact ⟨id, fun _ _ => rfl,
      .inr (writes_updateLink (fun _ => rfl) fun _ _ => .closes _ rfl rfl)⟩
  | processEnds id =>
    exact ⟨id, fun _ _ => rfl, .inr (writes_updateLink (fun _ => rfl) fun _ _ => .stays)⟩
  | launched result =>
    refine hsame ?_ fun _ => rfl
    simp only [undergo, SessionRun.next]
    split
    · exact post_of_links rfl none
    · rfl
  | «begin» | step | wait => exact hsame rfl fun _ => rfl

end Session
end SymbolSearch
