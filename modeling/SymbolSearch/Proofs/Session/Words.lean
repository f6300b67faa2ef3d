import SymbolSearch.Proofs.Session.Correlation
import SymbolSearch.Proofs.Session.Saying

/-!
# Words about documents

A client says something about documents when it opens one at the server, asks about it, or closes it.
This file says once what a step of an operation on a session mentions.

* `DocumentWord` — what can be said about a document; everything else that is said is silent about
  documents.
* `Post.Mentions` — what gets into the outboxes, as far as it is about documents; it is one word at
  most.
* `SessionTask.Plain` — operations on a session that never mention a document;
  `SessionTask.mentions_step` and `SessionTask.plain_step` say that their steps do not.
* `NoticePoint.Mentioning` and `QueryPoint.Mentioning` — what a step of a notification or a question
  about a document mentions, and on which link.
-/

namespace SymbolSearch

/-! ### Words -/

/-- What can be said about a document. -/
inductive DocumentWord where
  | opened (uri : String)
  /-- A question about the document is asked. -/
  | asked (uri : String)
  | closed (uri : String)
  deriving DecidableEq, Repr

/-- The document that a word is about. -/
def DocumentWord.uri : DocumentWord → String
  | .opened uri | .asked uri | .closed uri => uri

/-- The document that a question is about. -/
def Query.uri? : Query → Option String
  | .documentSymbols uri => some uri
  | .references uri _ _ => some uri
  | .workspaceSymbols _ => none

/-- What an item says about a document. -/
def Outgoing.word? : Outgoing → Option DocumentWord
  | .request _ (.query query) => query.uri?.map .asked
  | .notice (.didOpen uri _ _) => some (.opened uri)
  | .notice (.didClose uri) => some (.closed uri)
  | _ => none

/-- A word, if it is said on a link. -/
def wordsOn (word? : Option (LinkId × DocumentWord)) (k : LinkId) : List DocumentWord :=
  match word? with
  | some (j, word) => if k = j then [word] else []
  | none => []

/-- What gets into the outboxes says one thing about a document, or nothing. -/
structure Post.Mentions (post post' : Post) (word? : Option (LinkId × DocumentWord)) : Prop where
  grows : Post.Grows (fun _ _ => True) post post'
  words : ∀ k, (saidInLine (post.box k).line (post'.box k).line).filterMap Outgoing.word? =
    wordsOn word? k

section Mentions

variable {may : LinkId → Outgoing → Prop} {s m s' : Session} {own own' : Option SendPoint}
  {word? : Option (LinkId × DocumentWord)} {k : LinkId} {item : Outgoing}

namespace Post.Mentions

theorem grows_true (h : PostMoves may (s.post own) (s'.post own')) :
    Post.Grows (fun _ _ => True) (s.post none) (s'.post none) :=
  (Session.grows_of_moves h).mono fun _ _ _ => trivial

theorem of_still (h : PostMoves may (s.post own) (s'.post own'))
    (still : Post.Still (s.post own) (s'.post none)) :
    Mentions (s.post none) (s'.post none) none :=
  ⟨grows_true h, fun k => congrArg (List.filterMap Outgoing.word?) (still.saidInLine_eq_nil k)⟩

theorem of_puts (h : PostMoves may (s.post own) (s'.post own'))
    (puts : Post.Puts k item (s.post own) (s'.post none)) :
    Mentions (s.post none) (s'.post none) (item.word?.map (k, ·)) := by
  refine ⟨grows_true h, fun j => ?_⟩
  have hsaid : saidInLine ((s.post none).box j).line ((s'.post none).box j).line =
      if j = k then [item] else [] := puts.saidInLine_eq j
  rw [hsaid]
  by_cases hj : j = k
  · cases hword : item.word? <;> simp [hj, hword, wordsOn]
  · cases hword : item.word? <;> simp [hj, wordsOn]

theorem of_same (h : s'.post none = s.post none) :
    Mentions (s.post none) (s'.post none) none := by
  rw [h]
  exact ⟨.refl fun k hk => Session.line_of_le hk,
    fun k => congrArg (List.filterMap Outgoing.word?) ((Post.Still.refl _).saidInLine_eq_nil k)⟩

/-- Nothing that mentions a document was said. -/
theorem of_grows (h : Post.Grows may (s.post none) (s'.post none))
    (hplain : ∀ k item, may k item → item.word? = none) :
    Mentions (s.post none) (s'.post none) none := by
  refine ⟨h.mono fun _ _ _ => trivial, fun k => ?_⟩
  exact List.filterMap_eq_nil_iff.mpr fun item hitem => hplain k item (Session.said_may h item hitem)

/-- Nothing has got in before. -/
theorem after_still (grows : Post.Grows (fun _ _ => True) (s.post none) (m.post none))
    (still : Post.Still (s.post own) (m.post none))
    (h : Mentions (m.post none) (s'.post none) word?) :
    Mentions (s.post none) (s'.post none) word? := by
  refine ⟨grows.trans h.grows fun j hj => Session.line_of_le hj, fun j => ?_⟩
  have hline : ((m.post none).box j).line = ((s.post none).box j).line := still.line j
  rw [← h.words j, hline]

end Post.Mentions

end Mentions

/-! ### Operations that mention no document -/

theorem MailMove.own_may {may : LinkId → Outgoing → Prop} {post post' : Post}
    (h : MailMove may post post') :
    ∀ send, post'.own = some send → may send.link send.item := by
  cases h with
  | joins k item outbox ticket hmay =>
    rintro send ⟨⟩
    exact hmay
  | puts | claims | loses | abandons => rintro send ⟨⟩

/-- Whatever waits for room was allowed to be said. -/
theorem PostMoves.own_may {may : LinkId → Outgoing → Prop} {post post' : Post}
    (h : PostMoves may post post')
    (hbefore : ∀ send, post.own = some send → may send.link send.item) :
    ∀ send, post'.own = some send → may send.link send.item := by
  induction h with
  | refl => exact hbefore
  | tail _ hmove ih =>
    cases hmove with
    | mails move => exact move.own_may
    | closes | opens => exact ih

section Plain

variable {s : Session} {now : Instant}

/-- A request that has begun is made. -/
theorem CallPoint.call?_step (now : Instant) (point : CallPoint) (s : Session) :
    (point.step now s).2.point?.bind call? = none := by
  cases point with
  | starting call timeout =>
    simp only [step]
    split
    · rfl
    · split <;> rfl
  | sending reply send =>
    simp only [step]
    split <;> rfl
  | waiting reply link =>
    simp only [step]
    split <;> rfl

theorem QueryPoint.call?_step (now : Instant) (point : QueryPoint) (s : Session) :
    (point.step now s).2.point?.bind call? = none := by
  have hafter (query : Query) (stepped : Stepped Session CallPoint (Except SessionError Json))
      (h : stepped.2.point?.bind CallPoint.call? = none) :
      (afterCall query stepped).2.point?.bind call? = none := by
    obtain ⟨m, progress⟩ := stepped
    cases progress with
    | blocked => rfl
    | moved call => exact h
    | finished result =>
      simp only [afterCall, finish]
      split <;> rfl
  cases point with
  | starting query =>
    simp only [step]
    split
    · exact hafter query _ (CallPoint.call?_step now _ s)
    · rfl
  | calling query call => exact hafter query _ (call.call?_step now s)

namespace EnsurePoint

theorem call?_fail (ticket : Ticket) (s : Session) (error : SessionError) :
    (fail now ticket s error).2.point?.bind call? = none := by
  unfold fail
  split <;> rfl

theorem call?_afterCall (ticket : Ticket) (deadline : Instant)
    (stepped : Stepped Session CallPoint (Except SessionError Json))
    (h : stepped.2.point?.bind CallPoint.call? = none) :
    (afterCall now ticket deadline stepped).2.point?.bind call? = none := by
  obtain ⟨m, progress⟩ := stepped
  cases progress with
  | blocked => rfl
  | moved call => exact h
  | finished result =>
    cases result with
    | error error => exact call?_fail ticket m error
    | ok answer =>
      show (confirm now ticket deadline m answer).2.point?.bind call? = none
      unfold confirm
      repeat' split
      all_goals rfl

theorem call?_step (now : Instant) (point : EnsurePoint) (s : Session) :
    (point.step now s).2.point?.bind call? = none := by
  cases point with
  | asking => rfl
  | queued ticket =>
    simp only [step, decide]
    repeat' split
    all_goals rfl
  | cooling resume | launching ticket =>
    simp only [step]
    split <;> rfl
  | linked ticket deadline =>
    simp only [step, greet]
    split
    · exact call?_fail ticket s _
    · exact call?_afterCall ticket deadline _ (CallPoint.call?_step now _ s)
  | greeting ticket call deadline =>
    simp only [step]
    split
    · split <;> rfl
    · exact call?_afterCall ticket deadline _ (call.call?_step now s)
  | confirming ticket send deadline capabilities =>
    simp only [step]
    split
    · rfl
    · rfl
    · exact call?_fail ticket _ _
    · split <;> rfl

end EnsurePoint

namespace StopPoint

theorem call?_close (ticket : Ticket) (s : Session) :
    (close now ticket s).2.point?.bind call? = none := by
  unfold close
  split
  · rfl
  · dsimp only
    split <;> rfl

theorem call?_finishOutbox (ticket : Ticket) (s : Session) :
    (finishOutbox now ticket s).2.point?.bind call? = none := by
  unfold finishOutbox
  repeat' split
  all_goals first | rfl | exact call?_close ticket _

theorem call?_sendExit (ticket : Ticket) (s : Session) :
    (sendExit now ticket s).2.point?.bind call? = none := by
  unfold sendExit
  repeat' split
  all_goals first | rfl | exact call?_finishOutbox ticket _

theorem call?_afterFarewell (ticket : Ticket)
    (stepped : Stepped Session CallPoint (Except SessionError Json))
    (h : stepped.2.point?.bind CallPoint.call? = none) :
    (afterFarewell now ticket stepped).2.point?.bind call? = none := by
  obtain ⟨m, progress⟩ := stepped
  cases progress with
  | blocked => rfl
  | moved call => exact h
  | finished result => exact call?_sendExit ticket m

theorem call?_step (now : Instant) (point : StopPoint) (s : Session) :
    (point.step now s).2.point?.bind call? = none := by
  cases point with
  | asking => rfl
  | queued ticket =>
    simp only [step, decide]
    repeat' split
    all_goals rfl
  | parting ticket asked =>
    simp only [step, part]
    split
    · exact call?_afterFarewell ticket _ (CallPoint.call?_step now _ s)
    · exact call?_finishOutbox ticket s
  | farewell ticket call => exact call?_afterFarewell ticket _ (call.call?_step now s)
  | exiting ticket send =>
    simp only [step]
    split
    · rfl
    · exact call?_finishOutbox ticket _
    · rfl
  | finishing ticket send =>
    simp only [step]
    split
    · rfl
    · exact call?_close ticket _
    · rfl
  | reaping ticket link deadline | killing ticket link | draining ticket link deadline =>
    simp only [step]
    repeat' split
    all_goals rfl

end StopPoint

namespace SessionTask

/-- An operation that has nothing to say about documents. -/
def Plain (task : SessionTask) : Prop := ∀ item, task.Utters item → item.word? = none

variable {task : SessionTask}

/-- It says nothing about them. -/
theorem mentions_step (h : task.Plain) (now : Instant) (s : Session) :
    Post.Mentions (s.post none) ((task.step now s).1.post none) none := by
  have hmoves : PostMoves (fun _ item => item.word? = none) (s.post task.send?) _ :=
    task.post_step now s fun _ => h
  exact .of_grows (Session.grows_of_moves hmoves) fun _ _ hmay => hmay

theorem call?_step (now : Instant) (task : SessionTask) (s : Session) :
    (task.step now s).2.point?.bind call? = none := by
  have hmap {π ρ : Type} {make : π → SessionTask} {reply : ρ → SessionReply}
      (call? : π → Option Call) (heq : ∀ point, (make point).call? = call? point) {progress : Progress π ρ}
      (h : progress.point?.bind call? = none) :
      (progress.map make reply).point?.bind SessionTask.call? = none := by
    cases progress with
    | blocked | finished => rfl
    | moved point => exact (heq point).trans h
  cases task with
  | ensure point => exact hmap EnsurePoint.call? (fun _ => rfl) (point.call?_step now s)
  | ask point => exact hmap QueryPoint.call? (fun _ => rfl) (point.call?_step now s)
  | notify point =>
    exact hmap (fun _ => none) (fun _ => rfl) (by cases (point.step s).2 <;> rfl)
  | stop point => exact hmap StopPoint.call? (fun _ => rfl) (point.call?_step now s)
  | reset point =>
    exact hmap (fun _ => none) (fun _ => rfl) (by cases (s.stepReset point).2 <;> rfl)
  | checkAlive point =>
    exact hmap (fun _ => none) (fun _ => rfl) (by cases (s.stepAlive point).2 <;> rfl)

theorem not_starts_step (now : Instant) (task : SessionTask) (s : Session) (notice : Notice) :
    (task.step now s).2.point? ≠ some (.notify (.starting notice)) := by
  have hother {π ρ : Type} {make : π → SessionTask} {reply : ρ → SessionReply}
      (hne : ∀ point, make point ≠ .notify (.starting notice)) (progress : Progress π ρ) :
      (progress.map make reply).point? ≠ some (.notify (.starting notice)) := by
    cases progress with
    | blocked | finished => rintro ⟨⟩
    | moved point => exact fun h => hne point (Option.some.inj h)
  cases task with
  | ensure | ask | stop | reset | checkAlive => exact hother (by rintro _ ⟨⟩) _
  | notify point =>
    cases point with
    | starting =>
      simp only [step, NoticePoint.step]
      repeat' split
      all_goals rintro ⟨⟩
    | sending =>
      simp only [step, NoticePoint.step]
      split
      all_goals rintro ⟨⟩

/-- And it has nothing to say about them later. -/
theorem plain_step (h : task.Plain) {task' : SessionTask} (hstep : (task.step now s).2 = .moved task') :
    task'.Plain := by
  have hmoves : PostMoves (fun _ item => item.word? = none) (s.post task.send?) _ :=
    task.post_step now s fun _ => h
  have hown := hmoves.own_may fun send hsend => h _ (.inl ⟨send, hsend, rfl⟩)
  have hcall := task.call?_step now s
  have hnotify := task.not_starts_step now s
  rw [hstep] at hown hcall hnotify
  rintro item (⟨send, hsend, rfl⟩ | ⟨id, call, hsome, rfl⟩ | hkind)
  · exact hown send hsend
  · rw [show task'.call? = none from hcall] at hsome
    cases hsome
  · cases task' with
    | ensure =>
      rcases hkind with rfl | ⟨id, hello, rfl⟩
      · rfl
      · rfl
    | stop =>
      rcases hkind with rfl | rfl | ⟨id, rfl⟩
      · rfl
      · rfl
      · rfl
    | notify point =>
      cases point with
      | starting notice => exact absurd rfl (hnotify notice)
      | sending => exact hkind.elim
    | ask | reset | checkAlive => exact hkind.elim

end SessionTask

end Plain

/-! ### Notifications and questions about a document -/

/-- A link that an item can go through: the one that it waits for, or that of the writer. -/
def Session.Offers (s : Session) (waiting? : Option SendPoint) (k : LinkId) : Prop :=
  s.writer = some k ∨ ∃ send, waiting? = some send ∧ send.link = k

namespace NoticePoint

/-- What a notification says about a document. -/
def word? : NoticePoint → Option DocumentWord
  | .starting notice => (Outgoing.notice notice).word?
  | .sending send => send.item.word?

/-- What a step of a notification can do, as far as it is about a document. -/
inductive Mentioning (s : Session) (notice : NoticePoint) (word : DocumentWord) :
    Stepped Session NoticePoint (Except SessionError Unit) → Prop where
  | sent (m : Session) (k : LinkId) (offers : s.Offers notice.send? k)
      (mentions : Post.Mentions (s.post none) (m.post none) (some (k, word))) :
      Mentioning s notice word (m, .finished (.ok ()))
  | refused (m : Session) (error : SessionError)
      (mentions : Post.Mentions (s.post none) (m.post none) none) :
      Mentioning s notice word (m, .finished (.error error))
  | waits (m : Session) (send : SendPoint) (offers : s.Offers notice.send? send.link)
      (mentions : Post.Mentions (s.post none) (m.post none) none)
      (says_word : send.item.word? = some word) :
      Mentioning s notice word (m, .moved (.sending send))
  | blocks (m : Session) : Mentioning s notice word (m, .blocked)

theorem mentioning_step {notice : NoticePoint} {word : DocumentWord}
    (h : notice.word? = some word) (s : Session) : Mentioning s notice word (notice.step s) := by
  have hnotifies {k : LinkId} {item : Outgoing}
      {stepped : Stepped Session NoticePoint (Except SessionError Unit)}
      (hitem : item.word? = some word) (offers : s.Offers notice.send? k)
      (h : Notifies (fun _ _ => True) (s.post notice.send?) k item stepped) :
      Mentioning s notice word stepped := by
    cases h with
    | sent m moves puts =>
      have hmentions := Post.Mentions.of_puts moves.postMoves puts
      rw [hitem] at hmentions
      exact .sent m k offers hmentions
    | refused m error moves still =>
      exact .refused m error (.of_still moves.postMoves still)
    | waits m send moves still link_eq item_eq =>
      exact .waits m send (link_eq ▸ offers) (.of_still moves.postMoves still)
        (item_eq ▸ hitem)
    | blocks m same => exact .blocks m
  cases notice with
  | starting notice =>
    rcases @notifies_starting (fun _ _ => True) notice s (fun _ _ => trivial) with
      ⟨k, hwriter, hstep⟩ | ⟨error, hstep⟩
    · exact hnotifies h (.inl hwriter) hstep
    · rw [hstep]
      exact .refused s error (.of_same rfl)
  | sending send =>
    exact hnotifies h (.inr ⟨send, rfl, rfl⟩) (notifies_sending send s trivial)

end NoticePoint

namespace QueryPoint

/-- Whether what is still to be said of a question is the question. -/
structure Asks (query : Query) (point : QueryPoint) : Prop where
  query_eq : point.query = query
  item : ∀ send, point.send? = some send → ∃ id, send.item = .request id (.query query)
  call : ∀ call, point.call? = some call → call = .query query

/-- What a step of a question can do, as far as it is about a document. -/
inductive Mentioning (s : Session) (point : QueryPoint) (query : Query) :
    Stepped Session QueryPoint (Except SessionError Answer) → Prop where
  | puts (m : Session) (point' : QueryPoint) (k : LinkId) (offers : s.Offers point.send? k)
      (mentions : Post.Mentions (s.post none) (m.post none)
        (query.uri?.map fun uri => (k, .asked uri)))
      (asks : point'.Asks query) (free : point'.send? = none) :
      Mentioning s point query (m, .moved point')
  | waits (m : Session) (point' : QueryPoint) (send : SendPoint)
      (offers : s.Offers point.send? send.link)
      (mentions : Post.Mentions (s.post none) (m.post none) none)
      (asks : point'.Asks query) (send_eq : point'.send? = some send) :
      Mentioning s point query (m, .moved point')
  | ends (m : Session) (result : Except SessionError Answer)
      (grows : Post.Grows (fun _ _ => True) (s.post none) (m.post none))
      (still : Post.Still (s.post none) (m.post none))
      (writer : m.writer = s.writer ∨ m.writer = none) :
      Mentioning s point query (m, .finished result)
  | blocks (m : Session) : Mentioning s point query (m, .blocked)

theorem asks_starting (query : Query) : (QueryPoint.starting query).Asks query where
  query_eq := rfl
  item := by rintro send ⟨⟩
  call := by rintro call ⟨⟩; rfl

/-- A question stays the same. -/
theorem query_step (now : Instant) (point : QueryPoint) (s : Session) {point' : QueryPoint}
    (h : (point.step now s).2 = .moved point') : point'.query = point.query := by
  have hafter (query : Query) (stepped : Stepped Session CallPoint (Except SessionError Json))
      (h : (afterCall query stepped).2 = .moved point') : point'.query = query := by
    obtain ⟨m, progress⟩ := stepped
    cases progress with
    | blocked => cases h
    | moved call =>
      cases h
      rfl
    | finished result =>
      simp only [afterCall, finish] at h
      split at h
      · cases h
      · cases h
  cases point with
  | starting query =>
    simp only [step] at h
    split at h
    · exact hafter query _ h
    · cases h
  | calling query call => exact hafter query _ h

theorem mentioning_step {point : QueryPoint} {query : Query} (h : point.Asks query) (now : Instant)
    (s : Session) : Mentioning s point query (point.step now s) := by
  obtain ⟨hquery, hitem, hcall⟩ := h
  have hmails : Mails
      (fun k item => s.Offers point.send? k ∧ ∃ id, item = .request id (.query query))
      (s.post point.send?) send? (point.step now s) := point.mails_step now s
    (fun call k hsome hwriter => ⟨.inl hwriter, s.nextId, by rw [hcall call hsome]⟩)
    fun send hsome => ⟨.inr ⟨send, hsome, rfl⟩, hitem send hsome⟩
  have hnone := point.call?_step now s
  have hsame : ∀ {point' : QueryPoint}, (point.step now s).2 = .moved point' →
      point'.query = point.query := point.query_step now s
  have hwriter := (point.drift_step now s).writer
  generalize point.step now s = stepped at hmails hnone hsame hwriter
  have hcall' {m : Session} {point' : QueryPoint} (hstep : stepped = (m, .moved point')) :
      ∀ call, point'.call? = some call → call = .query query := by
    intro call hsome
    rw [hstep, show (Progress.moved point' : Progress QueryPoint _).point?.bind call? =
      point'.call? from rfl, hsome] at hnone
    cases hnone
  cases hmails with
  | puts m point' k item hmay moves puts free =>
    obtain ⟨offers, id, rfl⟩ := hmay
    refine .puts m point' k offers ?_ ⟨(hsame rfl).trans hquery, ?_, hcall' rfl⟩ free
    · have hmentions := Post.Mentions.of_puts moves.postMoves puts
      rwa [Outgoing.word?, Option.map_map] at hmentions
    · rintro send hsend
      rw [free] at hsend
      cases hsend
  | waits m point' send hmay moves still send_eq =>
    obtain ⟨offers, id, hid⟩ := hmay
    refine .waits m point' send offers (.of_still moves.postMoves still)
      ⟨(hsame rfl).trans hquery, ?_, hcall' rfl⟩ send_eq
    intro found hfound
    obtain rfl : send = found := Option.some.inj (send_eq.symm.trans hfound)
    exact ⟨id, hid⟩
  | ends m result moves still =>
    exact .ends m result (Post.Mentions.grows_true moves.postMoves) ⟨still.count, still.line⟩ hwriter
  | blocks m same => exact .blocks m

end QueryPoint

end SymbolSearch
