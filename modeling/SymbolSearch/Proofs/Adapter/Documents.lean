import SymbolSearch.Proofs.Adapter.Guards
import SymbolSearch.Proofs.Session.Words

/-!
# What questions do with their documents

* `InquiryPoint.Fits` — what a question to an adapter has to do and to say fits to what was asked.
* `DocumentStage` — how far a question has come with its document; `DocumentMoves` and
  `InquiryPoint.document_step` tell what each step mentions on the way.
* `AdapterCourse.Tells` and `AdapterCourse.next_tells` — so whatever happens to an adapter, one word
  about one document is said, or none, and only by a question that has to do with the document.
-/

namespace SymbolSearch

/-! ### Questions to an adapter -/

/-- A question about a document that is asked of the server as it was asked of the adapter. -/
structure Bracket.Fits (bracket : Bracket) : Prop where
  query : bracket.inquiry.query? = .ok bracket.query
  uri : bracket.query.uri? = some bracket.uri

/-- What an inquiry has to do and to say fits to what was asked. -/
def InquiryPoint.Fits : InquiryPoint → Prop
  | .starting _ | .scanning _ _ => True
  | .reading inquiry query path => inquiry.query? = .ok query ∧ inquiry.path? = some path
  | .queued bracket _ | .settling bracket _ _ => bracket.Fits
  | .opening bracket _ notice => bracket.Fits ∧ notice.word? = some (.opened bracket.uri)
  | .asking inquiry query call =>
    inquiry.query? = .ok query ∧ query.uri? = none ∧ call.Asks query
  | .askingInside bracket call => bracket.Fits ∧ call.Asks bracket.query
  | .closing bracket _ notice => bracket.Fits ∧ notice.word? = some (.closed bracket.uri)

/-- How far a question has come with its document, and what waits for room. -/
inductive DocumentStage where
  /-- It has not asked for a document yet. -/
  | coming
  | opening (uri : String) (waiting? : Option SendPoint)
  | inside (uri : String) (waiting? : Option SendPoint)
  | closing (uri : String) (waiting? : Option SendPoint)
  /-- It has nothing to do with a document any more. -/
  | gone

namespace DocumentStage

/-- The document. -/
def uri? : DocumentStage → Option String
  | .coming | .gone => none
  | .opening uri _ | .inside uri _ | .closing uri _ => some uri

end DocumentStage

/-- How far a question has come with its document. -/
def InquiryPoint.stage : InquiryPoint → DocumentStage
  | .queued bracket _ => .opening bracket.uri none
  | .opening bracket _ notice => .opening bracket.uri notice.send?
  | .settling bracket _ _ => .inside bracket.uri none
  | .askingInside bracket call => .inside bracket.uri call.send?
  | .closing bracket _ notice => .closing bracket.uri notice.send?
  | .starting _ | .reading _ _ _ => .coming
  | .asking _ _ _ | .scanning _ _ => .gone

/-- How far a question has come that may have ended. -/
def stageOf (point? : Option InquiryPoint) : DocumentStage := point?.elim .gone InquiryPoint.stage

/-- What a step does that brings a question from one stage to another, and what it says about the
    document on which link. -/
inductive DocumentMoves (s : Session) :
    DocumentStage → Option (LinkId × DocumentWord) → DocumentStage → Prop where
  | comes : DocumentMoves s .coming none .coming
  | passes : DocumentMoves s .coming none .gone
  | stays : DocumentMoves s .gone none .gone
  | joins (uri : String) : DocumentMoves s .coming none (.opening uri none)
  | waits (uri : String) (waiting? : Option SendPoint) (send : SendPoint)
      (offers : s.Offers waiting? send.link) :
      DocumentMoves s (.opening uri waiting?) none (.opening uri (some send))
  | opens (uri : String) (waiting? : Option SendPoint) (k : LinkId) (offers : s.Offers waiting? k) :
      DocumentMoves s (.opening uri waiting?) (some (k, .opened uri)) (.inside uri none)
  | fails (uri : String) (waiting? : Option SendPoint) :
      DocumentMoves s (.opening uri waiting?) none .gone
  | asks (uri : String) (waiting? : Option SendPoint) (k : LinkId) (offers : s.Offers waiting? k) :
      DocumentMoves s (.inside uri waiting?) (some (k, .asked uri)) (.inside uri none)
  | asksLater (uri : String) (waiting? : Option SendPoint) (send : SendPoint)
      (offers : s.Offers waiting? send.link) :
      DocumentMoves s (.inside uri waiting?) none (.inside uri (some send))
  | closes (before : DocumentStage) (uri : String) (waiting? : Option SendPoint) (k : LinkId)
      (isOpen : before = .inside uri waiting? ∨ before = .closing uri waiting?)
      (offers : s.Offers waiting? k) :
      DocumentMoves s before (some (k, .closed uri)) .gone
  | closesLater (before : DocumentStage) (uri : String) (waiting? : Option SendPoint)
      (send : SendPoint) (isOpen : before = .inside uri waiting? ∨ before = .closing uri waiting?)
      (offers : s.Offers waiting? send.link) :
      DocumentMoves s before none (.closing uri (some send))
  | leaves (before : DocumentStage) (uri : String) (waiting? : Option SendPoint)
      (isOpen : before = .inside uri waiting? ∨ before = .closing uri waiting?) :
      DocumentMoves s before none .gone

/-- What a step of a question mentions, how far it brings the question, and that what is left to be
    said still fits. -/
structure InquiryPoint.Proceeds (s : Session) (point : InquiryPoint) (s' : Session)
    (after : Option InquiryPoint) (word? : Option (LinkId × DocumentWord)) : Prop where
  mentions : Post.Mentions (s.post none) (s'.post none) word?
  moves : DocumentMoves s point.stage word? (stageOf after)
  fits : ∀ point', after = some point' → point'.Fits

/-! #### Guards are no matter of the session -/

theorem Adapter.session_lockDocument (adapter : Adapter) (uri : String) :
    (adapter.lockDocument uri).2.session = adapter.session := by
  unfold lockDocument findGuard
  cases adapter.openDocuments.lookup uri with
  | some id => rfl
  | none => rfl

theorem Adapter.session_unlockDocument (adapter : Adapter) (uri : String) (id : GuardId)
    (ticket : Ticket) : (adapter.unlockDocument uri id ticket).session = adapter.session := by
  unfold unlockDocument forgetGuard
  split <;> rfl

namespace InquiryPoint

variable {now : Instant} {files : Option Tree} {adapter : Adapter} {point : InquiryPoint}
  {bracket : Bracket} {s' : Session} {word? : Option (LinkId × DocumentWord)}

/-- A question about a document that can be put to a server knows the URI of the document. -/
theorem uri?_of_query? {inquiry : Inquiry} {query : Query} (h : inquiry.query? = .ok query) :
    query.uri? = inquiry.path?.map fun path => (fileUri? path).getD path := by
  cases inquiry with
  | document path | references path =>
    simp only [Inquiry.query?] at h
    split at h
    next uri huri =>
      cases h
      simp [Inquiry.path?, Query.uri?, huri]
    next => cases h
  | workspace text =>
    cases h
    rfl

/-- What comes after the question has nothing to do with the document, nor with the session. -/
theorem leave_eq (now : Instant) (bracket : Bracket) (adapter : Adapter)
    (result : Except SessionError Answer) :
    (leave now bracket adapter result).1.session = adapter.session ∧
      stageOf (leave now bracket adapter result).2.point? = .gone ∧
      ∀ point', (leave now bracket adapter result).2.point? = some point' → point'.Fits := by
  have hunlock := adapter.session_unlockDocument bracket.uri bracket.guard bracket.ticket
  cases result with
  | ok answer => exact ⟨hunlock, rfl, by rintro _ ⟨⟩⟩
  | error reason =>
    refine ⟨hunlock, rfl, ?_⟩
    rintro _ ⟨⟩
    trivial

theorem proceeds_leave {result : Except SessionError Answer}
    (mentions : Post.Mentions (adapter.session.post none) (s'.post none) word?)
    (moves : DocumentMoves adapter.session point.stage word? .gone) :
    Proceeds adapter.session point
      (leave now bracket { adapter with session := s' } result).1.session
      (leave now bracket { adapter with session := s' } result).2.point? word? := by
  obtain ⟨hsession, hstage, hfits⟩ := leave_eq now bracket { adapter with session := s' } result
  refine ⟨?_, ?_, hfits⟩
  · rw [hsession]
    exact mentions
  · rw [hstage]
    exact moves

/-- One who opens a document has nothing else to say first. -/
theorem Opens.fits {listener : Option Nat} {notice : NoticePoint}
    (h : point.Opens adapter bracket listener notice) (hfits : point.Fits) :
    bracket.Fits ∧ notice.word? = some (.opened bracket.uri) ∧
      point.stage = .opening bracket.uri notice.send? := by
  cases h with
  | begins => exact ⟨hfits, rfl, rfl⟩
  | goesOn => exact ⟨hfits.1, hfits.2, rfl⟩

theorem AsksInside.fits {call : QueryPoint} (h : point.AsksInside bracket call)
    (hfits : point.Fits) :
    bracket.Fits ∧ call.Asks bracket.query ∧ point.stage = .inside bracket.uri call.send? := by
  cases h with
  | begins => exact ⟨hfits, QueryPoint.asks_starting _, rfl⟩
  | goesOn => exact ⟨hfits.1, hfits.2, rfl⟩

/-- Listeners are no matter of the outboxes. -/
theorem post_withListeners (adapter : Adapter) (listeners : List (String × Broadcast Json)) :
    (adapter.withListeners listeners).session.post none = adapter.session.post none :=
  Session.post_of_links rfl none

/-- Opening a document. -/
theorem proceeds_opening {listener : Option Nat} {notice notice' : NoticePoint}
    {listeners : List (String × Broadcast Json)} (hfits : point.Fits)
    (before : point.Opens adapter bracket listener notice)
    (step : notice.step (adapter.withListeners listeners).session = (s', .moved notice')) :
    Proceeds adapter.session point s' (some (.opening bracket listener notice')) none := by
  obtain ⟨hbracket, hword, hstage⟩ := before.fits hfits
  have hmentioning := NoticePoint.mentioning_step hword (adapter.withListeners listeners).session
  rw [step] at hmentioning
  cases hmentioning with
  | waits m send offers mentions says_word =>
    rw [post_withListeners] at mentions
    refine ⟨mentions, ?_, ?_⟩
    · rw [hstage]
      exact .waits _ _ send offers
    · rintro _ ⟨⟩
      exact ⟨hbracket, says_word⟩

/-- A document was opened. -/
theorem proceeds_opened {listener : Option Nat} {notice : NoticePoint} {resume : Instant}
    {listeners : List (String × Broadcast Json)} (hfits : point.Fits)
    (before : point.Opens adapter bracket listener notice)
    (step : notice.step (adapter.withListeners listeners).session = (s', .finished (.ok ()))) :
    ∃ k, Proceeds adapter.session point s' (some (.settling bracket listener resume))
      (some (k, .opened bracket.uri)) := by
  obtain ⟨hbracket, hword, hstage⟩ := before.fits hfits
  have hmentioning := NoticePoint.mentioning_step hword (adapter.withListeners listeners).session
  rw [step] at hmentioning
  cases hmentioning with
  | sent m k offers mentions =>
    rw [post_withListeners] at mentions
    refine ⟨k, mentions, ?_, ?_⟩
    · rw [hstage]
      exact .opens _ _ k offers
    · rintro _ ⟨⟩
      exact hbracket

/-- A document could not be opened. -/
theorem proceeds_unopened {listener : Option Nat} {notice : NoticePoint} {reason : SessionError}
    {listeners listeners' : List (String × Broadcast Json)} (hfits : point.Fits)
    (before : point.Opens adapter bracket listener notice)
    (step : notice.step (adapter.withListeners listeners).session =
      (s', .finished (.error reason))) {stepped : Inquired}
    (hstepped : stepped =
      leave now bracket ({ adapter with session := s' }.withListeners listeners') (.error reason)) :
    Proceeds adapter.session point stepped.1.session stepped.2.point? none := by
  obtain ⟨-, hword, hstage⟩ := before.fits hfits
  have hmentioning := NoticePoint.mentioning_step hword (adapter.withListeners listeners).session
  rw [step] at hmentioning
  rw [hstepped]
  cases hmentioning with
  | refused m error mentions =>
    rw [post_withListeners] at mentions
    have hlisteners : Post.Mentions (adapter.session.post none)
        (({ s' with listeners := listeners' } : Session).post none) none := by
      rwa [show ({ s' with listeners := listeners' } : Session).post none = s'.post none from
        Session.post_of_links rfl none]
    exact proceeds_leave hlisteners (hstage ▸ .fails _ _)

/-- A question about an open document goes on. -/
theorem proceeds_asking {call call' : QueryPoint} {listeners : List (String × Broadcast Json)}
    (hfits : point.Fits) (before : point.AsksInside bracket call)
    (step : call.step now (adapter.withListeners listeners).session = (s', .moved call')) :
    ∃ word?, Proceeds adapter.session point s' (some (.askingInside bracket call')) word? := by
  obtain ⟨hbracket, hasks, hstage⟩ := before.fits hfits
  have hmentioning := QueryPoint.mentioning_step hasks now (adapter.withListeners listeners).session
  rw [step] at hmentioning
  cases hmentioning with
  | puts m _ k offers mentions asks free =>
    rw [post_withListeners, hbracket.uri] at mentions
    refine ⟨_, mentions, ?_, ?_⟩
    · show DocumentMoves _ _ _ (.inside bracket.uri call'.send?)
      rw [hstage, free]
      exact .asks _ _ k offers
    · rintro _ ⟨⟩
      exact ⟨hbracket, asks⟩
  | waits m _ send offers mentions asks send_eq =>
    rw [post_withListeners] at mentions
    refine ⟨none, mentions, ?_, ?_⟩
    · show DocumentMoves _ _ _ (.inside bracket.uri call'.send?)
      rw [hstage, send_eq]
      exact .asksLater _ _ send offers
    · rintro _ ⟨⟩
      exact ⟨hbracket, asks⟩

/-- What comes behind an answer goes where the answer came from, or to another server. -/
theorem mentioning_behind {call : QueryPoint} {listeners : List (String × Broadcast Json)}
    {middle : Session} {result : Except SessionError Answer} (hasks : call.Asks bracket.query)
    (answered : call.step now (adapter.withListeners listeners).session =
      (middle, .finished result)) :
    (∀ (s' : Session) (word? : Option (LinkId × DocumentWord)),
      Post.Mentions (middle.post none) (s'.post none) word? →
        Post.Mentions (adapter.session.post none) (s'.post none) word?) ∧
      ∀ waiting? k, middle.Offers none k → adapter.session.Offers waiting? k := by
  have hmentioning := QueryPoint.mentioning_step hasks now (adapter.withListeners listeners).session
  rw [answered] at hmentioning
  cases hmentioning with
  | ends m result grows still writer =>
    rw [post_withListeners] at grows still
    refine ⟨fun s' word? h => h.after_still grows still, ?_⟩
    rintro waiting? k (hwriter | ⟨send, ⟨⟩, -⟩)
    rcases writer with hsame | hnone
    · exact .inl (hsame.symm.trans hwriter)
    · rw [hnone] at hwriter
      cases hwriter

/-- A document begins to be closed. -/
theorem proceeds_closing {call : QueryPoint} {listeners : List (String × Broadcast Json)}
    {middle : Session} {result : Except SessionError Answer} {notice : NoticePoint}
    (hfits : point.Fits) (before : point.AsksInside bracket call)
    (answered : call.step now (adapter.withListeners listeners).session =
      (middle, .finished result))
    (step : (NoticePoint.starting (.didClose bracket.uri)).step middle = (s', .moved notice)) :
    Proceeds adapter.session point s' (some (.closing bracket result notice)) none := by
  obtain ⟨hbracket, hasks, hstage⟩ := before.fits hfits
  obtain ⟨hbehind, hoffers⟩ := mentioning_behind hasks answered
  have hword : (NoticePoint.starting (.didClose bracket.uri)).word? = some (.closed bracket.uri) :=
    rfl
  have hmentioning := NoticePoint.mentioning_step hword middle
  rw [step] at hmentioning
  cases hmentioning with
  | waits m send offers mentions says_word =>
    refine ⟨hbehind _ _ mentions, ?_, ?_⟩
    · rw [hstage]
      exact .closesLater _ _ _ send (.inl rfl) (hoffers _ _ offers)
    · rintro _ ⟨⟩
      exact ⟨hbracket, says_word⟩

/-- A document was closed at once, or the server could not be told. -/
theorem proceeds_closed {call : QueryPoint} {listeners : List (String × Broadcast Json)}
    {middle : Session} {result : Except SessionError Answer} {sent : Except SessionError Unit}
    (hfits : point.Fits) (before : point.AsksInside bracket call)
    (answered : call.step now (adapter.withListeners listeners).session =
      (middle, .finished result))
    (step : (NoticePoint.starting (.didClose bracket.uri)).step middle = (s', .finished sent)) :
    ∃ word?, Proceeds adapter.session point
      (leave now bracket { adapter with session := s' } result).1.session
      (leave now bracket { adapter with session := s' } result).2.point? word? := by
  obtain ⟨-, hasks, hstage⟩ := before.fits hfits
  obtain ⟨hbehind, hoffers⟩ := mentioning_behind hasks answered
  have hword : (NoticePoint.starting (.didClose bracket.uri)).word? = some (.closed bracket.uri) :=
    rfl
  have hmentioning := NoticePoint.mentioning_step hword middle
  rw [step] at hmentioning
  cases hmentioning with
  | sent m k offers mentions =>
    refine ⟨_, proceeds_leave (hbehind _ _ mentions) ?_⟩
    exact .closes _ _ _ k (.inl hstage) (hoffers _ _ offers)
  | refused m error mentions =>
    exact ⟨_, proceeds_leave (hbehind _ _ mentions) (.leaves _ _ _ (.inl hstage))⟩

/-- A document still has to be closed. -/
theorem proceeds_stillCloses (now : Instant) {result : Except SessionError Answer}
    {notice : NoticePoint} (hfits : Fits (.closing bracket result notice))
    {progress : Progress NoticePoint (Except SessionError Unit)}
    (step : notice.step adapter.session = (s', progress)) {stepped : Inquired}
    (hstepped : stepped = afterClosing now bracket result ({ adapter with session := s' }, progress))
    (hblocked : progress ≠ .blocked) :
    ∃ word?, Proceeds adapter.session (.closing bracket result notice) stepped.1.session
      stepped.2.point? word? := by
  obtain ⟨hbracket, hword⟩ := hfits
  have hmentioning := NoticePoint.mentioning_step hword adapter.session
  rw [step] at hmentioning
  rw [hstepped]
  cases hmentioning with
  | sent m k offers mentions =>
    exact ⟨_, proceeds_leave mentions (.closes _ _ _ k (.inr rfl) offers)⟩
  | refused m error mentions =>
    exact ⟨_, proceeds_leave mentions (.leaves _ _ _ (.inr rfl))⟩
  | waits m send offers mentions says_word =>
    refine ⟨none, mentions, .closesLater _ _ _ send (.inr rfl) offers, ?_⟩
    rintro _ ⟨⟩
    exact ⟨hbracket, says_word⟩
  | blocks => exact absurd rfl hblocked

/-- Whatever a step of a question does. -/
theorem document_step {stepped : Inquired} (hfits : point.Fits)
    (hmoves : InquiryMoves now files adapter point stepped) (hblocked : stepped.2 ≠ .blocked) :
    ∃ word?, Proceeds adapter.session point stepped.1.session stepped.2.point? word? := by
  have hsilent : Post.Mentions (adapter.session.post none) (adapter.session.post none) none :=
    .of_same rfl
  cases hmoves with
  | blocks => exact absurd rfl hblocked
  | unaskable | shuns | unreadable =>
    refine ⟨none, hsilent, .passes, ?_⟩
    rintro _ ⟨⟩
    trivial
  | remembers => exact ⟨none, hsilent, .passes, by rintro _ ⟨⟩⟩
  | scans => exact ⟨none, hsilent, .stays, by rintro _ ⟨⟩⟩
  | reads inquiry query path query_eq path_eq =>
    refine ⟨none, hsilent, .comes, ?_⟩
    rintro _ ⟨⟩
    exact ⟨query_eq, path_eq⟩
  | asks inquiry query query_eq no_path =>
    refine ⟨none, hsilent, .passes, ?_⟩
    rintro _ ⟨⟩
    refine ⟨query_eq, ?_, QueryPoint.asks_starting query⟩
    rw [uri?_of_query? query_eq, no_path]
    rfl
  | joins inquiry query path text uri uri_eq =>
    obtain ⟨hquery, hpath⟩ := hfits
    refine ⟨none, ?_, .joins uri, ?_⟩
    · rw [adapter.session_lockDocument]
      exact hsilent
    · rintro _ ⟨⟩
      refine ⟨hquery, ?_⟩
      rw [uri?_of_query? hquery, hpath, uri_eq]
      rfl
  | opening _ bracket listener notice notice' listeners s' before step =>
    exact ⟨none, proceeds_opening hfits before step⟩
  | opened _ bracket listener notice listeners s' resume before step =>
    obtain ⟨k, hproceeds⟩ := proceeds_opened hfits before step
    exact ⟨_, hproceeds⟩
  | unopened _ bracket listener notice listeners listeners' s' reason before step =>
    exact ⟨none, proceeds_unopened hfits before step rfl⟩
  | asking _ bracket call call' listeners s' before step => exact proceeds_asking hfits before step
  | closing _ bracket call listeners middle s' result notice before answered step =>
    exact ⟨none, proceeds_closing hfits before answered step⟩
  | closed _ bracket call listeners middle s' result sent before answered step =>
    exact proceeds_closed hfits before answered step
  | stillCloses bracket result notice notice' s' step =>
    exact proceeds_stillCloses now hfits step rfl (by rintro ⟨⟩)
  | leaves bracket result notice s' sent step =>
    exact proceeds_stillCloses now hfits step rfl (by rintro ⟨⟩)
  | stillAsks inquiry query call call' s' step =>
    obtain ⟨hquery, huri, hasks⟩ := hfits
    have hmentioning := QueryPoint.mentioning_step hasks now adapter.session
    rw [step] at hmentioning
    have hgoesOn (asks : call'.Asks query)
        (mentions : Post.Mentions (adapter.session.post none) (s'.post none) none) :
        Proceeds adapter.session (.asking inquiry query call) s'
          (some (.asking inquiry query call')) none := by
      refine ⟨mentions, .stays, ?_⟩
      rintro _ ⟨⟩
      exact ⟨hquery, huri, asks⟩
    cases hmentioning with
    | puts m _ k offers mentions asks free =>
      rw [huri] at mentions
      exact ⟨none, hgoesOn asks mentions⟩
    | waits m _ send offers mentions asks send_eq => exact ⟨none, hgoesOn asks mentions⟩
  | concludes inquiry query call s' result step =>
    obtain ⟨hquery, huri, hasks⟩ := hfits
    have hmentioning := QueryPoint.mentioning_step hasks now adapter.session
    rw [step] at hmentioning
    cases hmentioning with
    | ends m result grows still writer =>
      have hsame : Post.Mentions (s'.post none) (s'.post none) none := .of_same rfl
      have hmentions := hsame.after_still grows still
      cases result with
      | ok answer => exact ⟨none, hmentions, .stays, by rintro _ ⟨⟩⟩
      | error reason =>
        refine ⟨none, hmentions, .stays, ?_⟩
        rintro _ ⟨⟩
        trivial

end InquiryPoint

/-! ### Any operation -/

namespace AdapterTask

/-- What an operation has to say fits to what was asked. -/
def Fits : AdapterTask → Prop
  | .inquiry point => point.Fits
  | .onSession task => task.Plain

/-- How far an operation has come with a document. -/
def stage : AdapterTask → DocumentStage
  | .inquiry point => point.stage
  | .onSession _ => .coming

/-- How far it has come after a step. -/
def stageAfter (task : AdapterTask) : Progress AdapterTask AdapterReply → DocumentStage
  | .blocked => task.stage
  | .moved task' => task'.stage
  | .finished _ => .gone

variable {now : Instant} {files : Option Tree} {task : AdapterTask} {adapter : Adapter}

/-- Whatever a step of an operation does. -/
theorem document_step (hfits : task.Fits) (now : Instant) (files : Option Tree) (adapter : Adapter)
    (hblocked : (task.step now files adapter).2 ≠ .blocked) :
    ∃ word?, Post.Mentions (adapter.session.post none)
        ((task.step now files adapter).1.session.post none) word? ∧
      DocumentMoves adapter.session task.stage word?
        (task.stageAfter (task.step now files adapter).2) ∧
      ∀ task', (task.step now files adapter).2.point? = some task' → task'.Fits := by
  cases task with
  | inquiry point =>
    obtain ⟨word?, hmentions, hmoves, hafter⟩ := InquiryPoint.document_step hfits
      (point.step_moves now files adapter) (Stepped.ne_blocked_of_map hblocked)
    refine ⟨word?, hmentions, ?_, ?_⟩
    · simp only [step, Stepped.map]
      cases hstep : (point.step now files adapter).2 with
      | blocked => exact absurd hstep (Stepped.ne_blocked_of_map hblocked)
      | moved | finished =>
        rw [hstep] at hmoves
        exact hmoves
    · intro task' htask'
      simp only [step, Stepped.map] at htask'
      cases hstep : (point.step now files adapter).2 with
      | blocked | finished =>
        rw [hstep] at htask'
        cases htask'
      | moved point' =>
        rw [hstep] at htask' hafter
        cases htask'
        exact hafter point' rfl
  | onSession task =>
    refine ⟨none, task.mentions_step hfits now adapter.session, ?_, ?_⟩
    · simp only [step, Stepped.map, Adapter.withSession]
      cases (task.step now adapter.session).2 with
      | blocked | moved => exact .comes
      | finished => exact .passes
    · intro task' htask'
      simp only [step, Stepped.map, Adapter.withSession] at htask'
      cases hstep : (task.step now adapter.session).2 with
      | blocked | finished =>
        rw [hstep] at htask'
        cases htask'
      | moved found =>
        rw [hstep] at htask'
        cases htask'
        exact SessionTask.plain_step hfits hstep

/-- An operation that is given up says nothing. -/
theorem mentions_cancel (task : AdapterTask) (adapter : Adapter) :
    Post.Mentions (adapter.session.post none) ((task.cancel adapter).session.post none) none := by
  have hsilent {own : Option SendPoint} {s' : Session}
      (h : PostMoves (fun _ _ => False) (adapter.session.post own) (s'.post none)) {m : Session}
      (hsame : m.post none = s'.post none) :
      Post.Mentions (adapter.session.post none) (m.post none) none := by
    rw [hsame]
    exact .of_grows (Session.grows_of_moves h) fun _ _ => False.elim
  have hstop (after : Adapter) (listener : Option Nat) :
      (InquiryPoint.stopListening after listener).session.post none = after.session.post none := by
    obtain ⟨listeners, hlisteners⟩ := after.exists_stopListening listener
    rw [hlisteners]
    exact InquiryPoint.post_withListeners after listeners
  cases task with
  | inquiry point =>
    cases point with
    | starting | reading | queued | scanning => exact .of_same rfl
    | opening bracket listener notice =>
      exact hsilent (notice.mail_cancel adapter.session).postMoves (hstop _ listener)
    | settling bracket listener resume => exact .of_same (hstop adapter listener)
    | asking inquiry query call => exact hsilent (call.mail_cancel adapter.session).postMoves rfl
    | askingInside bracket call => exact hsilent (call.mail_cancel adapter.session).postMoves rfl
    | closing bracket result notice =>
      exact hsilent (notice.mail_cancel adapter.session).postMoves rfl
  | onSession task => exact hsilent (task.post_cancel adapter.session) rfl

end AdapterTask

/-- Whatever is asked of an adapter, its session is never asked to notify a server. -/
theorem AdapterCall.fits_task (call : AdapterCall) : call.task.Fits := by
  cases call with
  | ask inquiry => trivial
  | probe text =>
    rintro item (⟨send, ⟨⟩, -⟩ | ⟨id, call, ⟨⟩, rfl⟩ | hkind)
    · rfl
    · exact hkind.elim
  | ensure =>
    rintro item (⟨send, ⟨⟩, -⟩ | ⟨id, call, ⟨⟩, -⟩ | rfl | ⟨id, hello, rfl⟩)
    · rfl
    · rfl
  | stop =>
    rintro item (⟨send, ⟨⟩, -⟩ | ⟨id, call, ⟨⟩, -⟩ | rfl | rfl | ⟨id, rfl⟩)
    · rfl
    · rfl
    · rfl
  | reset | checkAlive =>
    rintro item (⟨send, ⟨⟩, -⟩ | ⟨id, call, ⟨⟩, -⟩ | hkind)
    exact hkind.elim

/-! ### Courses -/

namespace AdapterMoment

/-- What gets into the outbox of a link at a moment. -/
def said (moment : AdapterMoment) (k : LinkId) : List Outgoing :=
  moment.1.shared.session.said (adapterRules.next moment.1 moment.2).shared.session k

/-- What is said about documents on a link at a moment. -/
def words (moment : AdapterMoment) (k : LinkId) : List DocumentWord :=
  (said moment k).filterMap Outgoing.word?

/-- What is taken from the outbox of a link at a moment, to be written. -/
def taken (moment : AdapterMoment) (k : LinkId) : List Outgoing :=
  match moment.2 with
  | .occur (.happens event) => (moment.1.shared.session.takenItem? k event).toList
  | _ => []

end AdapterMoment

namespace AdapterCourse

/-- What the operations of a course have to say fits to what was asked. -/
def Fits (course : AdapterCourse) : Prop := ∀ i task, course.task? i = some task → task.Fits

/-- How far an operation of a course has come with a document. -/
def stageAt (course : AdapterCourse) (i : Nat) : DocumentStage :=
  (course.tasks[i]?).elim .coming fun standing => standing.point?.elim .gone AdapterTask.stage

/-- What an event can say about documents, and how far it brings the operations of a course. -/
inductive Tells (course course' : AdapterCourse) :
    AdapterCourseEvent → Option (LinkId × DocumentWord) → Prop where
  | speaks (i : Nat) (files : Option Tree) (task : AdapterTask)
      (progress : Progress AdapterTask AdapterReply) (word? : Option (LinkId × DocumentWord))
      (step : adapterRules.step? (course, .step i files) = some (i, task, progress))
      (goesOn : progress ≠ .blocked)
      (moves : DocumentMoves course.shared.session task.stage word? (task.stageAfter progress))
      (stages : course'.stageAt =
        Function.update course.stageAt i (task.stageAfter progress)) :
      Tells course course' (.step i files) word?
  | keepsSilent (event : AdapterCourseEvent)
      (waits : ∀ i task progress, adapterRules.step? (course, event) = some (i, task, progress) →
        progress = .blocked)
      (stages : course'.stageAt = course.stageAt) :
      Tells course course' event none
  | givesUp (i : Nat) (stages : course'.stageAt = Function.update course.stageAt i .gone) :
      Tells course course' (.giveUp i) none

variable {course : AdapterCourse} {event : AdapterCourseEvent} {i : Nat} {task : AdapterTask}
  {after : Adapter}

theorem stageAt_eq (hi : course.task? i = some task) : course.stageAt i = task.stage := by
  obtain ⟨standing, hget, hpoint⟩ := Option.bind_eq_some_iff.mp hi
  rw [stageAt, hget, Option.elim_some, hpoint]
  rfl

theorem stageAt_put (hi : course.task? i = some task)
    (standing : Standing AdapterTask (Option AdapterReply)) :
    stageAt (course.put i after standing) =
      Function.update course.stageAt i (standing.point?.elim .gone AdapterTask.stage) := by
  have hlt := Crowd.lt_of_task? hi
  funext j
  by_cases hj : j = i
  · subst hj
    rw [Function.update_self, stageAt, Crowd.put, List.getElem?_set_self hlt]
    rfl
  · rw [Function.update_of_ne hj, stageAt, Crowd.put, List.getElem?_set_ne (Ne.symm hj)]
    rfl

theorem stageAt_begin (call : AdapterCall) :
    stageAt { course with tasks := course.tasks ++ [.waiting (adapterRules.enter call)] } =
      course.stageAt := by
  funext j
  rw [stageAt, stageAt]
  rcases Nat.lt_trichotomy j course.tasks.length with hlt | rfl | hgt
  · rw [List.getElem?_append_left hlt]
  · rw [List.getElem?_concat_length, List.getElem?_eq_none_iff.mpr (Nat.le_refl _)]
    cases call <;> rfl
  · have hnone : course.tasks[j]? = none := List.getElem?_eq_none_iff.mpr (Nat.le_of_lt hgt)
    rw [hnone, List.getElem?_eq_none_iff.mpr]
    rw [List.length_append]
    exact hgt

theorem Fits.next (h : course.Fits) (event : AdapterCourseEvent) :
    Fits (adapterRules.next course event) := by
  have hput {i : Nat} {task : AdapterTask} {after : Adapter}
      {standing : Standing AdapterTask (Option AdapterReply)} (hi : course.task? i = some task)
      (hfits : ∀ task', standing.point? = some task' → task'.Fits) :
      Fits (course.put i after standing) := by
    intro j task' hj
    by_cases hji : i = j
    · subst hji
      rw [Crowd.task?_put_self hi] at hj
      exact hfits task' hj
    · rw [Crowd.task?_put_of_ne hji] at hj
      exact h j task' hj
  have hmoves := adapterRules.next_moves course event
  generalize adapterRules.next course event = course' at hmoves
  cases hmoves with
  | blocks | misses | waits | occurs => exact h
  | begins call =>
    intro j task hj
    by_cases hlast : j = course.tasks.length
    · rw [hlast, Crowd.task?_concat_self] at hj
      cases hj
      exact call.fits_task
    · rw [Crowd.task?_concat_of_ne hlast] at hj
      exact h j task hj
  | moves i files task task' shared stands step =>
    refine hput stands ?_
    rintro _ ⟨⟩
    have hstep : task.step course.now files course.shared = (shared, .moved task') := step
    obtain ⟨-, -, -, hfits⟩ := AdapterTask.document_step (h i task stands) course.now files
      course.shared (by rw [hstep]; rintro ⟨⟩)
    exact hfits task' (by rw [hstep]; rfl)
  | finishes i files task result shared stands step => exact hput stands (by rintro _ ⟨⟩)
  | givesUp i task stands => exact hput stands (by rintro _ ⟨⟩)

theorem fits_start (ecosystem : Ecosystem) (root : Path) (server : ServerConfig)
    (session : SessionSettings) (settings : AdapterSettings) :
    Fits (start ecosystem root server session settings) := by
  rintro i task ⟨⟩

theorem fits_after (ecosystem : Ecosystem) (root : Path) (server : ServerConfig)
    (session : SessionSettings) (settings : AdapterSettings) (events : List AdapterCourseEvent) :
    Fits (adapterRules.after (start ecosystem root server session settings) events) := by
  induction events using List.reverseRecOn with
  | nil => exact fits_start ecosystem root server session settings
  | append_singleton events event ih =>
    rw [adapterRules.after_concat]
    exact ih.next event

variable {spoken written : LinkId → List Outgoing}

open AdapterMoment

/-- Where nothing is taken to be written, what gets into the outboxes is what was said. -/
theorem follows_of_mentions (hfollows : course.shared.session.Follows spoken written)
    {course' : AdapterCourse} {word? : Option (LinkId × DocumentWord)}
    (hnext : adapterRules.next course event = course') (htaken : ∀ k, taken (course, event) k = [])
    (hmentions : Post.Mentions (course.shared.session.post none)
      (course'.shared.session.post none) word?) :
    (∀ k, words (course, event) k = wordsOn word? k) ∧
      course'.shared.session.Follows (fun k => spoken k ++ said (course, event) k)
        (fun k => written k ++ taken (course, event) k) := by
  subst hnext
  refine ⟨hmentions.words, ?_⟩
  simp only [htaken, List.append_nil]
  exact hfollows.grows hmentions.grows

/-- A step of an operation says at most one word, and comes as far as the word has it. -/
theorem Fits.tells_of_step (h : course.Fits)
    (hfollows : course.shared.session.Follows spoken written) {files : Option Tree}
    {progress : Progress AdapterTask AdapterReply}
    {standing : Standing AdapterTask (Option AdapterReply)}
    (hnext : adapterRules.next course (.step i files) = course.put i after standing)
    (hi : course.task? i = some task)
    (hstep : task.step course.now files course.shared = (after, progress))
    (hblocked : progress ≠ .blocked)
    (hstanding : standing.point?.elim .gone AdapterTask.stage = task.stageAfter progress) :
    ∃ word?, (∀ k, words (course, .step i files) k = wordsOn word? k) ∧
      after.session.Follows (fun k => spoken k ++ said (course, .step i files) k)
        (fun k => written k ++ taken (course, .step i files) k) ∧
      course.Tells (course.put i after standing) (.step i files) word? := by
  obtain ⟨word?, hword, hmoves, -⟩ := AdapterTask.document_step (h i task hi) course.now files
    course.shared (by rw [hstep]; exact hblocked)
  rw [hstep] at hword hmoves
  obtain ⟨hwords, hfollows'⟩ := follows_of_mentions hfollows hnext (fun _ => rfl) hword
  refine ⟨word?, hwords, hfollows', .speaks i files task progress word? ?_ hblocked hmoves ?_⟩
  · rw [adapterRules.step?_step hi]
    exact congrArg (fun stepped => some (i, task, stepped.2)) hstep
  · rw [stageAt_put hi, hstanding]

/-- Whatever happens to an adapter. -/
theorem Fits.next_tells (h : course.Fits) (hfollows : course.shared.session.Follows spoken written)
    (event : AdapterCourseEvent) :
    ∃ word?, (∀ k, words (course, event) k = wordsOn word? k) ∧
      (adapterRules.next course event).shared.session.Follows
        (fun k => spoken k ++ said (course, event) k)
        (fun k => written k ++ taken (course, event) k) ∧
      course.Tells (adapterRules.next course event) event word? := by
  have hmoves := adapterRules.next_moves course event
  generalize hnext : adapterRules.next course event = course' at hmoves
  have hsilent (hsame : course'.shared.session.post none = course.shared.session.post none)
      (htaken : ∀ k, taken (course, event) k = []) :=
    follows_of_mentions hfollows hnext htaken (.of_same hsame)
  cases hmoves with
  | blocks i files blocked =>
    obtain ⟨hwords, hfollows'⟩ := hsilent rfl fun _ => rfl
    exact ⟨none, hwords, hfollows', .keepsSilent _
      (fun j task progress hstep => adapterRules.eq_blocked_of_step? blocked hstep) rfl⟩
  | misses | waits =>
    obtain ⟨hwords, hfollows'⟩ := hsilent rfl fun _ => rfl
    exact ⟨none, hwords, hfollows', .keepsSilent _ (by rintro _ _ _ ⟨⟩) rfl⟩
  | begins call =>
    obtain ⟨hwords, hfollows'⟩ := hsilent rfl fun _ => rfl
    exact ⟨none, hwords, hfollows', .keepsSilent _ (by rintro _ _ _ ⟨⟩) (stageAt_begin call)⟩
  | moves i files task task' shared stands step =>
    exact h.tells_of_step hfollows hnext stands step (by rintro ⟨⟩) rfl
  | finishes i files task result shared stands step =>
    exact h.tells_of_step hfollows hnext stands step (by rintro ⟨⟩) rfl
  | givesUp i task stands =>
    obtain ⟨hwords, hfollows'⟩ :=
      follows_of_mentions hfollows hnext (fun _ => rfl) (task.mentions_cancel course.shared)
    exact ⟨none, hwords, hfollows', .givesUp i (stageAt_put stands _)⟩
  | occurs event =>
    cases event with
    | invalidates =>
      obtain ⟨hwords, hfollows'⟩ := hsilent rfl fun _ => rfl
      exact ⟨none, hwords, hfollows', .keepsSilent _ (by rintro _ _ _ ⟨⟩) rfl⟩
    | happens event =>
      -- The session itself says nothing but replies to what its server asks for.
      obtain ⟨hfollows', hreplies⟩ := hfollows.undergo course.now event
      refine ⟨none, fun k => ?_, hfollows', .keepsSilent _ (by rintro _ _ _ ⟨⟩) rfl⟩
      apply List.filterMap_eq_nil_iff.mpr
      intro item hitem
      obtain ⟨reply, rfl⟩ := hreplies k item hitem
      rfl

end AdapterCourse
end SymbolSearch
