import SymbolSearch.Adapter.Asking
import SymbolSearch.Proofs.Session.Course

/-!
# Courses of an adapter

Any number of questions to one adapter go on side by side, with whatever is done to its session.

* `AdapterCall` — what may be asked of an adapter and its session, and `adapterRules` how it goes on.
  Only questions to the adapter are about documents.
* `InquiryMoves` and `InquiryPoint.step_moves` — what a step of a question can do.
-/

namespace SymbolSearch

/-! ### Operations on an adapter -/

/-- What may be asked of an adapter and its session. -/
inductive AdapterCall where
  | ask (inquiry : Inquiry)
  /-- The session is brought up. -/
  | ensure
  /-- A question to the server that is not about a document, such as one after its health. -/
  | probe (text : String)
  | stop
  | reset
  | checkAlive

/-- An operation on an adapter or its session, wherever it stands. -/
inductive AdapterTask where
  | inquiry (point : InquiryPoint)
  | onSession (task : SessionTask)

/-- The result of an operation on an adapter or its session. -/
inductive AdapterReply where
  | sourced (result : Sourced)
  | ofSession (reply : SessionReply)

/-- What else may happen to an adapter. -/
inductive AdapterEvent where
  | happens (event : SessionEvent)
  /-- The answers that may be given again are forgotten. -/
  | invalidates

/-- The operation before its first step. -/
def AdapterCall.task : AdapterCall → AdapterTask
  | .ask inquiry => .inquiry (.starting inquiry)
  | .ensure => .onSession (.ensure .asking)
  | .probe text => .onSession (.ask (.starting (.workspaceSymbols text)))
  | .stop => .onSession (.stop .asking)
  | .reset => .onSession (.reset .asking)
  | .checkAlive => .onSession (.checkAlive .asking)

namespace AdapterTask

/-- One step of an operation. The files are there only when the step may use them. -/
def step (now : Instant) (files : Option Tree) (task : AdapterTask) (adapter : Adapter) :
    Stepped Adapter AdapterTask AdapterReply :=
  match task with
  | .inquiry point => (point.step now files adapter).map .inquiry .sourced
  | .onSession task =>
    (adapter.withSession (task.step now adapter.session)).map .onSession .ofSession

/-- Gives an operation up where it stands. -/
def cancel (task : AdapterTask) (adapter : Adapter) : Adapter :=
  match task with
  | .inquiry point => point.cancel adapter
  | .onSession task => { adapter with session := task.cancel adapter.session }

/-- Where a question to the adapter stands. -/
def inquiry? : AdapterTask → Option InquiryPoint
  | .inquiry point => some point
  | .onSession _ => none

end AdapterTask

/-- What an event does to an adapter, if it is no step of an operation. -/
def Adapter.undergo (now : Instant) (event : AdapterEvent) (adapter : Adapter) : Adapter :=
  match event with
  | .happens event => { adapter with session := adapter.session.undergo now event }
  | .invalidates => adapter.invalidate

/-- How operations on an adapter go on. A step may use the files. -/
def adapterRules : CrowdRules Adapter AdapterCall AdapterTask AdapterReply (Option Tree)
    AdapterEvent where
  enter := AdapterCall.task
  step := AdapterTask.step
  cancel := AdapterTask.cancel
  occur := Adapter.undergo

/-- An adapter, the operations on it, and the time. -/
abbrev AdapterCourse := Crowd Adapter AdapterTask AdapterReply

/-- One thing that happens in a course. -/
abbrev AdapterCourseEvent := CrowdEvent AdapterCall (Option Tree) AdapterEvent

/-- An event with the course in which it happens. -/
abbrev AdapterMoment := AdapterCourse × AdapterCourseEvent

namespace AdapterCourse

/-- A new adapter that nobody uses. -/
def start (ecosystem : Ecosystem) (root : Path) (server : ServerConfig)
    (session : SessionSettings) (settings : AdapterSettings) : AdapterCourse :=
  { shared := .ofServer ecosystem root server session settings }

/-- Where an operation stands, if it is a question to the adapter. -/
def inquiryAt (course : AdapterCourse) (i : Nat) : Option InquiryPoint :=
  (course.task? i).bind AdapterTask.inquiry?

end AdapterCourse

/-! ### Listening for readiness -/

namespace Adapter

variable {adapter : Adapter}

/-- From now on someone listens for readiness, if the server tells of it. -/
def listen (adapter : Adapter) : Adapter × Option Nat :=
  match adapter.readiness with
  | some method =>
    let (session, place) := adapter.session.subscribe method
    ({ adapter with session }, some place)
  | none => (adapter, none)

/-- An adapter with other listeners. -/
def withListeners (adapter : Adapter) (listeners : List (String × Broadcast Json)) : Adapter :=
  { adapter with session := { adapter.session with listeners } }

theorem exists_listen (adapter : Adapter) :
    ∃ listeners, adapter.listen.1 = adapter.withListeners listeners := by
  unfold listen
  split
  next method _ =>
    unfold Session.subscribe
    dsimp only
    split
    · exact ⟨_, rfl⟩
    · exact ⟨_, rfl⟩
  next => exact ⟨adapter.session.listeners, rfl⟩

theorem exists_stopListening (adapter : Adapter) (listener : Option Nat) :
    ∃ listeners, InquiryPoint.stopListening adapter listener = adapter.withListeners listeners := by
  unfold InquiryPoint.stopListening
  split
  · exact ⟨_, rfl⟩
  · exact ⟨adapter.session.listeners, rfl⟩

end Adapter

/-! ### What a step of a question can do -/

namespace InquiryPoint

/-- A question that opens its document: it has got the guard, or it goes on with the message. -/
inductive Opens (adapter : Adapter) :
    InquiryPoint → Bracket → Option Nat → NoticePoint → Prop where
  | begins (bracket : Bracket) (text : String) (listener : Option Nat)
      (holds : (adapter.guardAt bracket.guard).turns.holds bracket.ticket = true) :
      Opens adapter (.queued bracket text) bracket listener
        (.starting (.didOpen bracket.uri adapter.server.languageId text))
  | goesOn (bracket : Bracket) (listener : Option Nat) (notice : NoticePoint) :
      Opens adapter (.opening bracket listener notice) bracket listener notice

/-- A question about a document that is open. -/
inductive AsksInside : InquiryPoint → Bracket → QueryPoint → Prop where
  | begins (bracket : Bracket) (listener : Option Nat) (resume : Instant) :
      AsksInside (.settling bracket listener resume) bracket (.starting bracket.query)
  | goesOn (bracket : Bracket) (call : QueryPoint) :
      AsksInside (.askingInside bracket call) bracket call

end InquiryPoint

open InquiryPoint in
/-- What a step of a question can do. -/
inductive InquiryMoves (now : Instant) (files : Option Tree) (adapter : Adapter) :
    InquiryPoint → Inquired → Prop where
  | blocks (point : InquiryPoint) (after : Adapter) :
      InquiryMoves now files adapter point (after, .blocked)
  | unaskable (inquiry : Inquiry) (reason : SessionError)
      (no_query : inquiry.query? = .error reason) :
      InquiryMoves now files adapter (.starting inquiry) (adapter, .moved (.scanning inquiry reason))
  | remembers (inquiry : Inquiry) (query : Query) (answer : Answer)
      (query_eq : inquiry.query? = .ok query)
      (hit : (adapter.memo.get now query.memoKey).1 = some answer) :
      InquiryMoves now files adapter (.starting inquiry)
        ({ adapter with memo := adapter.memo.purge now }, .finished ⟨answer, .semantic⟩)
  | shuns (inquiry : Inquiry) (query : Query) (reason : SessionError)
      (query_eq : inquiry.query? = .ok query) :
      InquiryMoves now files adapter (.starting inquiry)
        ({ adapter with memo := adapter.memo.purge now }, .moved (.scanning inquiry reason))
  | reads (inquiry : Inquiry) (query : Query) (path : Path)
      (query_eq : inquiry.query? = .ok query) (path_eq : inquiry.path? = some path) :
      InquiryMoves now files adapter (.starting inquiry)
        ({ adapter with memo := adapter.memo.purge now }, .moved (.reading inquiry query path))
  | asks (inquiry : Inquiry) (query : Query) (query_eq : inquiry.query? = .ok query)
      (no_path : inquiry.path? = none) :
      InquiryMoves now files adapter (.starting inquiry)
        ({ adapter with memo := adapter.memo.purge now },
          .moved (.asking inquiry query (.starting query)))
  | unreadable (inquiry : Inquiry) (query : Query) (path : Path) (reason : SessionError) :
      InquiryMoves now files adapter (.reading inquiry query path)
        (adapter, .moved (.scanning inquiry reason))
  | joins (inquiry : Inquiry) (query : Query) (path : Path) (text uri : String)
      (uri_eq : uri = (fileUri? path).getD path) :
      InquiryMoves now files adapter (.reading inquiry query path)
        ((adapter.lockDocument uri).2, .moved (.queued
          ⟨inquiry, query, uri, (adapter.lockDocument uri).1.1, (adapter.lockDocument uri).1.2⟩ text))
  | opening (point : InquiryPoint) (bracket : Bracket) (listener : Option Nat)
      (notice notice' : NoticePoint) (listeners : List (String × Broadcast Json)) (s' : Session)
      (before : point.Opens adapter bracket listener notice)
      (step : notice.step (adapter.withListeners listeners).session = (s', .moved notice')) :
      InquiryMoves now files adapter point
        ({ adapter with session := s' }, .moved (.opening bracket listener notice'))
  | opened (point : InquiryPoint) (bracket : Bracket) (listener : Option Nat)
      (notice : NoticePoint) (listeners : List (String × Broadcast Json)) (s' : Session)
      (resume : Instant) (before : point.Opens adapter bracket listener notice)
      (step : notice.step (adapter.withListeners listeners).session = (s', .finished (.ok ()))) :
      InquiryMoves now files adapter point
        ({ adapter with session := s' }, .moved (.settling bracket listener resume))
  | unopened (point : InquiryPoint) (bracket : Bracket) (listener : Option Nat)
      (notice : NoticePoint) (listeners listeners' : List (String × Broadcast Json)) (s' : Session)
      (reason : SessionError) (before : point.Opens adapter bracket listener notice)
      (step : notice.step (adapter.withListeners listeners).session =
        (s', .finished (.error reason))) :
      InquiryMoves now files adapter point
        (leave now bracket ({ adapter with session := s' }.withListeners listeners') (.error reason))
  | asking (point : InquiryPoint) (bracket : Bracket) (call call' : QueryPoint)
      (listeners : List (String × Broadcast Json)) (s' : Session)
      (before : point.AsksInside bracket call)
      (step : call.step now (adapter.withListeners listeners).session = (s', .moved call')) :
      InquiryMoves now files adapter point
        ({ adapter with session := s' }, .moved (.askingInside bracket call'))
  | closing (point : InquiryPoint) (bracket : Bracket) (call : QueryPoint)
      (listeners : List (String × Broadcast Json)) (middle s' : Session)
      (result : Except SessionError Answer) (notice : NoticePoint)
      (before : point.AsksInside bracket call)
      (answered : call.step now (adapter.withListeners listeners).session =
        (middle, .finished result))
      (step : (NoticePoint.starting (.didClose bracket.uri)).step middle = (s', .moved notice)) :
      InquiryMoves now files adapter point
        ({ adapter with session := s' }, .moved (.closing bracket result notice))
  | closed (point : InquiryPoint) (bracket : Bracket) (call : QueryPoint)
      (listeners : List (String × Broadcast Json)) (middle s' : Session)
      (result : Except SessionError Answer) (sent : Except SessionError Unit)
      (before : point.AsksInside bracket call)
      (answered : call.step now (adapter.withListeners listeners).session =
        (middle, .finished result))
      (step : (NoticePoint.starting (.didClose bracket.uri)).step middle = (s', .finished sent)) :
      InquiryMoves now files adapter point
        (leave now bracket { adapter with session := s' } result)
  | stillCloses (bracket : Bracket) (result : Except SessionError Answer)
      (notice notice' : NoticePoint) (s' : Session)
      (step : notice.step adapter.session = (s', .moved notice')) :
      InquiryMoves now files adapter (.closing bracket result notice)
        ({ adapter with session := s' }, .moved (.closing bracket result notice'))
  | leaves (bracket : Bracket) (result : Except SessionError Answer) (notice : NoticePoint)
      (s' : Session) (sent : Except SessionError Unit)
      (step : notice.step adapter.session = (s', .finished sent)) :
      InquiryMoves now files adapter (.closing bracket result notice)
        (leave now bracket { adapter with session := s' } result)
  | stillAsks (inquiry : Inquiry) (query : Query) (call call' : QueryPoint) (s' : Session)
      (step : call.step now adapter.session = (s', .moved call')) :
      InquiryMoves now files adapter (.asking inquiry query call)
        ({ adapter with session := s' }, .moved (.asking inquiry query call'))
  | concludes (inquiry : Inquiry) (query : Query) (call : QueryPoint) (s' : Session)
      (result : Except SessionError Answer)
      (step : call.step now adapter.session = (s', .finished result)) :
      InquiryMoves now files adapter (.asking inquiry query call)
        (conclude now inquiry query { adapter with session := s' } result)
  | scans (inquiry : Inquiry) (reason : SessionError) (tree : Tree) (files_eq : files = some tree) :
      InquiryMoves now files adapter (.scanning inquiry reason)
        (adapter, .finished ⟨inquiry.scan adapter.scanner tree, .fallback reason.message⟩)

namespace InquiryPoint

variable {now : Instant} {files : Option Tree} {adapter : Adapter} {bracket : Bracket}
  {point : InquiryPoint}

theorem moves_start (now : Instant) (files : Option Tree) (inquiry : Inquiry) (adapter : Adapter) :
    InquiryMoves now files adapter (.starting inquiry) (start now inquiry adapter) := by
  unfold start
  split
  next reason hquery => exact .unaskable inquiry reason hquery
  next query hquery =>
    dsimp only
    split
    next answer hhit => exact .remembers inquiry query answer hquery hhit
    next reason _ _ => exact .shuns inquiry query reason hquery
    next path _ _ hpath => exact .reads inquiry query path hquery hpath
    next _ _ hpath => exact .asks inquiry query hquery hpath

theorem moves_afterOpening {listener : Option Nat} {notice : NoticePoint}
    (before : point.Opens adapter bracket listener notice)
    (listeners : List (String × Broadcast Json)) :
    InquiryMoves now files adapter point (afterOpening now bracket listener
      ((adapter.withListeners listeners).withSession
        (notice.step (adapter.withListeners listeners).session))) := by
  cases hstep : notice.step (adapter.withListeners listeners).session with
  | mk s' progress =>
    cases progress with
    | blocked => exact .blocks _ _
    | moved notice' => exact .opening point bracket listener notice notice' listeners s' before hstep
    | finished sent =>
      cases sent with
      | ok => exact .opened point bracket listener notice listeners s' _ before hstep
      | error reason =>
        obtain ⟨listeners', hstop⟩ :=
          Adapter.exists_stopListening { adapter with session := s' } listener
        show InquiryMoves now files adapter point (leave now bracket
          (stopListening { adapter with session := s' } listener) (.error reason))
        rw [hstop]
        exact .unopened point bracket listener notice listeners listeners' s' reason before hstep

theorem moves_afterAskingInside {call : QueryPoint} (before : point.AsksInside bracket call)
    (listeners : List (String × Broadcast Json)) :
    InquiryMoves now files adapter point (afterAskingInside now bracket
      ((adapter.withListeners listeners).withSession
        (call.step now (adapter.withListeners listeners).session))) := by
  cases hcall : call.step now (adapter.withListeners listeners).session with
  | mk middle progress =>
    cases progress with
    | blocked => exact .blocks _ _
    | moved call' => exact .asking point bracket call call' listeners middle before hcall
    | finished result =>
      show InquiryMoves now files adapter point (afterClosing now bracket result
        ({ adapter with session := middle }.withSession
          ((NoticePoint.starting (.didClose bracket.uri)).step middle)))
      cases hstep : (NoticePoint.starting (.didClose bracket.uri)).step middle with
      | mk s' progress =>
        cases progress with
        | blocked => exact .blocks _ _
        | moved notice =>
          exact .closing point bracket call listeners middle s' result notice before hcall hstep
        | finished sent =>
          exact .closed point bracket call listeners middle s' result sent before hcall hstep

/-- A step of a question does nothing else. -/
theorem step_moves (now : Instant) (files : Option Tree) (point : InquiryPoint)
    (adapter : Adapter) :
    InquiryMoves now files adapter point (point.step now files adapter) := by
  cases point with
  | starting inquiry => exact moves_start now files inquiry adapter
  | reading inquiry query path =>
    unfold step
    dsimp only
    split
    next => exact .blocks _ _
    next tree =>
      unfold afterReading
      split
      next error _ => exact .unreadable inquiry query path _
      next text _ => exact .joins inquiry query path text _ rfl
  | queued bracket text =>
    unfold step
    dsimp only
    split
    next holds =>
      obtain ⟨listeners, hlisten⟩ := adapter.exists_listen
      show InquiryMoves now files adapter _ (afterOpening now bracket adapter.listen.2
        (adapter.listen.1.withSession ((NoticePoint.starting
          (.didOpen bracket.uri adapter.listen.1.server.languageId text)).step
            adapter.listen.1.session)))
      rw [hlisten]
      exact moves_afterOpening (.begins bracket text _ holds) listeners
    next => exact .blocks _ _
  | opening bracket listener notice =>
    exact moves_afterOpening (.goesOn bracket listener notice) adapter.session.listeners
  | settling bracket listener resume =>
    unfold step
    dsimp only
    split
    next =>
      obtain ⟨listeners, hstop⟩ := adapter.exists_stopListening listener
      rw [hstop]
      exact moves_afterAskingInside (.begins bracket listener resume) listeners
    next => exact .blocks _ _
  | asking inquiry query call =>
    cases hstep : call.step now adapter.session with
    | mk s' progress =>
      simp only [step, Adapter.withSession, hstep]
      cases progress with
      | blocked => exact .blocks _ _
      | moved call' => exact .stillAsks inquiry query call call' s' hstep
      | finished result => exact .concludes inquiry query call s' result hstep
  | askingInside bracket call =>
    exact moves_afterAskingInside (.goesOn bracket call) adapter.session.listeners
  | closing bracket result notice =>
    cases hstep : notice.step adapter.session with
    | mk s' progress =>
      simp only [step, Adapter.withSession, hstep]
      cases progress with
      | blocked => exact .blocks _ _
      | moved notice' => exact .stillCloses bracket result notice notice' s' hstep
      | finished sent => exact .leaves bracket result notice s' sent hstep
  | scanning inquiry reason =>
    unfold step
    dsimp only
    split
    next => exact .blocks _ _
    next tree => exact .scans inquiry reason tree rfl

end InquiryPoint
end SymbolSearch
