import SymbolSearch.Adapter.Basic
import SymbolSearch.Session.Asking

/-!
# Questions to an adapter

* `InquiryPoint.step` answers one question. The server is asked if its session takes requests and
  it provides what is needed; whatever goes wrong, a text scan answers in its place.

For a question about a document, the document is opened at the server, the server gets some time
to read it, and it is closed again after the answer, whatever that is. This is done for one
question about a document at a time.
-/

namespace SymbolSearch

/-- A question about a document, for which the guard of the document was asked. -/
structure Bracket where
  inquiry : Inquiry
  query : Query
  uri : String
  guard : GuardId
  ticket : Ticket

/-- Where a question to an adapter stands. -/
inductive InquiryPoint where
  | starting (inquiry : Inquiry)
  /-- The document is read from its file. -/
  | reading (inquiry : Inquiry) (query : Query) (path : Path)
  | queued (bracket : Bracket) (text : String)
  | opening (bracket : Bracket) (listener : Option Nat) (notice : NoticePoint)
  /-- The server gets some time to read the document. -/
  | settling (bracket : Bracket) (listener : Option Nat) (resume : Instant)
  | asking (inquiry : Inquiry) (query : Query) (call : QueryPoint)
  | askingInside (bracket : Bracket) (call : QueryPoint)
  | closing (bracket : Bracket) (result : Except SessionError Answer) (notice : NoticePoint)
  /-- The server cannot answer, and the files are scanned. -/
  | scanning (inquiry : Inquiry) (reason : SessionError)

namespace InquiryPoint

/-- What steps of a question come to. -/
abbrev Inquired := Stepped Adapter InquiryPoint Sourced

/-- What the server said: its answer is remembered, and after an error the files are scanned. -/
def conclude (now : Instant) (inquiry : Inquiry) (query : Query) (adapter : Adapter) :
    Except SessionError Answer → Inquired
  | .ok answer =>
    ({ adapter with memo := adapter.memo.insert now query.memoKey answer },
      .finished ⟨answer, .semantic⟩)
  | .error reason => (adapter, .moved (.scanning inquiry reason))

/-- The guard of the document is given up. -/
def leave (now : Instant) (bracket : Bracket) (adapter : Adapter)
    (result : Except SessionError Answer) : Inquired :=
  conclude now bracket.inquiry bracket.query
    (adapter.unlockDocument bracket.uri bracket.guard bracket.ticket) result

/-- Nobody listens for readiness any more. -/
def stopListening (adapter : Adapter) (listener : Option Nat) : Adapter :=
  match adapter.readiness, listener with
  | some method, some _ =>
    { adapter with session := adapter.session.updateListener method Broadcast.unsubscribe }
  | _, _ => adapter

/-- Goes on from a step of closing the document. -/
def afterClosing (now : Instant) (bracket : Bracket) (result : Except SessionError Answer) :
    Stepped Adapter NoticePoint (Except SessionError Unit) → Inquired
  | (adapter, .blocked) => (adapter, .blocked)
  | (adapter, .moved notice) => (adapter, .moved (.closing bracket result notice))
  | (adapter, .finished _) => leave now bracket adapter result

/-- Goes on from a step of the question about an open document. -/
def afterAskingInside (now : Instant) (bracket : Bracket) :
    Stepped Adapter QueryPoint (Except SessionError Answer) → Inquired
  | (adapter, .blocked) => (adapter, .blocked)
  | (adapter, .moved call) => (adapter, .moved (.askingInside bracket call))
  | (adapter, .finished result) =>
    afterClosing now bracket result (adapter.withSession
      ((NoticePoint.starting (.didClose bracket.uri)).step adapter.session))

/-- Goes on from a step of opening the document. -/
def afterOpening (now : Instant) (bracket : Bracket) (listener : Option Nat) :
    Stepped Adapter NoticePoint (Except SessionError Unit) → Inquired
  | (adapter, .blocked) => (adapter, .blocked)
  | (adapter, .moved notice) => (adapter, .moved (.opening bracket listener notice))
  | (adapter, .finished (.ok ())) =>
    (adapter, .moved (.settling bracket listener (now + adapter.settings.settleDelay)))
  | (adapter, .finished (.error reason)) =>
    leave now bracket (stopListening adapter listener) (.error reason)

/-- The document is opened; from now on someone listens for readiness. -/
def openDocument (now : Instant) (bracket : Bracket) (text : String) (adapter : Adapter) :
    Inquired :=
  let (adapter, listener) := match adapter.readiness with
    | some method =>
      let (session, place) := adapter.session.subscribe method
      ({ adapter with session }, some place)
    | none => (adapter, none)
  afterOpening now bracket listener (adapter.withSession
    ((NoticePoint.starting (.didOpen bracket.uri adapter.server.languageId text)).step
      adapter.session))

/-- Whether the server has said that it is ready since the listener began. -/
def heardReadiness (adapter : Adapter) (listener : Option Nat) : Bool :=
  match adapter.readiness, listener with
  | some method, some place => (adapter.session.receive method place).isSome
  | _, _ => false

/-- The first step of a question: a remembered answer is given again. -/
def start (now : Instant) (inquiry : Inquiry) (adapter : Adapter) : Inquired :=
  match inquiry.query? with
  | .error reason => (adapter, .moved (.scanning inquiry reason))
  | .ok query =>
    let (hit, memo) := adapter.memo.get now query.memoKey
    let adapter := { adapter with memo }
    match hit, adapter.refusal? query, inquiry.path? with
    | some answer, _, _ => (adapter, .finished ⟨answer, .semantic⟩)
    | none, some reason, _ => (adapter, .moved (.scanning inquiry reason))
    | none, none, some path => (adapter, .moved (.reading inquiry query path))
    | none, none, none => (adapter, .moved (.asking inquiry query (.starting query)))

/-- The text of the document was read, or could not be. -/
def afterReading (inquiry : Inquiry) (query : Query) (path : Path) (adapter : Adapter) :
    Except FileError String → Inquired
  | .error error => (adapter, .moved (.scanning inquiry (.unreadable error.message)))
  | .ok text =>
    let uri := (fileUri? path).getD path
    let ((guard, ticket), adapter) := adapter.lockDocument uri
    (adapter, .moved (.queued ⟨inquiry, query, uri, guard, ticket⟩ text))

/-- One step of a question. The files are there only when the step may use them. -/
def step (now : Instant) (files : Option Tree) (point : InquiryPoint) (adapter : Adapter) :
    Inquired :=
  match point with
  | .starting inquiry => start now inquiry adapter
  | .reading inquiry query path =>
    match files with
    | none => (adapter, .blocked)
    | some tree => afterReading inquiry query path adapter (tree.readText path)
  | .queued bracket text =>
    if (adapter.guardAt bracket.guard).turns.holds bracket.ticket then
      openDocument now bracket text adapter
    else (adapter, .blocked)
  | .opening bracket listener notice =>
    afterOpening now bracket listener (adapter.withSession (notice.step adapter.session))
  | .settling bracket listener resume =>
    if heardReadiness adapter listener || resume ≤ now then
      let adapter := stopListening adapter listener
      afterAskingInside now bracket (adapter.withSession
        ((QueryPoint.starting bracket.query).step now adapter.session))
    else (adapter, .blocked)
  | .asking inquiry query call =>
    match adapter.withSession (call.step now adapter.session) with
    | (adapter, .blocked) => (adapter, .blocked)
    | (adapter, .moved call) => (adapter, .moved (.asking inquiry query call))
    | (adapter, .finished result) => conclude now inquiry query adapter result
  | .askingInside bracket call =>
    afterAskingInside now bracket (adapter.withSession (call.step now adapter.session))
  | .closing bracket result notice =>
    afterClosing now bracket result (adapter.withSession (notice.step adapter.session))
  | .scanning inquiry reason =>
    match files with
    | none => (adapter, .blocked)
    | some tree =>
      (adapter, .finished ⟨inquiry.scan adapter.scanner tree, .fallback reason.message⟩)

/-- Whether the question waits for the files. -/
def wantsFiles : InquiryPoint → Bool
  | .reading _ _ _ => true
  | .scanning _ _ => true
  | _ => false

/-- The time at which the question goes on by itself. -/
def deadline? : InquiryPoint → Option Instant
  | .settling _ _ resume => some resume
  | .asking _ _ call => call.deadline?
  | .askingInside _ call => call.deadline?
  | _ => none

/-- Gives a question up where it stands. -/
def cancel (point : InquiryPoint) (adapter : Adapter) : Adapter :=
  let unlock (bracket : Bracket) (adapter : Adapter) : Adapter :=
    adapter.abandonDocument bracket.guard bracket.ticket
  match point with
  | .starting _ => adapter
  | .reading _ _ _ => adapter
  | .queued bracket _ => unlock bracket adapter
  | .opening bracket listener notice =>
    unlock bracket (stopListening { adapter with session := notice.cancel adapter.session }
      listener)
  | .settling bracket listener _ => unlock bracket (stopListening adapter listener)
  | .asking _ _ call => { adapter with session := call.cancel adapter.session }
  | .askingInside bracket call =>
    unlock bracket { adapter with session := call.cancel adapter.session }
  | .closing bracket _ notice =>
    unlock bracket { adapter with session := notice.cancel adapter.session }
  | .scanning _ _ => adapter

end InquiryPoint
end SymbolSearch
