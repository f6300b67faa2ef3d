import SymbolSearch.Session.Asking
import SymbolSearch.Session.Starting
import SymbolSearch.Session.Stopping

/-!
# Operations on a session

* `Session.stepReader` is one step of the reader of a link: it handles what the server said, one
  event at a time, and notices when the server falls silent for good.
* `Session.dispatch` is what a message does: a response settles its request, a request is replied
  to, and a notification goes to those who listen.
* `SessionTask` is any operation on a session, wherever it stands, and `SessionReply` its result.
* `SessionTask.step` is one step of it.
-/

namespace SymbolSearch

/-! ### Listening to a server -/

namespace Session

/-- Changes what the reader of a link is doing. -/
def setReader (session : Session) (id : LinkId) (point : ReaderPoint) : Session :=
  session.updateLink id fun link => { link with reader := point }

/-- Replies to a request of the server; the reader waits if the outbox is full. -/
def sendReply (session : Session) (id : LinkId) (reply : Json) : Session :=
  match session.links[id]? with
  | none => session
  | some link =>
    match link.outbox.offer (.reply reply) with
    -- The reader itself waits for room, and hears nothing meanwhile.
    | (outbox, .waits ticket) =>
      (session.updateOutbox id fun _ => outbox).setReader id (.replying reply ticket)
    | (outbox, _) => session.updateOutbox id fun _ => outbox

/-- What a message of the server does. -/
def dispatch (session : Session) (id : LinkId) : Message → Session
  | .response responseId outcome =>
    match responseId.toNat? with
    | some n => { session with pending := (session.pending.resolve n outcome).1 }
    | none => session
  | .request requestId method params =>
    session.sendReply id (replyToServer requestId method params)
  | .notification method params =>
    session.updateListener method (·.send (params.getD .null))

/-- The end of a reader. -/
def endReader (session : Session) (id : LinkId) (now : Instant) : Session :=
  (session.transportClosed id now).updateLink id Link.stopReader

/-- What a frame or a fault in the stream does. -/
def handleEvent (session : Session) (id : LinkId) (now : Instant) : FrameEvent → Session
  | .frame frame =>
    let session := { session with active := true }
    match Message.classify frame.value with
    | .ok message => session.dispatch id message
    | .error _ => session.recordFailure
  | .error .unexpectedEnd => session.endReader id now
  | .error _ => session.recordFailure

/-- What an item from the stream does. -/
def handleItem (session : Session) (id : LinkId) (now : Instant) : FrameReader.Item → Session
  | .event event => session.handleEvent id now event
  | .ended => session.endReader id now
  | .failed _ => session.endReader id now

/-- Goes on with an item, if there is one, and with the reader behind it. -/
def advanceReader (session : Session) (id : LinkId) (now : Instant)
    (read : Option FrameReader.Item × FrameReader) : Session :=
  let session := session.updateLink id fun link => { link with frames := read.2 }
  match read.1 with
  | some item => session.handleItem id now item
  | none => session

/-- Takes what the server said, for a reader that waits for it. -/
def hear (session : Session) (id : LinkId) (now : Instant) (said : SourceRead) : Session :=
  match session.links[id]? with
  | some link =>
    if link.wantsRead then session.advanceReader id now (link.frames.absorb said) else session
  | none => session

/-- One step of the reader of a link that needs nothing from the server. The second part says
    whether it moved. -/
def stepReader (session : Session) (id : LinkId) (now : Instant) : Session × Bool :=
  match session.links[id]? with
  | none => (session, false)
  | some link =>
    match link.reader with
    | .done => (session, false)
    | .replying reply ticket =>
      match link.outbox.claim ticket (.reply reply) with
      | (_, .waits _) => (session, false)
      | (outbox, _) => ((session.updateOutbox id fun _ => outbox).setReader id .reading, true)
    | .reading =>
      if link.wantsRead then (session, false)
      else (session.advanceReader id now link.frames.next?, true)

/-- One step of the writer of a link. The second part says whether it moved. -/
def stepWriter (session : Session) (id : LinkId) : Session × Bool :=
  match session.links[id]? with
  | none => (session, false)
  | some link =>
    let (link, moved) := link.stepWriter
    (session.updateLink id fun _ => link, moved)

end Session

/-! ### Operations -/

/-- An operation on a session, wherever it stands. -/
inductive SessionTask where
  | ensure (point : EnsurePoint)
  | ask (point : QueryPoint)
  | notify (point : NoticePoint)
  | stop (point : StopPoint)
  | reset (point : GuardPoint)
  | checkAlive (point : GuardPoint)

/-- The result of an operation on a session. -/
inductive SessionReply where
  | ensured (result : Except SessionError Unit)
  | answered (result : Except SessionError Answer)
  | notified (result : Except SessionError Unit)
  | stopped
  | wasReset (changed : Bool)
  | isAlive (alive : Bool)

namespace SessionTask

/-- One step of an operation. -/
def step (now : Instant) (task : SessionTask) (session : Session) :
    Stepped Session SessionTask SessionReply :=
  match task with
  | .ensure point => (point.step now session).map .ensure .ensured
  | .ask point => (point.step now session).map .ask .answered
  | .notify point => (point.step session).map .notify .notified
  | .stop point => (point.step now session).map .stop fun _ => .stopped
  | .reset point => (session.stepReset point).map .reset .wasReset
  | .checkAlive point => (session.stepAlive point).map .checkAlive .isAlive

/-- The time at which an operation goes on by itself. -/
def deadline? : SessionTask → Option Instant
  | .ensure point => point.deadline?
  | .ask point => point.deadline?
  | .stop point => point.deadline?
  | _ => none

end SessionTask

/-! ### Giving operations up -/

namespace EnsurePoint

/-- Gives the operation up where it stands; the guard goes to the next in line. -/
def cancel (point : EnsurePoint) (session : Session) : Session :=
  let leave (ticket : Ticket) (session : Session) : Session :=
    { session with turns := session.turns.leave ticket }
  match point with
  | .asking => session
  | .cooling _ => session
  | .queued ticket => leave ticket session
  | .launching ticket => leave ticket { session with launch := .none }
  | .linked ticket _ => leave ticket session
  | .greeting ticket call _ => leave ticket (call.cancel session)
  | .confirming ticket send _ _ => leave ticket (send.cancel session)

end EnsurePoint

namespace StopPoint

/-- Gives the operation up where it stands; the guard goes to the next in line. -/
def cancel (point : StopPoint) (session : Session) : Session :=
  let leave (ticket : Ticket) (session : Session) : Session :=
    { session with turns := session.turns.leave ticket }
  match point with
  | .asking => session
  | .queued ticket => leave ticket session
  | .parting ticket _ => leave ticket session
  | .farewell ticket call => leave ticket (call.cancel session)
  | .exiting ticket send => leave ticket (send.cancel session)
  | .finishing ticket send => leave ticket (send.cancel session)
  | .reaping ticket link _ => leave ticket (session.updateLink link Link.drop)
  | .killing ticket link => leave ticket (session.updateLink link Link.drop)
  | .draining ticket link _ => leave ticket (session.updateLink link Link.drop)

end StopPoint

namespace SessionTask

/-- Gives an operation up where it stands. -/
def cancel (task : SessionTask) (session : Session) : Session :=
  match task with
  | .ensure point => point.cancel session
  | .ask point => point.cancel session
  | .notify point => point.cancel session
  | .stop point => point.cancel session
  | .reset .asking => session
  | .checkAlive .asking => session
  | .reset (.queued ticket) => { session with turns := session.turns.leave ticket }
  | .checkAlive (.queued ticket) => { session with turns := session.turns.leave ticket }

end SessionTask

end SymbolSearch
