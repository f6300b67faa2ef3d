import SymbolSearch.Session.Basic

/-!
# Asking a server

* `SendPoint.step` puts one item into the outbox of a link.
* `CallPoint.step` makes one request: it is registered, sent, and waits for its reply until its
  deadline. The deadline counts from the registration, but only a request that has been sent
  looks at it.
* `QueryPoint.step` puts a question to the server of a session that takes requests, and counts
  whether it was answered.
* `NoticePoint.step` sends a notification.
-/

namespace SymbolSearch

/-! ### Sending -/

/-- An item that waits for room in the outbox of a link. -/
structure SendPoint where
  link : LinkId
  ticket : Ticket
  item : Outgoing

namespace SendPoint

/-- Begins to send an item through a link; while it waits, the outbox has one more sender. -/
def begin (session : Session) (link : LinkId) (item : Outgoing) :
    Stepped Session SendPoint Bool :=
  match session.links[link]? with
  | none => (session, .finished false)
  | some found =>
    match found.outbox.offer item with
    | (outbox, .sent) => (session.updateOutbox link fun _ => outbox, .finished true)
    | (_, .refused) => (session, .finished false)
    -- One who waits for room is a sender of its own.
    | (outbox, .waits ticket) =>
      (session.updateOutbox link fun _ => outbox.retain, .moved ⟨link, ticket, item⟩)

/-- Goes on with an item that waits. The result says whether it was sent. -/
def step (point : SendPoint) (session : Session) : Stepped Session SendPoint Bool :=
  match session.links[point.link]? with
  | none => (session, .finished false)
  | some found =>
    match found.outbox.claim point.ticket point.item with
    | (outbox, .sent) => (session.updateOutbox point.link fun _ => outbox.release, .finished true)
    | (outbox, .refused) =>
      (session.updateOutbox point.link fun _ => outbox.release, .finished false)
    | (_, .waits _) => (session, .blocked)

/-- Gives the item up. -/
def cancel (point : SendPoint) (session : Session) : Session :=
  session.updateOutbox point.link fun outbox => (outbox.abandon point.ticket).release

end SendPoint

/-- A request under way. -/
inductive CallPoint where
  | starting (call : Call) (timeout : Duration)
  | sending (reply : PendingReply) (send : SendPoint)
  | waiting (reply : PendingReply) (link : LinkId)

namespace CallPoint

/-- The end of a request that was not sent: its entry leaves the table. -/
def refuse (session : Session) (reply : PendingReply) (link : LinkId) :
    Stepped Session CallPoint (Except SessionError Json) :=
  ({ session.updateOutbox link Outbox.release with pending := reply.abandon session.pending },
    .finished (.error .processExit))

/-- One step of a request. -/
def step (now : Instant) (point : CallPoint) (session : Session) :
    Stepped Session CallPoint (Except SessionError Json) :=
  match point with
  | .starting call timeout =>
    match session.writer with
    | none => (session, .finished (.error .processExit))
    | some link =>
      -- The request is in the table before it is sent, so no response can come too early.
      let id := session.nextId
      let (pending, reply) := session.pending.register now id call.method timeout
      let registered := { session.updateOutbox link Outbox.retain with nextId := id + 1, pending }
      match SendPoint.begin registered link (.request id call) with
      | (session, .finished true) => (session, .moved (.waiting reply link))
      | (session, .finished false) => refuse session reply link
      | (session, .moved send) => (session, .moved (.sending reply send))
      | (session, .blocked) => (session, .blocked)
  | .sending reply send =>
    match send.step session with
    | (session, .finished true) => (session, .moved (.waiting reply send.link))
    | (session, .finished false) => refuse session reply send.link
    | (session, .moved send) => (session, .moved (.sending reply send))
    | (session, .blocked) => (session, .blocked)
  | .waiting reply link =>
    match reply.wait? now session.pending with
    | (pending, some result) =>
      ({ session.updateOutbox link Outbox.release with pending }, .finished result)
    | (_, none) => (session, .blocked)

/-- Gives a request up; its entry leaves the table. -/
def cancel (point : CallPoint) (session : Session) : Session :=
  match point with
  | .starting _ _ => session
  | .sending reply send =>
    { (send.cancel session).updateOutbox send.link Outbox.release with
      pending := reply.abandon session.pending }
  | .waiting reply link =>
    { session.updateOutbox link Outbox.release with pending := reply.abandon session.pending }

/-- The time at which the request gives up, if it looks at the time. -/
def deadline? : CallPoint → Option Instant
  | .waiting reply _ => some reply.deadline
  | _ => none

end CallPoint

/-! ### Questions and notifications -/

/-- Where a question stands. -/
inductive QueryPoint where
  | starting (query : Query)
  | calling (query : Query) (call : CallPoint)

namespace QueryPoint

/-- The end of a question: its outcome is counted. -/
def finish (session : Session) (result : Except SessionError Answer) :
    Stepped Session QueryPoint (Except SessionError Answer) :=
  match result with
  | .ok _ => (session.recordSuccess, .finished result)
  | .error error =>
    (if error.countsAsFailure then session.recordFailure else session, .finished result)

/-- What a value from the server comes to. -/
def answerOf (query : Query) (value : Json) : Except SessionError Answer :=
  match query.decodeAnswer? value with
  | some answer => .ok answer
  | none => .error (.invalidResult query.method "")

/-- Goes on from a step of the request. -/
def afterCall (query : Query) :
    Stepped Session CallPoint (Except SessionError Json) →
      Stepped Session QueryPoint (Except SessionError Answer)
  | (session, .blocked) => (session, .blocked)
  | (session, .moved call) => (session, .moved (.calling query call))
  | (session, .finished result) => finish session (result.bind (answerOf query))

/-- One step of a question. -/
def step (now : Instant) (point : QueryPoint) (session : Session) :
    Stepped Session QueryPoint (Except SessionError Answer) :=
  match point with
  | .starting query =>
    if session.state.acceptsRequests then
      afterCall query
        (CallPoint.step now (.starting (.query query) session.settings.requestTimeout) session)
    else (session, .finished (.error (.notReady session.state)))
  | .calling query call => afterCall query (call.step now session)

/-- Gives a question up; nothing is counted. -/
def cancel (point : QueryPoint) (session : Session) : Session :=
  match point with
  | .starting _ => session
  | .calling _ call => call.cancel session

/-- The time at which the question gives up, if it looks at the time. -/
def deadline? : QueryPoint → Option Instant
  | .starting _ => none
  | .calling _ call => call.deadline?

end QueryPoint

/-- Where a notification stands. -/
inductive NoticePoint where
  | starting (notice : Notice)
  | sending (send : SendPoint)

namespace NoticePoint

/-- What the fate of a notification comes to. -/
def outcome (sent : Bool) : Except SessionError Unit :=
  if sent then .ok () else .error .processExit

/-- One step of a notification. -/
def step (point : NoticePoint) (session : Session) :
    Stepped Session NoticePoint (Except SessionError Unit) :=
  match point with
  | .starting notice =>
    if session.state.acceptsRequests then
      match session.writer with
      | none => (session, .finished (.error .processExit))
      | some link =>
        match SendPoint.begin session link (.notice notice) with
        | (session, .moved send) => (session, .moved (.sending send))
        | (session, .finished sent) => (session, .finished (outcome sent))
        | (session, .blocked) => (session, .blocked)
    else (session, .finished (.error (.notReady session.state)))
  | .sending send =>
    match send.step session with
    | (session, .moved send) => (session, .moved (.sending send))
    | (session, .finished sent) => (session, .finished (outcome sent))
    | (session, .blocked) => (session, .blocked)

/-- Gives a notification up. -/
def cancel (point : NoticePoint) (session : Session) : Session :=
  match point with
  | .starting _ => session
  | .sending send => send.cancel session

end NoticePoint

end SymbolSearch
