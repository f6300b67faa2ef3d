import SymbolSearch.Session.Asking

/-!
# Ending a session

* `StopPoint.step` closes a session: the server is asked to shut down and told to exit, its process
  gets some time to end, and so does the writer. The session ends closed whatever fails.
* `ResetPoint.step` makes a crashed or closed session idle again, with a new budget of restarts.
* `AlivePoint.step` looks whether a session takes requests and its server still runs.
-/

namespace SymbolSearch

/-- Where closing a session stands. -/
inductive StopPoint where
  | asking
  | queued (ticket : Ticket)
  /-- The session is closing; the server is asked to shut down if it took requests before. -/
  | parting (ticket : Ticket) (asked : Bool)
  | farewell (ticket : Ticket) (call : CallPoint)
  | exiting (ticket : Ticket) (send : SendPoint)
  | finishing (ticket : Ticket) (send : SendPoint)
  | reaping (ticket : Ticket) (link : LinkId) (deadline : Instant)
  | killing (ticket : Ticket) (link : LinkId)
  | draining (ticket : Ticket) (link : LinkId) (deadline : Instant)

namespace StopPoint

/-- What steps of closing a session come to. -/
abbrev Stopped := Stepped Session StopPoint Unit

/-- The last step: nothing is in flight any more, and the guard is given up. -/
def finish (ticket : Ticket) (session : Session) : Stopped :=
  ({ session with
      pending := session.pending.failAll
      state := .closed
      turns := session.turns.leave ticket }, .finished ())

/-- The process has ended, or there is none: the writer gets some time to end. -/
def drain (now : Instant) (ticket : Ticket) (link : LinkId) (session : Session) : Stopped :=
  (session, .moved (.draining ticket link (now + session.settings.shutdownTimeout)))

/-- The connection is taken from the session, and its process gets some time to end. -/
def close (now : Instant) (ticket : Ticket) (session : Session) : Stopped :=
  match session.connection with
  | none => finish ticket session
  | some link =>
    let session := { session with connection := none }
    match session.processOf link with
    | .absent => drain now ticket link session
    | _ => (session, .moved (.reaping ticket link (now + session.settings.shutdownTimeout)))

/-- The last item of the outbox is sent. -/
def finishOutbox (now : Instant) (ticket : Ticket) (session : Session) : Stopped :=
  match session.writer with
  | none => close now ticket session
  | some link =>
    match SendPoint.begin session link .finish with
    -- The session has nothing more to say, so it gives its sender up.
    | (session, .moved send) => (session.releaseWriter, .moved (.finishing ticket send))
    | (session, _) => close now ticket session.releaseWriter

/-- The server is told to exit. -/
def sendExit (now : Instant) (ticket : Ticket) (session : Session) : Stopped :=
  match session.writer with
  | none => finishOutbox now ticket session
  | some link =>
    match SendPoint.begin session link (.notice .exit) with
    | (session, .moved send) => (session, .moved (.exiting ticket send))
    | (session, _) => finishOutbox now ticket session

/-- Goes on from a step of the request to shut down. -/
def afterFarewell (now : Instant) (ticket : Ticket) :
    Stepped Session CallPoint (Except SessionError Json) → Stopped
  | (session, .moved call) => (session, .moved (.farewell ticket call))
  | (session, .finished _) => sendExit now ticket session
  | (session, .blocked) => (session, .blocked)

/-- What the holder of the guard does in the state that it finds. -/
def decide (ticket : Ticket) (session : Session) : Stopped :=
  if session.state = .closed then
    ({ session with turns := session.turns.leave ticket }, .finished ())
  else
    ({ session with state := .closing }, .moved (.parting ticket session.state.acceptsRequests))

/-- The first thing that a session does when it is closing. -/
def part (now : Instant) (ticket : Ticket) (asked : Bool) (session : Session) : Stopped :=
  if asked then
    afterFarewell now ticket
      (CallPoint.step now (.starting .shutdown session.settings.shutdownTimeout) session)
  else finishOutbox now ticket session

/-- One step of closing a session. -/
def step (now : Instant) (point : StopPoint) (session : Session) : Stopped :=
  match point with
  | .asking =>
    let (ticket, turns) := session.turns.join
    ({ session with turns }, .moved (.queued ticket))
  | .queued ticket =>
    if session.turns.holds ticket then decide ticket session else (session, .blocked)
  | .parting ticket asked => part now ticket asked session
  | .farewell ticket call => afterFarewell now ticket (call.step now session)
  | .exiting ticket send =>
    match send.step session with
    | (session, .moved send) => (session, .moved (.exiting ticket send))
    | (session, .finished _) => finishOutbox now ticket session
    | (session, .blocked) => (session, .blocked)
  | .finishing ticket send =>
    match send.step session with
    | (session, .moved send) => (session, .moved (.finishing ticket send))
    | (session, .finished _) => close now ticket session
    | (session, .blocked) => (session, .blocked)
  | .reaping ticket link deadline =>
    match session.processOf link with
    | .running =>
      -- A process that has not ended in time is killed.
      if deadline ≤ now then
        (session.updateLink link fun found => { found with killed := true },
          .moved (.killing ticket link))
      else (session, .blocked)
    | _ => drain now ticket link session
  | .killing ticket link =>
    match session.processOf link with
    | .running => (session, .blocked)
    | _ => drain now ticket link session
  | .draining ticket link deadline =>
    let writerDone := ((session.links[link]?).map Link.writerDone).getD true
    if writerDone || deadline ≤ now then finish ticket (session.updateLink link Link.drop)
    else (session, .blocked)

/-- The time at which the operation goes on by itself. -/
def deadline? : StopPoint → Option Instant
  | .farewell _ call => call.deadline?
  | .reaping _ _ deadline => some deadline
  | .draining _ _ deadline => some deadline
  | _ => none

end StopPoint

/-- Where an operation stands that only waits for the guard. -/
inductive GuardPoint where
  | asking
  | queued (ticket : Ticket)

namespace GuardPoint

/-- One step of an operation that does a single thing while it has the guard. -/
def step {ρ : Type} (act : Session → Session × ρ) (point : GuardPoint) (session : Session) :
    Stepped Session GuardPoint ρ :=
  match point with
  | .asking =>
    let (ticket, turns) := session.turns.join
    ({ session with turns }, .moved (.queued ticket))
  | .queued ticket =>
    if session.turns.holds ticket then
      let (session, result) := act session
      ({ session with turns := session.turns.leave ticket }, .finished result)
    else (session, .blocked)

end GuardPoint

namespace Session

/-- Makes a crashed or closed session idle, with a new budget. The result says whether it was
    one. -/
def resetNow (session : Session) : Session × Bool :=
  match session.state with
  | .crashed | .closed =>
    ({ session.dropConnection.releaseWriter with
        crashedAt := none
        restarts := 0
        failures := 0
        state := .idle }, true)
  | _ => (session, false)

/-- Whether the session has a connection whose process, if any, still runs. -/
def hasLiveConnection (session : Session) : Bool :=
  match session.connection with
  | none => false
  | some link => (session.links[link]?).any fun found => found.process ≠ .ended

/-- One step of resetting a session. -/
def stepReset (point : GuardPoint) (session : Session) : Stepped Session GuardPoint Bool :=
  point.step resetNow session

/-- One step of looking whether a session is alive; it needs the guard only if the session takes
    requests. -/
def stepAlive (point : GuardPoint) (session : Session) : Stepped Session GuardPoint Bool :=
  match point with
  | .asking =>
    if session.state.acceptsRequests then
      point.step (fun session => (session, session.hasLiveConnection)) session
    else (session, .finished false)
  | .queued _ => point.step (fun session => (session, session.hasLiveConnection)) session

end Session
end SymbolSearch
