import SymbolSearch.Session.Asking

/-!
# Bringing a session up

* `EnsurePoint.step` brings a session to the state in which it takes requests. An idle session is
  launched, and so is a crashed one when its cooldown is over, as long as its budget lasts.

The guard is held from the launch to the end of the handshake, but not while a cooldown is waited
out: whatever happens meanwhile is looked at again.
-/

namespace SymbolSearch

/-- Where bringing a session up stands. -/
inductive EnsurePoint where
  | asking
  | queued (ticket : Ticket)
  | cooling (resume : Instant)
  | launching (ticket : Ticket)
  /-- A server was launched, and the handshake can begin. -/
  | linked (ticket : Ticket) (deadline : Instant)
  | greeting (ticket : Ticket) (call : CallPoint) (deadline : Instant)
  /-- The server has answered, and the last message of the handshake waits for room. -/
  | confirming (ticket : Ticket) (send : SendPoint) (deadline : Instant)
    (capabilities : ServerCapabilities)

namespace EnsurePoint

/-- What steps of bringing a session up come to. -/
abbrev Ensured := Stepped Session EnsurePoint (Except SessionError Unit)

/-- The end: the guard is given up. -/
def finish (ticket : Ticket) (session : Session) (result : Except SessionError Unit) : Ensured :=
  ({ session with turns := session.turns.leave ticket }, .finished result)

/-- The session asks for a launch; what is left of an old connection is given up. -/
def launch (ticket : Ticket) (session : Session) : Ensured :=
  ({ session.dropConnection with state := .spawning, launch := .wanted },
    .moved (.launching ticket))

/-- What the holder of the guard does in the state that it finds. -/
def decide (now : Instant) (ticket : Ticket) (session : Session) : Ensured :=
  match session.state with
  | .ready | .degraded => finish ticket session (.ok ())
  | .closing | .closed => finish ticket session (.error .closed)
  | .spawning | .handshaking => finish ticket session (.error (.notReady session.state))
  | .idle => launch ticket session
  | .crashed =>
    if session.settings.maxRestarts ≤ session.restarts then
      finish ticket session (.error (.restartBudgetExhausted session.restarts))
    else
      let resume := (session.crashedAt.map (· + session.settings.restartCooldown)).getD 0
      -- The cooldown is waited out without the guard.
      if now < resume then
        ({ session with turns := session.turns.leave ticket }, .moved (.cooling resume))
      else launch ticket { session with restarts := session.restarts + 1 }

/-- The end of a handshake that failed. -/
def crash (now : Instant) (ticket : Ticket) (session : Session) (error : SessionError) : Ensured :=
  finish ticket (session.markCrashed now).dropConnection (.error error)

/-- The end of a handshake that went on too long. -/
def expire (now : Instant) (ticket : Ticket) (session : Session) : Ensured :=
  crash now ticket session (.handshakeTimeout session.settings.handshakeTimeout)

/-- The end of a handshake that an error broke off. -/
def fail (now : Instant) (ticket : Ticket) (session : Session) (error : SessionError) : Ensured :=
  match error with
  | .requestTimeout _ _ => expire now ticket session
  | error => crash now ticket session (.handshakeFailed error.message)

/-- The end of a handshake that succeeded. -/
def succeed (ticket : Ticket) (session : Session) (capabilities : ServerCapabilities) : Ensured :=
  finish ticket { session with capabilities, failures := 0, state := .ready } (.ok ())

/-- The server has answered: the handshake is confirmed. -/
def confirm (now : Instant) (ticket : Ticket) (deadline : Instant) (session : Session)
    (answer : Json) : Ensured :=
  match ServerHello.fromJson? answer with
  | none => fail now ticket session (.invalidResult "initialize" "")
  | some hello =>
    match session.writer with
    | none => fail now ticket session .processExit
    | some link =>
      match SendPoint.begin session link (.notice .initialized) with
      | (session, .finished true) => succeed ticket session hello.capabilities
      | (session, .moved send) =>
        (session, .moved (.confirming ticket send deadline hello.capabilities))
      | (session, _) => fail now ticket session .processExit

/-- Goes on from a step of the first request. -/
def afterCall (now : Instant) (ticket : Ticket) (deadline : Instant) :
    Stepped Session CallPoint (Except SessionError Json) → Ensured
  | (session, .moved call) => (session, .moved (.greeting ticket call deadline))
  | (session, .finished (.ok answer)) => confirm now ticket deadline session answer
  | (session, .finished (.error error)) => fail now ticket session error
  | (session, .blocked) => (session, .blocked)

/-- The session gets a link to a server that was launched. -/
def link (now : Instant) (ticket : Ticket) (session : Session) (process : ServerProcess) :
    Ensured :=
  ({ session.addLink process with state := .handshaking, launch := .none },
    .moved (.linked ticket (now + session.settings.handshakeTimeout)))

/-- The first request of the handshake is made. -/
def greet (now : Instant) (ticket : Ticket) (deadline : Instant) (session : Session) : Ensured :=
  match session.hello with
  | .error reason => fail now ticket session (.handshakeFailed reason)
  | .ok hello =>
    afterCall now ticket deadline
      (CallPoint.step now (.starting (.hello hello) session.settings.handshakeTimeout) session)

/-- One step of bringing a session up. -/
def step (now : Instant) (point : EnsurePoint) (session : Session) : Ensured :=
  match point with
  | .asking =>
    let (ticket, turns) := session.turns.join
    ({ session with turns }, .moved (.queued ticket))
  | .queued ticket =>
    if session.turns.holds ticket then decide now ticket session else (session, .blocked)
  | .cooling resume => if resume ≤ now then (session, .moved .asking) else (session, .blocked)
  | .launching ticket =>
    match session.launch with
    | .finished (.ok process) => link now ticket session process
    | .finished (.error error) =>
      finish ticket { session.markCrashed now with launch := .none } (.error error)
    | _ => (session, .blocked)
  | .linked ticket deadline => greet now ticket deadline session
  | .greeting ticket call deadline =>
    match call.step now session with
    | (session, .blocked) =>
      if deadline ≤ now then expire now ticket (call.cancel session) else (session, .blocked)
    | stepped => afterCall now ticket deadline stepped
  | .confirming ticket send deadline capabilities =>
    match send.step session with
    | (session, .moved send) => (session, .moved (.confirming ticket send deadline capabilities))
    -- Whether the session has crashed meanwhile is not looked at again.
    | (session, .finished true) => succeed ticket session capabilities
    | (session, .finished false) => fail now ticket session .processExit
    | (session, .blocked) =>
      if deadline ≤ now then expire now ticket (send.cancel session) else (session, .blocked)

/-- The time at which the operation goes on by itself. -/
def deadline? : EnsurePoint → Option Instant
  | .cooling resume => some resume
  | .greeting _ call deadline => some ((call.deadline?.map (min deadline)).getD deadline)
  | .confirming _ _ deadline _ => some deadline
  | _ => none

end EnsurePoint
end SymbolSearch
