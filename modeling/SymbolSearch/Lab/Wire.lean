import SymbolSearch.Cache.Basic
import SymbolSearch.Lab.Script
import SymbolSearch.Lab.Shell
import SymbolSearch.Rpc.Frame

/-!
# Wires

A wire joins the link of a session with the peer at its other end.

* `Peer` is a scripted server or a small program.
* `Wire` holds the bytes on their way, at most so many in each direction.
-/

namespace SymbolSearch.Lab

/-- A reply that is given later. -/
structure LateReply where
  due : Instant
  bytes : ByteArray

/-- A scripted server on one connection. -/
structure ScriptedPeer where
  frames : FrameReader := {}
  /-- Whether the server is to close the connection. -/
  hangingUp : Bool := false
  /-- The id of the next request of the server. -/
  nextAsk : Nat := 1000
  /-- What is yet to be written. -/
  outgoing : List ByteArray := []
  late : List LateReply := []

/-- What is at the other end of a wire. -/
inductive Peer where
  | scripted (peer : ScriptedPeer)
  | running (program : Program)

/-- One connection between a session and a server. -/
structure Wire where
  ecosystem : Ecosystem
  adapter : AdapterId
  link : LinkId
  peer : Peer
  toServer : ByteArray := .empty
  toClient : ByteArray := .empty
  /-- Whether the peer has closed its end. -/
  peerGone : Bool := false
  /-- Whether the peer has closed its output, though it may still take what it is told. -/
  outputClosed : Bool := false

namespace Wire

/-- The number of bytes that may be on their way in one direction. -/
def capacity : Nat := 65536

/-- How many more bytes may go to the server. -/
def roomToServer (wire : Wire) : Nat := capacity - wire.toServer.size

/-- How many more bytes may go to the client. -/
def roomToClient (wire : Wire) : Nat := capacity - wire.toClient.size

/-- The peer closes its end; what is on its way to the client still arrives. -/
def close (wire : Wire) : Wire := { wire with peerGone := true, toServer := .empty }

/-- Whether nothing more will come from the peer. -/
def outputEnded (wire : Wire) : Bool := wire.peerGone || wire.outputClosed

/-- The scripted server at the other end, if it is one. -/
def scripted? (wire : Wire) : Option ScriptedPeer :=
  match wire.peer with
  | .scripted peer => some peer
  | .running _ => none

/-- Changes the scripted server at the other end. -/
def updateScripted (wire : Wire) (change : ScriptedPeer → ScriptedPeer) : Wire :=
  match wire.peer with
  | .scripted peer => { wire with peer := .scripted (change peer) }
  | .running _ => wire

/-- A scripted server writes. -/
def write (wire : Wire) (bytes : ByteArray) : Wire :=
  wire.updateScripted fun peer => { peer with outgoing := peer.outgoing ++ [bytes] }

/-- The time at which the peer goes on by itself. -/
def deadline? (wire : Wire) : Option Instant :=
  if wire.peerGone then none
  else
    match wire.peer with
    | .scripted peer => (peer.late.map (·.due)).min?
    | .running program => program.deadline?

end Wire

/-! ### Scripted servers -/

/-- The reply of a scripted server to a message with an id. -/
def replyBytes (id : Json) (value : Json) : ByteArray :=
  encodeFrame (.object [("id", id), ("jsonrpc", .string Message.version), ("result", value)])

/-- The reply of a scripted server that reports an error. -/
def failureBytes (id code text : Json) : ByteArray :=
  encodeFrame (.object [("error", .object [("code", code), ("message", text)]), ("id", id),
    ("jsonrpc", .string Message.version)])

namespace Wire

/-- A scripted server does one thing about a message with the given id and parameters. -/
def perform (now : Instant) (id : Option Json) (params : Json) (wire : Wire) : Deed → Wire
  | .respond value =>
    match id with
    | some id => wire.write (replyBytes id value)
    | none => wire
  | .fail code text =>
    match id with
    | some id => wire.write (failureBytes id code text)
    | none => wire
  | .respondAfter delay value => postpone delay value
  | .notify method params =>
    wire.write (encodeFrame (.object [("jsonrpc", .string Message.version), ("method", method),
      ("params", params)]))
  | .ask method params =>
    match wire.scripted? with
    | none => wire
    | some peer =>
      (wire.write (encodeFrame (.object [("id", .nat peer.nextAsk),
        ("jsonrpc", .string Message.version), ("method", method),
        ("params", params)]))).updateScripted fun peer =>
          { peer with nextAsk := peer.nextAsk + 1 }
  | .write bytes => wire.write bytes
  | .echo place =>
    match id with
    | some id => wire.write (replyBytes id (place.answer params))
    | none => wire
  | .echoAfter delay place => postpone delay (place.answer params)
  | .usual => wire
  | .hangUp => wire.close
where
  /-- The reply is given later. -/
  postpone (delay : Duration) (value : Json) : Wire :=
    match id with
    | some id => wire.updateScripted fun peer =>
      { peer with late := peer.late ++ [⟨now + delay, replyBytes id value⟩] }
    | none => wire

/-- A scripted server does several things, until it hangs up. -/
def performAll (now : Instant) (id : Option Json) (params : Json) (wire : Wire) :
    List Deed → Wire
  | [] => wire
  | deed :: deeds =>
    let wire := wire.perform now id params deed
    if wire.peerGone then wire else wire.performAll now id params deeds

/-- A scripted server receives a message. -/
def receive (now : Instant) (wire : Wire) (script : Script) (message : Json) : Wire × Script :=
  let script := { script with received := script.received.push message }
  match (message.field? "method").bind Json.string? with
  | none => (wire, script)
  | some method =>
    let params := (message.field? "params").getD .null
    let (deeds, script) := script.respondTo method params
    (wire.performAll now (message.field? "id") params deeds, script)

/-- A scripted server takes in what has come, in the order of the messages, until it has to wait.
    `inputEnded` says whether nothing more will come. -/
def serve (now : Instant) (inputEnded : Bool) : Nat → Wire → Script → Wire × Script
  | 0, wire, script => (wire, script)
  | fuel + 1, wire, script =>
    match wire.scripted? with
    | none => (wire, script)
    | some peer =>
      if wire.peerGone then (wire, script)
      else if peer.hangingUp then (wire.close, script)
      else
        let chunk := wire.toServer.extract 0 (min readChunkBytes wire.toServer.size)
        let (item, frames, taken) :=
          match peer.frames.next? with
          | (some item, frames) => (some item, frames, 0)
          | (none, frames) =>
            if !chunk.isEmpty then
              let (item, frames) := frames.absorb (.bytes chunk)
              (item, frames, chunk.size)
            else if inputEnded then
              let (item, frames) := frames.absorb .ended
              (item, frames, 0)
            else (none, frames, 0)
        let wire := { wire with
          toServer := wire.toServer.extract taken wire.toServer.size
        }.updateScripted fun peer => { peer with frames }
        match item with
        | some (.event (.frame frame)) =>
          let (wire, script) := wire.receive now script frame.value
          serve now inputEnded fuel wire script
        | some _ => (wire.close, script)
        | none => if taken = 0 then (wire, script) else serve now inputEnded fuel wire script

/-- Whether a scripted server can go on. -/
def canServe (wire : Wire) (inputEnded : Bool) : Bool :=
  match wire.scripted? with
  | none => false
  | some peer =>
    !wire.peerGone
      && (peer.hangingUp || !peer.frames.queued.isEmpty || !wire.toServer.isEmpty || inputEnded)

/-- The replies that are due now are written. -/
def giveLate (now : Instant) (wire : Wire) : Wire :=
  match wire.scripted? with
  | none => wire
  | some peer =>
    let due := (peer.late.filter (·.due ≤ now)).mergeSort fun a b => a.due ≤ b.due
    due.foldl (fun wire reply => wire.write reply.bytes)
      (wire.updateScripted fun peer => { peer with late := peer.late.filter (now < ·.due) })

/-- Whether a reply is due now. -/
def hasLate (now : Instant) (wire : Wire) : Bool :=
  !wire.peerGone && (wire.scripted?).any fun peer => peer.late.any (·.due ≤ now)

/-- What a scripted server has written goes on its way, as far as there is room. -/
def flush : Nat → Wire → Wire
  | 0, wire => wire
  | fuel + 1, wire =>
    match wire.scripted? with
    | none => wire
    | some peer =>
      match peer.outgoing with
      | [] => wire
      | bytes :: rest =>
        let count := min bytes.size wire.roomToClient
        let wire := { wire with toClient := wire.toClient ++ bytes.extract 0 count }
        if count = bytes.size then
          flush fuel (wire.updateScripted fun peer => { peer with outgoing := rest })
        else
          wire.updateScripted fun peer =>
            { peer with outgoing := bytes.extract count bytes.size :: rest }

/-- Whether something that a scripted server has written can go on its way. -/
def canFlush (wire : Wire) : Bool :=
  !wire.peerGone && 0 < wire.roomToClient
    && (wire.scripted?).any fun peer => !peer.outgoing.isEmpty

/-! ### Programs -/

/-- One step of a program. The second part says whether it moved. -/
def stepProgram (now : Instant) (inputEnded : Bool) (wire : Wire) : Wire × Bool :=
  match wire.peer with
  | .scripted _ => (wire, false)
  | .running program =>
    if wire.peerGone then (wire, false)
    else
      match program.step now wire.toServer inputEnded wire.roomToClient with
      | .blocked => (wire, false)
      | .ended => (wire.close, true)
      | .silent program =>
        ({ wire with peer := .running program, outputClosed := true }, true)
      | .goesOn program taken printed =>
        ({ wire with
            peer := .running program
            toServer := wire.toServer.extract taken wire.toServer.size
            toClient := wire.toClient ++ printed }, true)

end Wire
end SymbolSearch.Lab
