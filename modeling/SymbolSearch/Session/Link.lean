import SymbolSearch.Lsp.Call
import SymbolSearch.Rpc.Frame
import SymbolSearch.Sync.Outbox

/-!
# Links to a server

A link joins a session with one server that was launched for it.

* `Outgoing` is what goes through the outbox of a link.
* `Link` is the outbox with the writer that empties it, and the reader of what the server says.
-/

namespace SymbolSearch

/-- What goes through the outbox of a link. -/
inductive Outgoing where
  | request (id : Nat) (call : Call)
  | notice (notice : Notice)
  /-- The reply to a request of the server. -/
  | reply (message : Json)
  /-- The end of all that the client has to say. -/
  | finish

namespace Outgoing

/-- The message that is written for an item, if it is one. -/
def message? : Outgoing → Option Json
  | .request id call => some (call.toJson id)
  | .notice given => some given.toJson
  | .reply message => some message
  | .finish => none

end Outgoing

/-- What the writer of a link is doing. -/
inductive WriterPoint where
  | taking
  /-- Bytes that the server has not taken yet. -/
  | writing (rest : ByteArray)
  | done

/-- What the reader of a link is doing. -/
inductive ReaderPoint where
  | reading
  /-- A reply to a request of the server, which waits for room in the outbox. -/
  | replying (reply : Json) (ticket : Ticket)
  | done

/-- What became of the process of a server. -/
inductive ServerProcess where
  /-- The server is no process of its own. -/
  | absent
  | running
  | ended
  deriving DecidableEq, Repr

/-- The link to one server that was launched. -/
structure Link where
  /-- What waits to be written. Its senders are the session, the reader and the calls under way. -/
  outbox : Outbox Outgoing := { senders := 2 }
  writer : WriterPoint := .taking
  frames : FrameReader := {}
  reader : ReaderPoint := .reading
  process : ServerProcess
  /-- Whether the server has been told that nothing more will be written. -/
  inputEnded : Bool := false
  /-- Whether the process was killed, or is to be. -/
  killed : Bool := false

namespace Link

/-- Whether the writer has ended. -/
def writerDone (link : Link) : Bool :=
  match link.writer with
  | .done => true
  | _ => false

/-- Whether the reader has ended. -/
def readerDone (link : Link) : Bool :=
  match link.reader with
  | .done => true
  | _ => false

/-- Ends the writer. -/
def stopWriter (link : Link) : Link :=
  { link with writer := .done, outbox := link.outbox.close }

/-- Ends the reader. -/
def stopReader (link : Link) : Link :=
  match link.reader with
  | .done => link
  | .replying _ ticket =>
    { link with reader := .done, outbox := (link.outbox.abandon ticket).release }
  | .reading => { link with reader := .done, outbox := link.outbox.release }

/-- Gives the link up: reader and writer end, and the process, if any, is killed. -/
def drop (link : Link) : Link := { link.stopReader.stopWriter with killed := true }

/-- The bytes that the writer wants the server to take. -/
def unwritten? (link : Link) : Option ByteArray :=
  match link.writer with
  | .writing rest => some rest
  | _ => none

/-- The server has taken the first `count` of the bytes that the writer holds. -/
def written (link : Link) (count : Nat) : Link :=
  match link.writer with
  | .writing rest =>
    let rest := rest.extract count rest.size
    { link with writer := if rest.isEmpty then .taking else .writing rest }
  | _ => link

/-- Whether the reader waits for the server to say something. -/
def wantsRead (link : Link) : Bool :=
  match link.reader with
  | .reading => link.frames.queued.isEmpty && !link.frames.ended
  | _ => false

/-- One step of the writer: it takes the next item. The second part says whether it moved. -/
def stepWriter (link : Link) : Link × Bool :=
  match link.writer with
  | .taking =>
    match link.outbox.take with
    | (outbox, some item) =>
      match item.message? with
      | some message =>
        ({ link with outbox, writer := .writing (encodeFrame message) }, true)
      -- After the last item the input of the server ends.
      | none => ({ { link with outbox }.stopWriter with inputEnded := true }, true)
    -- Without senders nothing will come any more.
    | (_, none) => if link.outbox.senders = 0 then (link.stopWriter, true) else (link, false)
  | _ => (link, false)

end Link
end SymbolSearch
