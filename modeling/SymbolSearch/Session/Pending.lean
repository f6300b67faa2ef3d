import SymbolSearch.Rpc.Message
import SymbolSearch.Session.State
import SymbolSearch.Time.Duration

/-!
# Requests in flight

The table of the requests that wait for their responses, and the channels through which the
responses come.

* `Pending.register` enters a request and opens its channel. `Pending.resolve` takes a request out
  and sends the reply, `Pending.remove` takes it out without one, and `Pending.drain` takes out
  all; their senders end afterwards, which is `Pending.failAll`.
* `PendingReply` is the one who waits for a reply, and `PendingReply.wait?` how he does.
-/

namespace SymbolSearch

/-- The number of a channel: how many were opened before it. -/
abbrev ChannelId := Nat

/-- What has come through the channel of a request. -/
inductive ReplyChannel where
  | empty
  | filled (reply : ResponseOutcome)
  /-- The sender has ended without a reply. -/
  | broken

namespace ReplyChannel

/-- Sends a reply, unless the sender has ended. -/
def send (channel : ReplyChannel) (reply : ResponseOutcome) : ReplyChannel :=
  match channel with
  | .empty => .filled reply
  | other => other

/-- Ends the sender; what was sent stays. -/
def dropSender : ReplyChannel → ReplyChannel
  | .empty => .broken
  | other => other

end ReplyChannel

/-- The requests that wait for their responses. -/
structure Pending where
  /-- The ids of the requests in the table, with their channels. -/
  entries : List (Nat × ChannelId) := []
  /-- Every channel that was opened, the first one first. -/
  channels : List ReplyChannel := []

/-- The one who waits for the reply to a request. -/
structure PendingReply where
  id : Nat
  channel : ChannelId
  method : String
  timeout : Duration
  deadline : Instant

namespace Pending

/-- Ends the sender of a channel. -/
def dropSender (pending : Pending) (channel : ChannelId) : Pending :=
  { pending with channels := pending.channels.modify channel ReplyChannel.dropSender }

/-- Takes a request out, with its channel. -/
def takeOut (pending : Pending) (id : Nat) : Pending × Option ChannelId :=
  ({ pending with entries := pending.entries.filter (·.1 ≠ id) }, pending.entries.lookup id)

/-- Takes a request out. The second part says whether it was in the table. -/
def remove (pending : Pending) (id : Nat) : Pending × Bool :=
  match pending.takeOut id with
  | (pending, some channel) => (pending.dropSender channel, true)
  | (pending, none) => (pending, false)

/-- Enters a request; one with the same id makes room for it. -/
def register (now : Instant) (pending : Pending) (id : Nat) (method : String)
    (timeout : Duration) : Pending × PendingReply :=
  -- The sender of an older request with the id ends.
  let pending := (pending.remove id).1
  let channel := pending.channels.length
  (⟨pending.entries ++ [(id, channel)], pending.channels ++ [.empty]⟩,
    { id, channel, method, timeout, deadline := now + timeout })

/-- Takes a request out and sends its reply. The second part says whether it was in the table; if
    it was not, nothing changes. -/
def resolve (pending : Pending) (id : Nat) (reply : ResponseOutcome) : Pending × Bool :=
  match pending.takeOut id with
  | (pending, some channel) =>
    ({ pending with channels := pending.channels.modify channel (·.send reply) }, true)
  | (pending, none) => (pending, false)

/-- Takes all requests out. The second part lists the channels whose senders have to end. -/
def drain (pending : Pending) : Pending × List ChannelId :=
  ({ pending with entries := [] }, pending.entries.map (·.2))

/-- Takes all requests out, and ends their senders. -/
def failAll (pending : Pending) : Pending :=
  let (pending, senders) := pending.drain
  senders.foldl dropSender pending

end Pending

namespace PendingReply

/-- What a reply comes to. -/
def resultOf : ResponseOutcome → Except SessionError Json
  | .ok value => .ok value
  | .error error => .error (.serverError error.code error.text)

/-- What the channel holds for the one who waits, if it holds anything yet. -/
def poll? (reply : PendingReply) (pending : Pending) : Option (Except SessionError Json) :=
  match pending.channels[reply.channel]? with
  | some .empty => none
  | some (.filled outcome) => some (resultOf outcome)
  | _ => some (.error .processExit)

/-- The deadline has come: the one who waits takes his request out, if it is still there. -/
def expire (reply : PendingReply) (pending : Pending) :
    Pending × Option (Except SessionError Json) :=
  match pending.remove reply.id with
  | (pending, true) => (pending, some (.error (.requestTimeout reply.method reply.timeout)))
  | (pending, false) => (pending, none)

/-- What is left for one whose request was not there any more at its deadline. -/
def lastLook (reply : PendingReply) (pending : Pending) : Except SessionError Json :=
  match pending.channels[reply.channel]? with
  | some (.filled outcome) => resultOf outcome
  | _ => .error .processExit

/-- Looks into the channel, and at the time. There is no result as long as the one who waits has to
    go on waiting. -/
def wait? (now : Instant) (reply : PendingReply) (pending : Pending) :
    Pending × Option (Except SessionError Json) :=
  match reply.poll? pending with
  | some result => (pending, some result)
  | none =>
    if reply.deadline ≤ now then
      match reply.expire pending with
      | (pending, some result) => (pending, some result)
      | (pending, none) => (pending, some (reply.lastLook pending))
    else (pending, none)

/-- Gives up waiting. -/
def abandon (reply : PendingReply) (pending : Pending) : Pending := (pending.remove reply.id).1

end PendingReply
end SymbolSearch
