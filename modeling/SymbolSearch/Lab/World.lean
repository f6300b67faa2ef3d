import SymbolSearch.Files.Tree
import SymbolSearch.Lab.Shell
import SymbolSearch.Lab.Spawner
import SymbolSearch.Lab.Wire
import SymbolSearch.Proxy.Serving
import SymbolSearch.Session.Task

/-!
# Worlds

A world is a proxy with its cache and sessions, the servers at the other ends of their links, the
files, a monitor with its processes, and a clock that stands still as long as anything can go on.

* `World.settle` lets every task of the sessions and servers go on until none can.
* `World.launchWanted` launches the servers that sessions ask for.
* `World.nextDeadline?` is the next time at which a task goes on by itself.
-/

namespace SymbolSearch.Lab

/-- A task of the proxy that runs beside the requests. -/
inductive Background where
  | serving (standing : Standing ServePoint Unit)
  | health (interval : Duration) (point : HealthPoint)

/-- One who listens for the notifications of a server. -/
structure Ear where
  adapter : AdapterId
  method : String
  /-- The place of the next notification. -/
  place : Nat

/-- A proxy, the servers that it talks to, the files and the clock. -/
structure World where
  now : Instant := 0
  tree : Tree
  proxy : Proxy
  /-- How the servers of each ecosystem behave. -/
  scripts : List (Ecosystem × Script) := []
  /-- Whether servers are processes that are found by their commands. -/
  hasProcesses : Bool := false
  wires : List Wire := []
  background : List Background := []
  /-- Those who listen for notifications. -/
  ears : List Ear := []
  /-- The adapters that someone keeps under a name. -/
  kept : List (String × AdapterId) := []
  /-- The monitor and its processes. -/
  post : Post := { upkeep := { around := {} } }
  /-- Who the proxy is. -/
  host : Answerer := .outsider
  /-- The proxy that a process of the monitor is. -/
  launched : Option Proxy := none

/-- The time of the wall clock, in milliseconds. It is not shown. -/
def wallClock : Nat := 0

namespace World

/-! ### Parts -/

/-- The cache of the proxy. -/
def cache (world : World) : Cache := world.proxy.cache

/-- Changes the cache of the proxy. -/
def updateCache (world : World) (change : Cache → Cache) : World :=
  { world with proxy := { world.proxy with cache := change world.proxy.cache } }

/-- The script of an ecosystem. -/
def script (world : World) (ecosystem : Ecosystem) : Script :=
  (world.scripts.lookup ecosystem).getD {}

/-- Changes the script of an ecosystem. -/
def setScript (world : World) (ecosystem : Ecosystem) (script : Script) : World :=
  { world with scripts := world.scripts.map fun (other, old) =>
      if other = ecosystem then (other, script) else (other, old) }

/-- Changes a wire. -/
def updateWire (world : World) (k : Nat) (change : Wire → Wire) : World :=
  { world with wires := world.wires.modify k change }

/-- The session at one end of a wire. -/
def sessionOf (world : World) (wire : Wire) : Option Session := world.cache.session? wire.adapter

/-- The link at one end of a wire. -/
def linkOf (world : World) (wire : Wire) : Option Link := do
  (← world.sessionOf wire).links[wire.link]?

/-- Changes the session at one end of a wire. -/
def updateSessionOf (world : World) (wire : Wire) (change : Session → Session) : World :=
  world.updateCache fun cache => cache.updateSession wire.adapter change

/-- Whether the client has closed its end of a wire. -/
def clientGone (world : World) (wire : Wire) : Bool :=
  (world.linkOf wire).all fun link => link.readerDone && link.writerDone

/-- Whether nothing more will come from the client. -/
def inputEnded (world : World) (wire : Wire) : Bool :=
  world.clientGone wire || (world.linkOf wire).all (·.inputEnded)

/-- The servers of an ecosystem close all their connections. -/
def hangUp (world : World) (ecosystem : Ecosystem) : World :=
  { world with wires := world.wires.map fun wire =>
      if wire.ecosystem = ecosystem then
        wire.updateScripted fun peer => { peer with hangingUp := true }
      else wire }

/-- Lets the one who answers now be the proxy. A process of the monitor that begins to answer has no
    sessions yet, and its servers are processes. -/
def meetHost (world : World) : World :=
  match world.post.around.answering, world.launched with
  | some host, some proxy =>
    if host = world.host then world
    else { world with proxy, host, hasProcesses := true, wires := [], background := [], ears := [] }
  | _, _ => world

/-- Changes the files. -/
def updateTree (world : World) (change : Tree → Tree) : World :=
  { world with tree := change world.tree }

/-! ### Listening -/

/-- Someone begins to listen for a notification, and is known by a number. -/
def listen (world : World) (id : AdapterId) (method : String) : World × Nat :=
  match world.cache.session? id with
  | none => (world, world.ears.length)
  | some session =>
    let (session, place) := session.subscribe method
    ({ world.updateCache fun cache => cache.updateSession id fun _ => session with
        ears := world.ears ++ [⟨id, method, place⟩] }, world.ears.length)

/-- All that a listener at a place gets now, and its next place. -/
def hearFrom (session : Session) (method : String) :
    Nat → Nat → List (Reception Json) × Nat
  | 0, place => ([], place)
  | fuel + 1, place =>
    match session.receive method place with
    | some (reception, place) =>
      let (others, place) := hearFrom session method fuel place
      (reception :: others, place)
    | none => ([], place)

/-- All that a listener gets now. -/
def hear (world : World) (number : Nat) : World × List (Reception Json) :=
  match world.ears[number]? with
  | none => (world, [])
  | some ear =>
    match world.cache.session? ear.adapter with
    | none => (world, [])
    | some session =>
      let (receptions, place) := hearFrom session ear.method (Broadcast.capacity + 2) ear.place
      ({ world with ears := world.ears.set number { ear with place } }, receptions)

/-! ### Launches -/

/-- The result of launching the server of an adapter. -/
def launchFor (world : World) (id : AdapterId) (adapter : Adapter) : World :=
  let answer (world : World) (result : Except SessionError ServerProcess) : World :=
    world.updateCache fun cache => cache.updateSession id fun session =>
      { session with launch := .finished result }
  let join (world : World) (peer : Peer) : World :=
    { world with wires := world.wires ++
        [{ ecosystem := adapter.ecosystem, adapter := id, link := adapter.session.links.length,
           peer }] }
  if world.hasProcesses then
    match launchable world.tree world.proxy.workspace adapter.server.command
        adapter.server.args with
    | .ok program => answer (join world (.running program)) (.ok .running)
    | .error error => answer world (.error error)
  else
    let script := world.script adapter.ecosystem
    if script.isMissing then answer world (.error (.commandNotFound adapter.server.command))
    else
      answer (join (world.setScript adapter.ecosystem
        { script with launches := script.launches + 1 }) (.scripted {})) (.ok .absent)

/-- Whether a session asks for a launch. -/
def wantsLaunch (adapter : Adapter) : Bool :=
  match adapter.session.launch with
  | .wanted => true
  | _ => false

/-- Launches the servers that sessions ask for. -/
def launchWanted (world : World) : World :=
  (world.cache.adapters.zipIdx.filter fun (adapter, _) => wantsLaunch adapter).foldl
    (fun world (adapter, id) => world.launchFor id adapter) world

/-! ### Tasks -/

/-- A task that goes on whenever it can. -/
inductive Actor where
  | server (wire : Nat)
  | late (wire : Nat)
  | serverWriter (wire : Nat)
  | clientWriter (wire : Nat)
  | clientReader (wire : Nat)
  | background (index : Nat)
  | post (hand : Hand)
  deriving DecidableEq

/-- The tasks of a wire. -/
def Actor.ofWire (k : Nat) : List Actor :=
  [.late k, .server k, .serverWriter k, .clientWriter k, .clientReader k]

/-- All tasks there are. -/
def actors (world : World) : List Actor :=
  (List.range world.wires.length).flatMap Actor.ofWire
    ++ (List.range world.background.length).map .background
    ++ world.post.hands.map .post

/-- A bound on the steps that a task takes at once. -/
def maxSteps : Nat := 1000000

/-- The writer of a link goes on until it has to wait. -/
def runClientWriter : Nat → Nat → World → World
  | 0, _, world => world
  | fuel + 1, k, world =>
    match world.wires[k]?, (world.wires[k]?).bind world.linkOf with
    | some wire, some link =>
      match link.unwritten? with
      | some bytes =>
        if wire.peerGone then
          world.updateSessionOf wire fun session => session.updateLink wire.link Link.stopWriter
        else
          let count := min bytes.size wire.roomToServer
          if count = 0 then world
          else
            let world := world.updateWire k fun wire =>
              { wire with toServer := wire.toServer ++ bytes.extract 0 count }
            runClientWriter fuel k (world.updateSessionOf wire fun session =>
              session.updateLink wire.link (·.written count))
      | none =>
        if link.stepWriter.2 then
          runClientWriter fuel k (world.updateSessionOf wire fun session =>
            (session.stepWriter wire.link).1)
        else world
    | _, _ => world

/-- Whether the writer of a link can go on. -/
def canClientWrite (world : World) (wire : Wire) : Bool :=
  match world.linkOf wire with
  | none => false
  | some link =>
    match link.unwritten? with
    | some _ => wire.peerGone || 0 < wire.roomToServer
    | none => link.stepWriter.2

/-- The reader of a link goes on until it has to wait. -/
def runClientReader : Nat → Nat → World → World
  | 0, _, world => world
  | fuel + 1, k, world =>
    match world.wires[k]?, (world.wires[k]?).bind world.linkOf,
        (world.wires[k]?).bind world.sessionOf with
    | some wire, some link, some session =>
      if link.wantsRead then
        if !wire.toClient.isEmpty then
          let count := min readChunkBytes wire.toClient.size
          let chunk := wire.toClient.extract 0 count
          let world := world.updateWire k fun wire =>
            { wire with toClient := wire.toClient.extract count wire.toClient.size }
          runClientReader fuel k (world.updateSessionOf wire fun session =>
            session.hear wire.link world.now (.bytes chunk))
        else if wire.outputEnded then
          runClientReader fuel k (world.updateSessionOf wire fun session =>
            session.hear wire.link world.now .ended)
        else world
      else
        let (session, moved) := session.stepReader wire.link world.now
        if moved then
          runClientReader fuel k (world.updateSessionOf wire fun _ => session)
        else world
    | _, _, _ => world

/-- Whether the reader of a link can go on. -/
def canClientRead (world : World) (wire : Wire) : Bool :=
  match world.linkOf wire with
  | none => false
  | some link =>
    match link.reader with
    | .done => false
    | .replying _ ticket =>
      match link.outbox.claim ticket .finish with
      | (_, .waits _) => false
      | _ => true
    | .reading => !link.wantsRead || !wire.toClient.isEmpty || wire.outputEnded

/-- The process of a link has ended with its program. -/
def noticeEnd (world : World) (k : Nat) : World :=
  match world.wires[k]? with
  | none => world
  | some wire =>
    match wire.peer with
    | .scripted _ => world
    | .running _ =>
      if wire.peerGone then
        world.updateSessionOf wire fun session =>
          session.updateLink wire.link fun link => { link with process := .ended }
      else world

/-- A peer goes on until it has to wait. -/
def runServer (k : Nat) (world : World) : World :=
  match world.wires[k]? with
  | none => world
  | some wire =>
    let ended := world.inputEnded wire
    match wire.peer with
    | .scripted _ =>
      let (wire, script) := wire.serve world.now ended maxSteps (world.script wire.ecosystem)
      (world.updateWire k fun _ => wire).setScript wire.ecosystem script
    | .running _ =>
      let isKilled := (world.linkOf wire).any (·.killed)
      let wire := if isKilled then wire.close else (wire.stepProgram world.now ended).1
      (world.updateWire k fun _ => wire).noticeEnd k

/-- Whether a peer can go on. -/
def canServe (world : World) (wire : Wire) : Bool :=
  match wire.peer with
  | .scripted _ => wire.canServe (world.inputEnded wire)
  | .running _ =>
    !wire.peerGone
      && ((world.linkOf wire).any (·.killed)
        || (wire.stepProgram world.now (world.inputEnded wire)).2)

/-- One step of a task of the proxy. The second part says whether it moved. -/
def stepBackground (i : Nat) (files : Option Tree) (world : World) : World × Bool :=
  let setTask (world : World) (proxy : Proxy) (task : Background) : World :=
    { world with proxy, background := world.background.set i task }
  match world.background[i]? with
  | none => (world, false)
  | some (.serving (.ended _)) => (world, false)
  | some (.serving (.waiting point)) =>
    match point.step world.now wallClock files world.proxy with
    | (_, .blocked) => (world, false)
    | (proxy, .moved point) => (setTask world proxy (.serving (.waiting point)), true)
    | (proxy, .finished ()) => (setTask world proxy (.serving (.ended ())), true)
  | some (.health interval point) =>
    match point.step world.now wallClock interval files world.proxy with
    | (_, .blocked) => (world, false)
    | (proxy, .moved point) => (setTask world proxy (.health interval point), true)
    | (_, .finished ()) => (world, false)

/-- A task of the proxy goes on until it has to wait. -/
def runBackground : Nat → Nat → World → World
  | 0, _, world => world
  | fuel + 1, i, world =>
    let (world, moved) := world.launchWanted.stepBackground i none
    if moved then runBackground fuel i world else world

/-- Whether a task can go on. -/
def canRun (world : World) : Actor → Bool
  | .server k => (world.wires[k]?).any world.canServe
  | .late k => (world.wires[k]?).any (·.hasLate world.now)
  | .serverWriter k =>
    (world.wires[k]?).any fun wire => wire.canFlush || (!wire.peerGone && world.clientGone wire
      && (wire.scripted?).any fun peer => !peer.outgoing.isEmpty)
  | .clientWriter k => (world.wires[k]?).any world.canClientWrite
  | .clientReader k => (world.wires[k]?).any world.canClientRead
  | .background i => (world.stepBackground i none).2
  | .post hand => (world.post.stepHand world.now wallClock hand).2

/-- A task goes on until it has to wait. -/
def run (world : World) : Actor → World
  | .server k => world.runServer k
  | .late k => world.updateWire k (·.giveLate world.now)
  | .serverWriter k =>
    world.updateWire k fun wire =>
      -- What nobody will read is not written.
      if world.clientGone wire then wire.updateScripted fun peer => { peer with outgoing := [] }
      else wire.flush maxSteps
  | .clientWriter k => runClientWriter maxSteps k world
  | .clientReader k => runClientReader maxSteps k world
  | .background i => runBackground maxSteps i world
  | .post hand => { world with post := world.post.runHand world.now wallClock hand maxSteps }

/-- Lets tasks go on one after the other; those that can go on because of it join the line. -/
def runQueue : Nat → List Actor → World → World
  | 0, _, world => world
  | _ + 1, [], world => world
  | fuel + 1, actor :: queue, world =>
    let world := if world.canRun actor then (world.run actor).launchWanted else world
    let woken := world.actors.filter fun other => !queue.contains other && world.canRun other
    runQueue fuel (queue ++ woken) world

/-- The tasks that can go on. -/
def readyActors (world : World) : List Actor := world.actors.filter world.canRun

/-- Lets every task go on until none can. The second part says whether any did. -/
def settle (world : World) : World × Bool :=
  match world.readyActors with
  | [] => (world, false)
  | ready => (runQueue maxSteps ready world, true)

/-- Whether a task of the proxy waits for the files. -/
def backgroundWantsFiles : Background → Bool
  | .serving (.waiting point) => point.wantsFiles
  | .serving (.ended _) => false
  | .health _ point => point.wantsFiles

/-- Lets the first task of the proxy that waits for the files use them. -/
def grantBackground (world : World) : World × Bool :=
  match world.background.findIdx? backgroundWantsFiles with
  | some i => world.stepBackground i (some world.tree)
  | none => (world, false)

/-- The time at which a task of the proxy goes on by itself. -/
def backgroundDeadline? : Background → Option Instant
  | .serving (.waiting point) => point.deadline?
  | .serving (.ended _) => none
  | .health _ point => point.deadline?

/-- The next time at which a task goes on by itself. -/
def nextDeadline? (world : World) : Option Instant :=
  earliest? (world.post.deadlineOf :: world.wires.map Wire.deadline?
    ++ world.background.map backgroundDeadline?)

end World
end SymbolSearch.Lab
