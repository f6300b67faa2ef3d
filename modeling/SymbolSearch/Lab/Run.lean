import SymbolSearch.Cache.Closing
import SymbolSearch.Lab.World
import SymbolSearch.Proxy.Answering

/-!
# Runs

* `Task` is an operation of the proxy, its cache, an adapter or a session, wherever it stands, and
  `Reply` its result.
* `Task.step` is one step of it.
* `Chore` is one thing to do in a world, and `play` does several at once. The clock moves only when
  nothing can go on, to the next time at which something does by itself.

Among what can go on, the chores come first, in order, and then the tasks of the world. So if
a limit and a late reply fall on the same time, the limit is noticed first.
-/

namespace SymbolSearch.Lab

/-! ### What can be asked of a world -/

/-- What is done with an adapter that was found. -/
inductive Purpose where
  | keep
  | ask (inquiry : Inquiry)
  /-- The session of the adapter is closed. -/
  | close

/-- An operation, wherever it stands. -/
inductive Task where
  | session (adapter : AdapterId) (task : SessionTask)
  | finding (entry : EntryPoint) (purpose : Purpose)
  /-- The adapter that handles a file is found. -/
  | findingFor (workspace file : Path)
  | asking (adapter : AdapterId) (inquiry : InquiryPoint)
  | closing (adapter : AdapterId) (stop : StopPoint)
  | reconnecting (reconnect : ReconnectPoint)
  | reviving (revive : RevivePoint)
  | disconnecting (disconnect : DisconnectPoint)
  | answering (http : HttpPoint)
  | checking (check : CheckPoint)

/-- The result of an operation. -/
inductive Reply where
  | session (reply : SessionReply)
  | adapter (result : Except CacheError AdapterId)
  | sourced (sourced : Sourced)
  | revived (result : Except CacheError Bool)
  | disconnected (closed : Nat)
  | http (answer : HttpAnswer)
  | checked (count : Nat)

namespace Task

/-- The next point of an operation whose adapter was found. -/
def afterFinding (purpose : Purpose) (cache : Cache) (adapter : AdapterId) :
    Stepped Cache Task Reply :=
  match purpose with
  | .keep => (cache, .finished (.adapter (.ok adapter)))
  | .ask inquiry => (cache, .moved (.asking adapter (.starting inquiry)))
  | .close => (cache, .moved (.closing adapter .asking))

/-- One step of an operation on the cache. -/
def stepCache (now : Instant) (files : Option Tree) (task : Task) (cache : Cache) :
    Stepped Cache Task Reply :=
  match task with
  | .session adapter task =>
    (cache.stepSession adapter (task.step now)).map (.session adapter) .session
  | .finding entry purpose =>
    match cache.stepAdapterFor files entry with
    | (cache, .blocked) => (cache, .blocked)
    | (cache, .moved entry) => (cache, .moved (.finding entry purpose))
    | (cache, .finished (.error error)) => (cache, .finished (.adapter (.error error)))
    | (cache, .finished (.ok adapter)) => afterFinding purpose cache adapter
  | .findingFor workspace file =>
    match cache.ecosystemFor? file with
    | none => (cache, .finished (.adapter (.error (.unmanagedFile file))))
    | some ecosystem => (cache, .moved (.finding (.starting ecosystem workspace) .keep))
  | .asking adapter inquiry =>
    (cache.stepAdapter adapter (inquiry.step now files)).map (.asking adapter) .sourced
  | .closing adapter stop =>
    (cache.stepSession adapter (stop.step now)).map (.closing adapter) fun _ =>
      .adapter (.ok adapter)
  | .reconnecting reconnect => (reconnect.step now files cache).map .reconnecting .adapter
  | .reviving revive => (revive.step files cache).map .reviving .revived
  | .disconnecting disconnect =>
    (disconnect.step now files cache).map .disconnecting .disconnected
  | .answering _ => (cache, .blocked)
  | .checking _ => (cache, .blocked)

/-- One step of an operation. The files are there only when the step may use them. -/
def step (now : Instant) (files : Option Tree) (task : Task) (proxy : Proxy) :
    Stepped Proxy Task Reply :=
  match task with
  | .answering http => (http.step now files proxy).map .answering .http
  | .checking check => (check.step now wallClock files proxy).map .checking .checked
  | task => proxy.withCache (task.stepCache now files proxy.cache)

/-- Whether an operation waits for the files. -/
def wantsFiles : Task → Bool
  | .finding entry _ => entry.wantsFiles
  | .asking _ inquiry => inquiry.wantsFiles
  | .reconnecting reconnect => reconnect.wantsFiles
  | .reviving revive => revive.wantsFiles
  | .disconnecting disconnect => disconnect.wantsFiles
  | .answering http => http.wantsFiles
  | .checking check => check.wantsFiles
  | _ => false

/-- The time at which an operation goes on by itself. -/
def deadline? : Task → Option Instant
  | .session _ task => task.deadline?
  | .asking _ inquiry => inquiry.deadline?
  | .closing _ stop => stop.deadline?
  | .reconnecting reconnect => reconnect.deadline?
  | .disconnecting disconnect => disconnect.deadline?
  | .answering http => http.deadline?
  | .checking check => check.deadline?
  | _ => none

/-- Gives an operation up where it stands. -/
def cancel (task : Task) (proxy : Proxy) : Proxy :=
  let onCache (change : Cache → Cache) : Proxy := { proxy with cache := change proxy.cache }
  match task with
  | .session adapter task => onCache fun cache => cache.updateSession adapter task.cancel
  | .finding entry _ => onCache entry.cancel
  | .findingFor _ _ => proxy
  | .asking adapter inquiry => onCache fun cache => cache.updateAdapter adapter inquiry.cancel
  | .closing adapter stop => onCache fun cache => cache.updateSession adapter stop.cancel
  | .reconnecting reconnect => onCache reconnect.cancel
  | .reviving revive => onCache revive.cancel
  | .disconnecting disconnect => onCache disconnect.cancel
  | .answering http => http.cancel proxy
  | .checking check => check.cancel proxy

end Task

/-! ### Chores -/

/-- One thing to do in a world. -/
inductive Chore (ρ : Type) where
  /-- Something is done as soon as it can be. -/
  | awaiting (ready : World → Option (World × ρ))
  | sleeping (length : Duration) (result : ρ)
  | sleepingUntil (resume : Instant) (result : ρ)
  /-- Something is waited for up to a time; the result depends on whether it came. -/
  | watching (deadline : Instant) (holds : World → Bool) (result : Bool → ρ)
  | working (task : Task) (conclude : Reply → World → World × ρ)
  | keeping (call : KeeperCall) (conclude : KeeperReply → World → World × ρ)
  /-- What is done depends on the world in which it begins. -/
  | deciding (choose : World → World × Chore ρ)

namespace Chore

variable {ρ : Type}

/-- Something that is done at once. -/
def instantly (act : World → World × ρ) : Chore ρ := .awaiting fun world => some (act world)

/-- One step of a chore. -/
def step (files : Option Tree) (chore : Chore ρ) (world : World) : Stepped World (Chore ρ) ρ :=
  match chore with
  | .awaiting ready =>
    match ready world with
    | some (world, result) => (world, .finished result)
    | none => (world, .blocked)
  | .sleeping length result => (world, .moved (.sleepingUntil (world.now + length) result))
  | .sleepingUntil resume result =>
    if resume ≤ world.now then (world, .finished result) else (world, .blocked)
  | .watching deadline holds result =>
    if holds world then (world, .finished (result true))
    else if deadline ≤ world.now then (world, .finished (result false))
    else (world, .blocked)
  | .working task conclude =>
    match task.step world.now files world.proxy with
    | (_, .blocked) => (world, .blocked)
    | (proxy, .moved task) =>
      ({ world with proxy }.launchWanted, .moved (.working task conclude))
    | (proxy, .finished reply) =>
      let (world, result) := conclude reply { world with proxy }.launchWanted
      (world, .finished result)
  | .keeping call conclude =>
    match call.step Spawner.surroundings world.now wallClock world.post with
    | (_, .blocked) => (world, .blocked)
    | (post, .moved call) => ({ world with post }, .moved (.keeping call conclude))
    | (post, .finished reply) =>
      let (world, result) := conclude reply { world with post }
      (world, .finished result)
  | .deciding choose =>
    let (world, chore) := choose world
    (world, .moved chore)

/-- Whether a chore waits for the files. -/
def wantsFiles : Chore ρ → Bool
  | .working task _ => task.wantsFiles
  | _ => false

/-- The time at which a chore goes on by itself. -/
def deadline? : Chore ρ → Option Instant
  | .sleepingUntil resume _ => some resume
  | .watching deadline _ _ => some deadline
  | .working task _ => task.deadline?
  | .keeping call _ => call.deadline?
  | _ => none

/-- Gives a chore up where it stands. -/
def cancel (chore : Chore ρ) (world : World) : World :=
  match chore with
  | .working task _ => { world with proxy := task.cancel world.proxy }
  | .keeping call _ => { world with post := call.cancel world.post }
  | _ => world

end Chore

/-- How long a run may take before it is given up. -/
def runLimit : Duration := .ofSecs 1000000

/-- A bound on the rounds of a run. -/
def maxRounds : Nat := 1000000

variable {ρ : Type}

/-- The chores of a run, done or not. -/
abbrev Chores (ρ : Type) := List (Standing (Chore ρ) ρ)

/-- Every chore goes on until it has to wait. The last part says whether any has moved. -/
def pollAll : Chores ρ → World → World × Chores ρ × Bool
  | [], world => (world, [], false)
  | .ended result :: others, world =>
    let (world, others, moved) := pollAll others world
    (world, .ended result :: others, moved)
  | .waiting chore :: others, world =>
    let (world, standing, moved) :=
      runUntilBlocked (Chore.step none) World.maxSteps chore world false
    let (world, others, othersMoved) := pollAll others world
    (world, standing :: others, moved || othersMoved)

/-- The first chore that waits for the files may use them. -/
def grantFiles : Chores ρ → World → Option (World × Chores ρ)
  | [], _ => none
  | .ended result :: others, world =>
    (grantFiles others world).map fun (world, others) => (world, .ended result :: others)
  | .waiting chore :: others, world =>
    if chore.wantsFiles then
      match chore.step (some world.tree) world with
      | (world, .blocked) => some (world, .waiting chore :: others)
      | (world, .moved chore) => some (world, .waiting chore :: others)
      | (world, .finished result) => some (world, .ended result :: others)
    else
      (grantFiles others world).map fun (world, others) => (world, .waiting chore :: others)

/-- The next time at which anything goes on by itself. -/
def nextTime? (chores : Chores ρ) (world : World) : Option Instant :=
  earlier? (earliest? ((Standing.points chores).map Chore.deadline?)) world.nextDeadline?

/-- Gives up all chores. -/
def giveUp (chores : Chores ρ) (world : World) : World :=
  (Standing.points chores).foldl (fun world chore => chore.cancel world) world

/-- Does chores until all are done, or until the given time. -/
def playUntil (limit : Instant) : Nat → Chores ρ → World → World × Option (List ρ)
  | 0, chores, world => (giveUp chores world, none)
  | rounds + 1, chores, world =>
    let (world, chores, polled) := pollAll chores world
    match Standing.results? chores with
    | some results => (world, some results)
    | none =>
      let (world, moved) := world.settle
      if polled || moved then playUntil limit rounds chores world
      else
        match grantFiles chores world with
        | some (world, chores) => playUntil limit rounds chores world
        | none =>
          let (world, moved) := world.grantBackground
          if moved then playUntil limit rounds chores world
          else
            match (nextTime? chores world).filter (· < limit) with
            | some time => playUntil limit rounds chores { world with now := max time world.now }
            | none => (giveUp chores { world with now := limit }, none)

/-- Lets every task of a world go on until none can, without moving the clock. -/
def World.rest : Nat → World → World
  | 0, world => world
  | rounds + 1, world =>
    let (world, moved) := world.settle
    if moved then rest rounds world
    else
      let (world, moved) := world.grantBackground
      if moved then rest rounds world else world

/-- Does chores all at once, and then lets the world come to rest. There are no results if the
    run was given up. -/
def play (chores : List (Chore ρ)) (world : World) : World × Option (List ρ) :=
  let (world, results) :=
    playUntil (world.now + runLimit) maxRounds (chores.map .waiting) world
  (world.rest maxRounds, results)

end SymbolSearch.Lab
