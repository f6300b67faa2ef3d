import SymbolSearch.Monitor.Keeping

/-!
# Scripted processes

* `Birth` is what becomes of a launch, and `Spawner` the processes that were launched after a plan.
* `Spawner.surroundings` is what a monitor does to them.
* `Post` is a monitor among scripted processes, and `Hand` a task that goes on by itself there.
-/

namespace SymbolSearch.Lab

/-- What becomes of a launch. -/
inductive Birth where
  /-- The process answers at once. -/
  | answers
  | fails (reason : String)
  /-- The process never answers. -/
  | silent
  /-- The process answers after some time, unless it has ended. -/
  | answersAfter (length : Duration)
  /-- The process answers at once, and exits after some time. -/
  | exitsAfter (length : Duration)
  /-- The process never answers, and exits after some time. -/
  | silentUntil (length : Duration)

/-- A launched process. -/
structure Offspring where
  process : ProcessId
  /-- When the process begins to answer, if it has not yet. -/
  answersAt : Option Instant := none
  exitsAt : Option Instant := none
  isKilled : Bool := false
  isCrashed : Bool := false
  hasEnded : Bool := false

/-- Who answers for the proxy. -/
inductive Answerer where
  | process (id : ProcessId)
  /-- A proxy that the monitor has not launched. -/
  | outsider
  deriving DecidableEq

/-- The processes that were launched after a plan. -/
structure Spawner where
  /-- What becomes of the next launches. -/
  plan : List Birth := []
  /-- What becomes of launches after the plan. -/
  afterPlan : Birth := .answers
  /-- Whether a killed process goes on answering. -/
  isStubborn : Bool := false
  /-- Whether the proxy stops when it is asked to. -/
  obeysShutdown : Bool := false
  answering : Option Answerer := none
  /-- How many of the next questions go unanswered. -/
  failures : Nat := 0
  spawns : Nat := 0
  shutdowns : Nat := 0
  probes : Nat := 0
  offspring : List Offspring := []

namespace Spawner

/-- Whether a proxy answers. A question that goes unanswered uses up a failure. -/
def probe (spawner : Spawner) : Bool × Spawner :=
  let asked := { spawner with probes := spawner.probes + 1 }
  match spawner.failures with
  | failures + 1 => (false, { asked with failures })
  | 0 => (spawner.answering.isSome, asked)

/-- Launches a process. -/
def spawn (now : Instant) (spawner : Spawner) : Except String ProcessId × Spawner :=
  let process := spawner.spawns + 1
  let counted := { spawner with spawns := process, plan := spawner.plan.tail }
  let live (child : Offspring) (isAnswering : Bool) : Except String ProcessId × Spawner :=
    (.ok process, { counted with
      offspring := spawner.offspring ++ [child]
      answering := if isAnswering then some (.process process) else spawner.answering })
  match spawner.plan.headD spawner.afterPlan with
  | .fails reason => (.error reason, counted)
  | .answers => live { process } true
  | .silent => live { process } false
  | .answersAfter length => live { process, answersAt := some (now + length) } false
  | .exitsAfter length => live { process, exitsAt := some (now + length) } true
  | .silentUntil length => live { process, exitsAt := some (now + length) } false

/-- Asks the proxy to stop. -/
def shutdown (spawner : Spawner) : Spawner :=
  { spawner with
    shutdowns := spawner.shutdowns + 1
    answering := if spawner.obeysShutdown then none else spawner.answering }

/-- Changes a process. -/
def updateOffspring (spawner : Spawner) (process : ProcessId) (change : Offspring → Offspring) :
    Spawner :=
  { spawner with
    offspring := spawner.offspring.map fun child =>
      if child.process = process then change child else child }

/-- What a monitor does to the processes. -/
def surroundings : Surroundings Spawner where
  probe := probe
  spawn := spawn
  shutdown := shutdown
  kill process spawner :=
    spawner.updateOffspring process fun child => { child with isKilled := true }
  hasExited process spawner :=
    spawner.offspring.any fun child => child.process = process && child.hasEnded

/-! ### The life of a process -/

/-- Whether a process ends now. -/
def isEnding (now : Instant) (child : Offspring) : Bool :=
  !child.hasEnded && (child.isKilled || child.isCrashed || child.exitsAt.any (· ≤ now))

/-- Whether a process begins to answer now. -/
def isWaking (now : Instant) (child : Offspring) : Bool := child.answersAt.any (· ≤ now)

/-- A process ends. It answers no longer, unless it is stubborn and was killed. -/
def finish (child : Offspring) (spawner : Spawner) : Spawner :=
  let ended := spawner.updateOffspring child.process fun child => { child with hasEnded := true }
  if spawner.answering = some (.process child.process)
      && !(child.isKilled && spawner.isStubborn) then { ended with answering := none }
  else ended

/-- A process begins to answer, unless it has ended. -/
def wake (child : Offspring) (spawner : Spawner) : Spawner :=
  let woken := spawner.updateOffspring child.process fun child => { child with answersAt := none }
  if child.hasEnded then woken else { woken with answering := some (.process child.process) }

/-- The newest process that was not told to crash yet is told to. The first part is false if it
    has ended, or if there is none. -/
def crash (spawner : Spawner) : Bool × Spawner :=
  match (spawner.offspring.filter fun child => !child.isCrashed).getLast? with
  | none => (false, spawner)
  | some child =>
    (!child.hasEnded,
      spawner.updateOffspring child.process fun child => { child with isCrashed := true })

/-- Makes a proxy answer that was not launched, if none answers; or makes none answer. -/
def setAnswering (isAnswering : Bool) (spawner : Spawner) : Spawner :=
  { spawner with
    answering := if isAnswering then some (spawner.answering.getD .outsider) else none }

/-- The time at which a process goes on by itself. -/
def deadline? (spawner : Spawner) : Option Instant :=
  earliest? (spawner.offspring.map fun child =>
    earlier? child.answersAt (if child.hasEnded then none else child.exitsAt))

end Spawner

/-! ### Posts -/

/-- A monitor among scripted processes. -/
abbrev Post := Keeper Spawner

/-- A task of a monitor or of a scripted process. -/
inductive Hand where
  | ending (index : Nat)
  | waking (index : Nat)
  | keeping (task : KeeperTask)
  deriving DecidableEq

namespace Post

/-- All tasks there are. -/
def hands (post : Post) : List Hand :=
  (List.range post.around.offspring.length).flatMap (fun i => [.waking i, .ending i])
    ++ post.tasks.map .keeping

/-- One step of a task. The second part says whether it moved. -/
def stepHand (now : Instant) (wall : Nat) (hand : Hand) (post : Post) : Post × Bool :=
  match hand with
  | .ending i =>
    match post.around.offspring[i]? with
    | some child =>
      if Spawner.isEnding now child then (post.updateAround (Spawner.finish child), true)
      else (post, false)
    | none => (post, false)
  | .waking i =>
    match post.around.offspring[i]? with
    | some child =>
      if Spawner.isWaking now child then (post.updateAround (Spawner.wake child), true)
      else (post, false)
    | none => (post, false)
  | .keeping task => post.stepTask Spawner.surroundings now wall task

/-- A task goes on until it has to wait. -/
def runHand (now : Instant) (wall : Nat) (hand : Hand) : Nat → Post → Post
  | 0, post => post
  | fuel + 1, post =>
    match stepHand now wall hand post with
    | (post, true) => runHand now wall hand fuel post
    | (post, false) => post

/-- The next time at which a task goes on by itself. -/
def deadlineOf (post : Post) : Option Instant :=
  earlier? post.around.deadline? post.deadline?

end Post
end SymbolSearch.Lab
