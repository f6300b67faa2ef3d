import SymbolSearch.Monitor.Launching
import SymbolSearch.Time.Duration

/-!
# Keeping the proxy alive

* `ProbePoint.step` asks the proxy about its health; `WatchPoint.step` waits for a process to
  exit. Both take a failure to the restart gate.
* `RoundsPoint.step` asks again and again, until the monitor has given up.
* `ForcePoint.step` launches a proxy anew whatever the gate says.
* `Upkeep.stop` kills the process of the monitor.
* `Keeper` is a monitor with its own tasks: the watches of the processes that it has launched and
  the repeated questions. `Keeper.stepTask` is one step of a task.
* `KeeperCall` is an operation of the monitor, wherever it stands.
-/

namespace SymbolSearch

/-! ### Watching the proxy -/

variable {ε : Type}

/-- What asking the proxy about its health led to. -/
inductive ProbeOutcome where
  | healthy
  | restarted
  /-- The failure came within the cooldown of a restart. -/
  | absorbed (remaining : Duration)
  deriving DecidableEq, Repr

/-- The result of asking the proxy about its health. -/
abbrev Probed := Except MonitorError ProbeOutcome

/-- What a failure of the proxy leads to: a launch of another one, or the result at once. -/
def Upkeep.noticeFailure (env : Surroundings ε) (now : Instant) (upkeep : Upkeep ε) :
    Stepped (Upkeep ε) RelaunchPoint Probed :=
  let (decision, gate) := upkeep.monitor.gate.acquire now
  let upkeep := upkeep.update fun monitor =>
    { monitor with readyUntil := none, running := false, gate }
  match decision with
  | .coolingDown remaining => (upkeep, .finished (.ok (.absorbed remaining)))
  | .exhausted =>
    (upkeep.update fun monitor => { monitor with permanentlyFailed := true },
      .finished (.error (.permanentlyFailed gate.restarts)))
  | .allowed _ =>
    let (upkeep, relaunch) := RelaunchPoint.start env now upkeep
    (upkeep, .moved relaunch)

/-- The result of a restart, once the launch has a result. -/
def restartResult : Launched → Probed := Except.map fun _ => .restarted

/-! ### Asking -/

/-- Where it stands that the proxy is asked about its health. -/
inductive ProbePoint where
  | starting
  | asking
  | recovering (relaunch : RelaunchPoint)

namespace ProbePoint

/-- One step of asking the proxy about its health, at a time of the wall clock in milliseconds. -/
def step (env : Surroundings ε) (now : Instant) (wall : Nat) (point : ProbePoint)
    (upkeep : Upkeep ε) : Stepped (Upkeep ε) ProbePoint Probed :=
  match point with
  | .starting =>
    match upkeep.monitor.failure? with
    | some error => (upkeep, .finished (.error error))
    | none => (upkeep, .moved .asking)
  | .asking =>
    let (isHealthy, upkeep) := upkeep.probe env
    let upkeep := upkeep.update fun monitor => monitor.recordCheck wall isHealthy
    if isHealthy then
      (upkeep.update fun monitor => monitor.markReady now, .finished (.ok .healthy))
    else (upkeep.noticeFailure env now).map .recovering id
  | .recovering relaunch => (relaunch.step env now upkeep).map .recovering restartResult

/-- The time at which it goes on by itself. -/
def deadline? : ProbePoint → Option Instant
  | .recovering relaunch => relaunch.deadline?
  | _ => none

/-- Gives it up where it stands. -/
def cancel (point : ProbePoint) (upkeep : Upkeep ε) : Upkeep ε :=
  match point with
  | .recovering relaunch => relaunch.cancel upkeep
  | _ => upkeep

end ProbePoint

/-! ### Waiting for a process to exit -/

/-- Where the watch of a process stands. -/
inductive WatchPoint where
  | watching (child : Child)
  | recovering (relaunch : RelaunchPoint)

namespace WatchPoint

/-- One step of the watch of a process. The exit of a process that the monitor has given up is no
    failure. -/
def step (env : Surroundings ε) (now : Instant) (point : WatchPoint) (upkeep : Upkeep ε) :
    Stepped (Upkeep ε) WatchPoint Unit :=
  match point with
  | .watching child =>
    if env.hasExited child.process upkeep.around then
      if upkeep.monitor.isCurrent child.generation then
        (upkeep.noticeFailure env now).map .recovering fun _ => ()
      else (upkeep, .finished ())
    else (upkeep, .blocked)
  | .recovering relaunch => (relaunch.step env now upkeep).map .recovering fun _ => ()

/-- The time at which the watch goes on by itself. -/
def deadline? : WatchPoint → Option Instant
  | .watching _ => none
  | .recovering relaunch => relaunch.deadline?

end WatchPoint

/-! ### Asking again and again -/

/-- Where the repeated questions stand. -/
inductive RoundsPoint where
  | resting (resume : Instant)
  | probing (probe : ProbePoint) (next : Instant)

namespace RoundsPoint

/-- The beginning of repeated questions. There are none without time between them. -/
def start? (interval : Duration) (now : Instant) : Option RoundsPoint :=
  if interval = 0 then none else some (.resting (now + interval))

/-- One step of the repeated questions, which end when the monitor has given up. -/
def step (env : Surroundings ε) (now : Instant) (wall : Nat) (point : RoundsPoint)
    (upkeep : Upkeep ε) : Stepped (Upkeep ε) RoundsPoint Unit :=
  match point with
  | .resting resume =>
    if resume ≤ now then
      (upkeep, .moved
        (.probing .starting (nextTick upkeep.monitor.settings.probeInterval resume now)))
    else (upkeep, .blocked)
  | .probing probe next =>
    match probe.step env now wall upkeep with
    | (upkeep, .blocked) => (upkeep, .blocked)
    | (upkeep, .moved probe) => (upkeep, .moved (.probing probe next))
    | (upkeep, .finished (.error (.permanentlyFailed _))) => (upkeep, .finished ())
    | (upkeep, .finished _) => (upkeep, .moved (.resting next))

/-- The time at which the repeated questions go on by themselves. -/
def deadline? : RoundsPoint → Option Instant
  | .resting resume => some resume
  | .probing probe _ => probe.deadline?

/-- Gives up the question under way. -/
def cancel (point : RoundsPoint) (upkeep : Upkeep ε) : Upkeep ε :=
  match point with
  | .resting _ => upkeep
  | .probing probe _ => probe.cancel upkeep

end RoundsPoint

/-! ### Forcing -/

/-- Where a forced launch stands. -/
inductive ForcePoint where
  | starting
  | launching (relaunch : RelaunchPoint)

namespace ForcePoint

/-- One step of a forced launch. It clears the budget of restarts and a permanent failure. -/
def step (env : Surroundings ε) (now : Instant) (point : ForcePoint) (upkeep : Upkeep ε) :
    Stepped (Upkeep ε) ForcePoint Launched :=
  match point with
  | .starting =>
    let (upkeep, relaunch) := RelaunchPoint.start env now (upkeep.update fun monitor =>
      { monitor with gate := monitor.gate.force now, permanentlyFailed := false })
    (upkeep, .moved (.launching relaunch))
  | .launching relaunch => (relaunch.step env now upkeep).map .launching id

/-- The time at which a forced launch goes on by itself. -/
def deadline? : ForcePoint → Option Instant
  | .starting => none
  | .launching relaunch => relaunch.deadline?

/-- Gives up a forced launch where it stands. -/
def cancel (point : ForcePoint) (upkeep : Upkeep ε) : Upkeep ε :=
  match point with
  | .starting => upkeep
  | .launching relaunch => relaunch.cancel upkeep

end ForcePoint

/-- Kills the process of the monitor, whose exit is no failure then. -/
def Upkeep.stop (env : Surroundings ε) (upkeep : Upkeep ε) : Upkeep ε :=
  ((upkeep.update Monitor.forgetReadiness).killChild env).2

end SymbolSearch

namespace SymbolSearch

/-! ### A monitor with its own tasks -/

/-- A monitor with its own tasks. -/
structure Keeper (ε : Type) where
  upkeep : Upkeep ε
  /-- The watches of all processes that were launched. -/
  watches : List (Standing WatchPoint Unit) := []
  /-- The repeated questions, if there are any. -/
  rounds : Option RoundsPoint := none

/-- A task of a monitor. -/
inductive KeeperTask where
  | watch (index : Nat)
  | rounds
  deriving DecidableEq, Repr

namespace Keeper

variable {ε : Type}

/-- The monitor. -/
def monitor (keeper : Keeper ε) : Monitor := keeper.upkeep.monitor

/-- What is around the monitor. -/
def around (keeper : Keeper ε) : ε := keeper.upkeep.around

/-- Changes what is around the monitor. -/
def updateAround (change : ε → ε) (keeper : Keeper ε) : Keeper ε :=
  { keeper with upkeep := { keeper.upkeep with around := change keeper.upkeep.around } }

/-- The keeper after a change of the monitor. A process that was launched is watched from then
    on. -/
def withUpkeep (keeper : Keeper ε) (upkeep : Upkeep ε) : Keeper ε :=
  if keeper.monitor.generation < upkeep.monitor.generation then
    { keeper with
      upkeep
      watches := keeper.watches ++ upkeep.monitor.child.toList.map fun child =>
        .waiting (.watching child) }
  else { keeper with upkeep }

/-- The keeper after a step of the monitor, and what the step came to. -/
def withStep {π ρ : Type} (keeper : Keeper ε) (stepped : Stepped (Upkeep ε) π ρ) :
    Stepped (Keeper ε) π ρ :=
  (keeper.withUpkeep stepped.1, stepped.2)

/-- Gives up the repeated questions. -/
def stopRounds (keeper : Keeper ε) : Keeper ε :=
  match keeper.rounds with
  | none => keeper
  | some rounds => { keeper with upkeep := rounds.cancel keeper.upkeep, rounds := none }

/-- Begins to ask the proxy about its health again and again. -/
def startRounds (now : Instant) (keeper : Keeper ε) : Keeper ε :=
  { keeper.stopRounds with
    rounds := RoundsPoint.start? keeper.monitor.settings.probeInterval now }

/-- Stops the repeated questions and the process of the monitor. -/
def stop (env : Surroundings ε) (keeper : Keeper ε) : Keeper ε :=
  let keeper := keeper.stopRounds
  { keeper with upkeep := keeper.upkeep.stop env }

/-- All tasks there are. -/
def tasks (keeper : Keeper ε) : List KeeperTask :=
  (List.range keeper.watches.length).map .watch ++ [.rounds]

/-- One step of a task, at a time of the wall clock in milliseconds. The second part says whether
    it moved. -/
def stepTask (env : Surroundings ε) (now : Instant) (wall : Nat) (task : KeeperTask)
    (keeper : Keeper ε) : Keeper ε × Bool :=
  match task with
  | .watch i =>
    match keeper.watches[i]? with
    | some (.waiting point) =>
      let setWatch (keeper : Keeper ε) (standing : Standing WatchPoint Unit) : Keeper ε :=
        { keeper with watches := keeper.watches.set i standing }
      match keeper.withStep (point.step env now keeper.upkeep) with
      | (_, .blocked) => (keeper, false)
      | (keeper, .moved point) => (setWatch keeper (.waiting point), true)
      | (keeper, .finished ()) => (setWatch keeper (.ended ()), true)
    | _ => (keeper, false)
  | .rounds =>
    match keeper.rounds with
    | none => (keeper, false)
    | some point =>
      match keeper.withStep (point.step env now wall keeper.upkeep) with
      | (_, .blocked) => (keeper, false)
      | (keeper, .moved point) => ({ keeper with rounds := some point }, true)
      | (keeper, .finished ()) => ({ keeper with rounds := none }, true)

/-- The next time at which a task goes on by itself. -/
def deadline? (keeper : Keeper ε) : Option Instant :=
  earliest? (keeper.rounds.bind RoundsPoint.deadline?
    :: (Standing.points keeper.watches).map WatchPoint.deadline?)

end Keeper

/-! ### Operations -/

/-- An operation of a monitor, wherever it stands. -/
inductive KeeperCall where
  | ensuring (point : DemandPoint)
  | forcing (point : ForcePoint)
  | probing (point : ProbePoint)

/-- The result of an operation of a monitor. -/
inductive KeeperReply where
  | launched (result : Launched)
  | probed (result : Probed)

namespace KeeperCall

variable {ε : Type}

/-- One step of an operation, at a time of the wall clock in milliseconds. -/
def step (env : Surroundings ε) (now : Instant) (wall : Nat) (call : KeeperCall)
    (keeper : Keeper ε) : Stepped (Keeper ε) KeeperCall KeeperReply :=
  match call with
  | .ensuring point =>
    (keeper.withStep (point.step env now keeper.upkeep)).map .ensuring .launched
  | .forcing point =>
    (keeper.withStep (point.step env now keeper.upkeep)).map .forcing .launched
  | .probing point =>
    (keeper.withStep (point.step env now wall keeper.upkeep)).map .probing .probed

/-- The time at which an operation goes on by itself. -/
def deadline? : KeeperCall → Option Instant
  | .ensuring point => point.deadline?
  | .forcing point => point.deadline?
  | .probing point => point.deadline?

/-- Gives an operation up where it stands. -/
def cancel (call : KeeperCall) (keeper : Keeper ε) : Keeper ε :=
  { keeper with
    upkeep :=
      match call with
      | .ensuring point => point.cancel keeper.upkeep
      | .forcing point => point.cancel keeper.upkeep
      | .probing point => point.cancel keeper.upkeep }

end KeeperCall

end SymbolSearch
