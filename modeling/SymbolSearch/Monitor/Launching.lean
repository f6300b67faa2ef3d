import SymbolSearch.Api.Payload
import SymbolSearch.Monitor.Gate
import SymbolSearch.Settings
import SymbolSearch.Sync.Progress
import SymbolSearch.Sync.Turns

/-!
# The monitor

The monitor keeps one proxy alive: it launches the proxy on demand, watches its process and asks
it about its health.

* `Surroundings` is what a monitor does to the processes around it.
* `Monitor` is what the operations of a monitor share.
* `MonitorStatus` is the report of a monitor.
* `LaunchPoint.step` launches a proxy and waits until it says that it is ready. A proxy that takes
  too long is killed.
* `RelaunchPoint.step` gets rid of the proxy there is, and launches another one. A proxy that the
  monitor has launched is killed, and any other one is asked to stop.
* `DemandPoint.step` launches a proxy only if there is none that is ready.
-/

namespace SymbolSearch

/-- Why a proxy is not running. -/
inductive MonitorError where
  | spawnFailed (reason : String)
  | startupTimeout (limit : Duration)
  | permanentlyFailed (restarts : Nat)
  deriving DecidableEq, Repr

namespace MonitorError

/-- The name of an error. -/
def kind : MonitorError → String
  | .spawnFailed _ => "Spawn"
  | .startupTimeout _ => "StartupTimeout"
  | .permanentlyFailed _ => "PermanentlyFailed"

/-- The message of an error. -/
def message : MonitorError → String
  | .spawnFailed reason => "failed to launch proxy: " ++ reason
  | .startupTimeout limit => "proxy did not become ready within " ++ limit.text
  | .permanentlyFailed restarts =>
    "proxy permanently failed after " ++ toString restarts
      ++ " restart(s); run `codescout restart` to recover"

end MonitorError

/-- What a process is known by. -/
abbrev ProcessId := Nat

/-- What a monitor does to the processes around it, whose state is an `ε`. -/
structure Surroundings (ε : Type) where
  /-- Whether a proxy says that it is ready. -/
  probe : ε → Bool × ε
  /-- Launches a proxy; an error is why that failed. -/
  spawn : Instant → ε → Except String ProcessId × ε
  /-- Asks whatever proxy there is to stop. -/
  shutdown : ε → ε
  kill : ProcessId → ε → ε
  hasExited : ProcessId → ε → Bool

/-- A process that a monitor has launched and not given up. -/
structure Child where
  /-- How many launches there were up to that of the process. -/
  generation : Nat
  process : ProcessId
  deriving DecidableEq, Repr

/-- What the operations of a monitor share. -/
structure Monitor where
  settings : MonitorSettings := {}
  gate : RestartGate := ⟨settings.restartBudget, settings.restartCooldown, 0, none⟩
  /-- The turns of those who want to launch a proxy. -/
  turns : Turns := {}
  /-- Until when the proxy is taken to be ready without being asked. -/
  readyUntil : Option Instant := none
  running : Bool := false
  permanentlyFailed : Bool := false
  lastCheck : Option Api.HealthRecord := none
  /-- The number of launches. -/
  generation : Nat := 0
  child : Option Child := none

/-- The report of a monitor. -/
structure MonitorStatus where
  running : Bool
  restarts : Nat
  permanentlyFailed : Bool
  lastCheck : Option Api.HealthRecord

/-- A report as JSON. -/
def MonitorStatus.toJson (status : MonitorStatus) : Json :=
  .ofFields [("running", .bool status.running), ("restarts", .nat status.restarts),
    ("permanentlyFailed", .bool status.permanentlyFailed),
    ("lastHealthCheck", Api.HealthRecord.toJsonOrNull status.lastCheck)]

namespace Monitor

/-- A monitor that has launched nothing yet. -/
def ofSettings (settings : MonitorSettings) : Monitor := { settings }

/-- The report of a monitor. -/
def status (monitor : Monitor) : MonitorStatus :=
  ⟨monitor.running, monitor.gate.restarts, monitor.permanentlyFailed, monitor.lastCheck⟩

/-- The error of a monitor that has given up. -/
def failure? (monitor : Monitor) : Option MonitorError :=
  if monitor.permanentlyFailed then some (.permanentlyFailed monitor.gate.restarts) else none

/-- Whether the proxy is taken to be ready without being asked. -/
def isReady (monitor : Monitor) (now : Instant) : Bool := monitor.readyUntil.any (now < ·)

/-- The proxy has said that it is ready. -/
def markReady (monitor : Monitor) (now : Instant) : Monitor :=
  { monitor with readyUntil := some (now + monitor.settings.readinessTtl), running := true }

/-- Nothing is known of the proxy any longer. -/
def forgetReadiness (monitor : Monitor) : Monitor := { monitor with readyUntil := none }

/-- A process was launched. -/
def adopt (monitor : Monitor) (process : ProcessId) : Monitor :=
  { monitor with
    generation := monitor.generation + 1
    child := some ⟨monitor.generation + 1, process⟩ }

/-- Whether the process of a generation is the one that the monitor looks after. -/
def isCurrent (monitor : Monitor) (generation : Nat) : Bool :=
  monitor.child.any (·.generation = generation)

/-- The monitor looks after its process no longer: the exit of that process is no failure. -/
def retire (monitor : Monitor) : Monitor := { monitor with running := false, child := none }

/-- Takes down what an answer about health says, at a time of the wall clock in milliseconds. -/
def recordCheck (monitor : Monitor) (wall : Nat) (isHealthy : Bool) : Monitor :=
  { monitor with
    lastCheck := some ⟨UInt64.ofNat wall, isHealthy,
      if isHealthy then none else some "health probe failed"⟩ }

end Monitor

/-! ### Launching the proxy -/

/-- How long the monitor waits before it asks a proxy again whether it is ready. -/
def readyPoll : Duration := .ofMillis 100

/-- A monitor with what is around it. -/
structure Upkeep (ε : Type) where
  monitor : Monitor := {}
  around : ε

variable {ε : Type}

namespace Upkeep

/-- Changes the monitor. -/
def update (change : Monitor → Monitor) (upkeep : Upkeep ε) : Upkeep ε :=
  { upkeep with monitor := change upkeep.monitor }

/-- Asks whether a proxy is ready. -/
def probe (env : Surroundings ε) (upkeep : Upkeep ε) : Bool × Upkeep ε :=
  let (isReady, around) := env.probe upkeep.around
  (isReady, { upkeep with around })

/-- Kills the process of the monitor, if it has one. The first part says whether it had. -/
def killChild (env : Surroundings ε) (upkeep : Upkeep ε) : Bool × Upkeep ε :=
  let retired := upkeep.update Monitor.retire
  match upkeep.monitor.child with
  | some child => (true, { retired with around := env.kill child.process upkeep.around })
  | none => (false, retired)

/-- Gives up the turn to launch a proxy. -/
def leave (ticket : Ticket) : Upkeep ε → Upkeep ε :=
  update fun monitor => { monitor with turns := monitor.turns.leave ticket }

/-- Asks for the turn to launch a proxy. -/
def join (upkeep : Upkeep ε) : Ticket × Upkeep ε :=
  let (ticket, turns) := upkeep.monitor.turns.join
  (ticket, upkeep.update fun monitor => { monitor with turns })

end Upkeep

/-- The result of an operation that makes a proxy run. -/
abbrev Launched := Except MonitorError Unit

/-- Whether the time to go on has come. -/
def isDue (resume : Option Instant) (now : Instant) : Bool := resume.all (· ≤ now)

/-! ### Launching -/

/-- Where a launch stands. Only who has the turn launches. -/
inductive LaunchPoint where
  | spawning
  /-- The proxy is asked whether it is ready, at once or from a time on. -/
  | waiting (generation : Nat) (deadline : Instant) (resume : Option Instant)

namespace LaunchPoint

/-- One step of a launch. -/
def step (env : Surroundings ε) (now : Instant) (point : LaunchPoint) (upkeep : Upkeep ε) :
    Stepped (Upkeep ε) LaunchPoint Launched :=
  let limit := upkeep.monitor.settings.startupTimeout
  match point with
  | .spawning =>
    match env.spawn now upkeep.around with
    | (.error reason, around) =>
      ({ upkeep with around }, .finished (.error (.spawnFailed reason)))
    | (.ok process, around) =>
      let upkeep := { upkeep with around }.update fun monitor => monitor.adopt process
      (upkeep, .moved (.waiting upkeep.monitor.generation (now + limit) none))
  | .waiting generation deadline resume =>
    if isDue resume now then
      match upkeep.probe env with
      | (true, upkeep) =>
        (upkeep.update fun monitor => monitor.markReady now, .finished (.ok ()))
      | (false, upkeep) => (upkeep, .moved (.waiting generation deadline (some (now + readyPoll))))
    else if deadline ≤ now then
      let upkeep :=
        if upkeep.monitor.isCurrent generation then (upkeep.killChild env).2 else upkeep
      (upkeep, .finished (.error (.startupTimeout limit)))
    else (upkeep, .blocked)

/-- The time at which a launch goes on by itself. -/
def deadline? : LaunchPoint → Option Instant
  | .spawning => none
  | .waiting _ deadline resume => earlier? (some deadline) resume

end LaunchPoint

/-! ### Launching anew -/

/-- Where a launch of another proxy stands. -/
inductive RelaunchPoint where
  | queued (ticket : Ticket)
  /-- A proxy that the monitor has not launched is asked to stop. -/
  | dismissing (ticket : Ticket)
  /-- The proxy there was is asked whether it still answers, at once or from a time on. -/
  | stopping (ticket : Ticket) (deadline : Instant) (resume : Option Instant)
  | launching (ticket : Ticket) (launch : LaunchPoint)

namespace RelaunchPoint

/-- The proxy there was is on its way to stop, and may take some time for it. -/
def awaitStop (now : Instant) (ticket : Ticket) (upkeep : Upkeep ε) : RelaunchPoint :=
  .stopping ticket (now + upkeep.monitor.settings.startupTimeout) none

/-- What the one does whose turn it is. -/
def takeTurn (env : Surroundings ε) (now : Instant) (ticket : Ticket) (upkeep : Upkeep ε) :
    Upkeep ε × RelaunchPoint :=
  match (upkeep.update Monitor.forgetReadiness).killChild env with
  | (true, upkeep) => (upkeep, awaitStop now ticket upkeep)
  | (false, upkeep) => (upkeep, .dismissing ticket)

/-- The beginning of a launch of another proxy. Who need not wait for the turn goes on at once. -/
def start (env : Surroundings ε) (now : Instant) (upkeep : Upkeep ε) : Upkeep ε × RelaunchPoint :=
  let (ticket, upkeep) := upkeep.join
  if upkeep.monitor.turns.holds ticket then takeTurn env now ticket upkeep
  else (upkeep, .queued ticket)

/-- One step of a launch of another proxy. -/
def step (env : Surroundings ε) (now : Instant) (point : RelaunchPoint) (upkeep : Upkeep ε) :
    Stepped (Upkeep ε) RelaunchPoint Launched :=
  match point with
  | .queued ticket =>
    if upkeep.monitor.turns.holds ticket then
      let (upkeep, point) := takeTurn env now ticket upkeep
      (upkeep, .moved point)
    else (upkeep, .blocked)
  | .dismissing ticket =>
    let upkeep := { upkeep with around := env.shutdown upkeep.around }
    (upkeep, .moved (awaitStop now ticket upkeep))
  | .stopping ticket deadline resume =>
    if isDue resume now then
      match upkeep.probe env with
      | (false, upkeep) => (upkeep, .moved (.launching ticket .spawning))
      | (true, upkeep) =>
        -- A proxy that goes on answering does not keep the monitor from launching another one.
        if deadline ≤ now then (upkeep, .moved (.launching ticket .spawning))
        else (upkeep, .moved (.stopping ticket deadline (some (now + readyPoll))))
    else (upkeep, .blocked)
  | .launching ticket launch =>
    match launch.step env now upkeep with
    | (upkeep, .blocked) => (upkeep, .blocked)
    | (upkeep, .moved launch) => (upkeep, .moved (.launching ticket launch))
    | (upkeep, .finished result) => (upkeep.leave ticket, .finished result)

/-- The time at which a launch of another proxy goes on by itself. -/
def deadline? : RelaunchPoint → Option Instant
  | .stopping _ _ resume => resume
  | .launching _ launch => launch.deadline?
  | _ => none

/-- The turn that a launch of another proxy has or waits for. -/
def ticket : RelaunchPoint → Ticket
  | .queued ticket => ticket
  | .dismissing ticket => ticket
  | .stopping ticket _ _ => ticket
  | .launching ticket _ => ticket

/-- Gives up a launch where it stands. -/
def cancel (point : RelaunchPoint) (upkeep : Upkeep ε) : Upkeep ε := upkeep.leave point.ticket

end RelaunchPoint

/-! ### Launching if need be -/

/-- Where it stands that a proxy is launched if there is none. -/
inductive DemandPoint where
  | starting
  | queued (ticket : Ticket)
  /-- The proxy is asked whether it is ready. -/
  | asking (ticket : Ticket)
  | launching (ticket : Ticket) (launch : LaunchPoint)

namespace DemandPoint

/-- The result that can be told without asking the proxy, if there is any. -/
def known? (now : Instant) (monitor : Monitor) : Option Launched :=
  match monitor.failure? with
  | some error => some (.error error)
  | none => if monitor.isReady now then some (.ok ()) else none

/-- What the one does whose turn it is. What is known is looked at again, since another one may have
    launched a proxy in the meantime. -/
def takeTurn (now : Instant) (ticket : Ticket) (upkeep : Upkeep ε) :
    Stepped (Upkeep ε) DemandPoint Launched :=
  match known? now upkeep.monitor with
  | some result => (upkeep.leave ticket, .finished result)
  | none => (upkeep, .moved (.asking ticket))

/-- One step of launching a proxy if need be. Who need not wait for the turn goes on at once. -/
def step (env : Surroundings ε) (now : Instant) (point : DemandPoint) (upkeep : Upkeep ε) :
    Stepped (Upkeep ε) DemandPoint Launched :=
  match point with
  | .starting =>
    match known? now upkeep.monitor with
    | some result => (upkeep, .finished result)
    | none =>
      let (ticket, upkeep) := upkeep.join
      if upkeep.monitor.turns.holds ticket then takeTurn now ticket upkeep
      else (upkeep, .moved (.queued ticket))
  | .queued ticket =>
    if upkeep.monitor.turns.holds ticket then takeTurn now ticket upkeep else (upkeep, .blocked)
  | .asking ticket =>
    match upkeep.probe env with
    | (true, upkeep) =>
      ((upkeep.update fun monitor => monitor.markReady now).leave ticket, .finished (.ok ()))
    | (false, upkeep) => (upkeep, .moved (.launching ticket .spawning))
  | .launching ticket launch =>
    match launch.step env now upkeep with
    | (upkeep, .blocked) => (upkeep, .blocked)
    | (upkeep, .moved launch) => (upkeep, .moved (.launching ticket launch))
    | (upkeep, .finished result) => (upkeep.leave ticket, .finished result)

/-- The time at which it goes on by itself. -/
def deadline? : DemandPoint → Option Instant
  | .launching _ launch => launch.deadline?
  | _ => none

/-- Gives it up where it stands. -/
def cancel (point : DemandPoint) (upkeep : Upkeep ε) : Upkeep ε :=
  match point with
  | .starting => upkeep
  | .queued ticket => upkeep.leave ticket
  | .asking ticket => upkeep.leave ticket
  | .launching ticket _ => upkeep.leave ticket

end DemandPoint

end SymbolSearch
