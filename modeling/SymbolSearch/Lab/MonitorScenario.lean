import SymbolSearch.Lab.Given
import SymbolSearch.Lab.Transcript

/-!
# Scenarios of a monitor

* `MonitorScenario.run` plays a scenario with a monitor among scripted processes and writes down,
  after each step, its result, the report of the monitor and what was asked of the processes.
-/

namespace SymbolSearch.Lab.MonitorScenario

/-- What becomes of a launch. -/
def birthOf (json : Json) : Birth :=
  match json with
  | .string "fail" => .fails "no such program"
  | .string "dead" => .silent
  | _ =>
    match json.getNat? "slow", json.getNat? "dies" with
    | some length, _ => .answersAfter (.ofMillis length)
    | _, some length => .exitsAfter (.ofMillis length)
    | _, _ => .answers

/-- How an error of the monitor is written down. -/
def errorJson (error : MonitorError) : Json := .failureWith error.kind error.message

/-- How the result of a launch is written down. -/
def launchedJson : Launched → Json
  | .ok () => .success .null
  | .error error => errorJson error

/-- How the result of asking the proxy about its health is written down. -/
def probedJson (absorbed : Duration → Json) : Probed → Json
  | .ok .healthy => .success (.string "healthy")
  | .ok .restarted => .success (.string "restarted")
  | .ok (.absorbed remaining) => .success (absorbed remaining)
  | .error error => errorJson error

/-- How the result of an operation of the monitor is written down. -/
def replyJson (absorbed : Duration → Json) : KeeperReply → Json
  | .launched result => launchedJson result
  | .probed result => probedJson absorbed result

/-- An operation of the monitor. -/
def operation (absorbed : Duration → Json) (call : KeeperCall) : Chore Json :=
  .keeping call fun reply world => (world, replyJson absorbed reply)

/-- Changes the monitor and its processes. -/
def changingPost (change : Instant → Post → Post) (result : Json) : Chore Json :=
  changing (fun world => { world with post := change world.now world.post }) result

/-- Changes the processes. -/
def changingSpawner (change : Spawner → Spawner) : Chore Json :=
  changingPost (fun _ post => post.updateAround change) .null

/-- What a step asks for, if it asks for something of the monitor. -/
def monitorChoreOf? (absorbed : Duration → Json) (step : Json) : Option (Chore Json) :=
  match step.textAt 0 with
  | "ensure_running" => some (operation absorbed (.ensuring .starting))
  | "force_restart" => some (operation absorbed (.forcing .starting))
  | "probe" => some (operation absorbed (.probing .starting))
  | "stop" => some (changingPost (fun _ post => post.stop Spawner.surroundings) .null)
  | _ => none

/-- How the rest of a cooldown is written down. -/
def remainderJson (remaining : Duration) : Json :=
  .object [("absorbed_ms", .nat remaining.toMillis)]

/-- What a step asks for. -/
def choreOf (step : Json) : Chore Json :=
  match monitorChoreOf? remainderJson step with
  | some chore => chore
  | none =>
    match step.textAt 0 with
    | "start_monitoring" => changingPost Keeper.startRounds .null
    | "fail_probes" => changingSpawner fun spawner => { spawner with failures := step.natAt 1 }
    | "alive" => changingSpawner (Spawner.setAnswering (step.flagAt 1))
    | "crash" =>
      Chore.instantly fun world =>
        let (crashed, spawner) := world.post.around.crash
        ({ world with post := world.post.updateAround fun _ => spawner }, .bool crashed)
    | "sleep" => pause (step.natAt 1)
    | _ => changing id .null

/-- What is told of a step. -/
def tell (_ after : World) (result : Json) : Json :=
  let spawner := after.post.around
  .ofFields [("r", result), ("status", tidy after.post.monitor.status.toJson),
    ("alive", .bool spawner.answering.isSome), ("spawns", .nat spawner.spawns),
    ("shutdowns", .nat spawner.shutdowns), ("probes", .nat spawner.probes),
    ("ms", clockJson after)]

/-- A world with a monitor and nothing else. -/
def world (scenario : Json) : World :=
  { tree := treeOf scenario
    proxy := { workspace := workspaceRoot, cache := { servers := [], settings := {} } }
    post :=
      { upkeep :=
          { monitor := .ofSettings (monitorSettingsOf (scenario.get "settings"))
            around :=
              { plan := (scenario.getItems "plan").map birthOf
                isStubborn := (scenario.get "stubborn").flag
                obeysShutdown := (scenario.get "obeys_shutdown").flag } } } }

/-- Plays a scenario. -/
def run (scenario : Json) : Json :=
  .object [("steps", .array (playSteps choreOf tell (scenario.getItems "steps")
    (world scenario)))]

end SymbolSearch.Lab.MonitorScenario
