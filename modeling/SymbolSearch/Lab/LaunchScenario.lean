import SymbolSearch.Cli.Plan
import SymbolSearch.Client.Basic
import SymbolSearch.Json.Write
import SymbolSearch.Lab.ClientScenario
import SymbolSearch.Lab.MonitorScenario
import SymbolSearch.Lab.ProxyScenario
import SymbolSearch.Lab.Run

/-!
# Scenarios of a monitor that launches programs

* `Chore.calling` asks the proxy of a world through a client.
* `LaunchScenario.run` plays a scenario with a monitor that launches a program, and writes down,
  after each step, its result and the report of the monitor.
-/

namespace SymbolSearch.Lab

/-! ### Calls within a world -/

/-- A request of a client as it comes to a proxy. -/
def received (request : ClientRequest) : HttpRequest where
  method := request.method
  target := request.url.path.text
  contentType := request.json.map fun _ => "application/json"
  body := (request.json.map fun json => json.compact.toUTF8).getD .empty

/-- An answer of a proxy as it comes to a client. -/
def answered (answer : HttpAnswer) : ClientResponse :=
  .answered answer.status ((answer.body.map fun json => json.compact.toUTF8).getD .empty)

/-- The world after a proxy has taken a call. A proxy that is told to stop answers no longer. -/
def World.afterCall (call : ClientCall) (world : World) : World :=
  match call with
  | .shutdown => { world with post := world.post.updateAround Spawner.shutdown }
  | _ => world

/-- Asks the proxy of a world, wherever it is. -/
def Chore.calling {ρ : Type} (call : ClientCall)
    (conclude : Except ClientError ClientReply → World → World × ρ) : Chore ρ :=
  .deciding fun world =>
    let world := world.meetHost
    match world.post.around.answering, call.request (loopback 1) with
    | some _, .ok request =>
      (world, .working (.answering (.starting (received request))) fun reply world =>
        match reply with
        | .http answer => conclude (call.conclude (answered answer)) (world.afterCall call)
        | _ => conclude (.error .malformed) world)
    | _, _ => (world, .instantly (conclude (call.conclude .unreachable)))

/-! ### Scenarios -/

/-- The home directory. -/
def homePath : Path := "/home"

/-- The variables that are set. -/
def homeEnvironment : Environment := [("HOME", homePath)]

/-- How long a process takes until it answers or fails. -/
def startDelay : Duration := .ofMillis 5

/-- How long a program takes that nobody says anything to. -/
def runningTime (program : Program) : Duration :=
  program.foldl
    (fun sum instruction =>
      match instruction with
      | .wait length => sum + length
      | _ => sum)
    startDelay

namespace LaunchScenario

/-- What becomes of launching a program in place of the proxy. -/
def birthOf (tree : Tree) (program : String) : Birth :=
  let outcome : Except String Program :=
    if program.startsWith rootMark then executable tree (withoutRoot program)
    else
      match knownProgram? program ["serve"] with
      | some program => .ok program
      | none => .error FileError.notFound.message
  match outcome with
  | .ok program => .silentUntil (runningTime program)
  | .error reason => .fails reason

/-- The world of a scenario. -/
def world (scenario : Json) : World :=
  let hasServers := !(scenario.get "servers").isNull
  let given := CacheScenario.world scenario
  let launched :=
    (Config.load homeEnvironment given.tree homePath workspaceRoot).toOption.map
      (Cli.configuredProxy workspaceRoot)
  let afterPlan := match (scenario.get "program").string? with
    | some program => birthOf given.tree program
    | none => if launched.isSome then .answersAfter startDelay else .silentUntil startDelay
  { given with
    launched
    post :=
      { upkeep :=
          { monitor := .ofSettings (monitorSettingsOf (scenario.get "settings"))
            around :=
              { afterPlan
                obeysShutdown := true
                answering := if hasServers then some .outsider else none } } } }

/-- Whether a proxy answers. -/
def isAnswering (world : World) : Bool := world.post.around.answering.isSome

/-- Waits for something up to some time. -/
def await (limit : Duration) (holds : World → Bool) : Chore Json :=
  .deciding fun world => (world, .watching (world.now + limit) holds .bool)

/-- Asks the proxy. -/
def calling (call : ClientCall) : Chore Json :=
  .calling call fun result world => (world, clientResultJson result)

/-- What a step asks for. -/
def choreOf (step : Json) : Chore Json :=
  match MonitorScenario.monitorChoreOf? (fun _ => .string "absorbed") step with
  | some chore => chore
  | none =>
    match step.textAt 0 with
    | "alive" => looking fun world => .bool (isAnswering world)
    | "gone" => await (.ofSecs 2) fun world => !isAnswering world
    | "failed" => await (.ofSecs 5) fun world => world.post.monitor.permanentlyFailed
    | "health" => calling .health
    | "proxy_status" => calling .report
    | "symbols" => calling (.symbols ⟨step.textAt 1, (step.item 2).texts⟩)
    | _ => changing id .null

/-- What is told of a step. -/
def tell (_ after : World) (result : Json) : Json :=
  .ofFields [("r", result), ("status", tidy after.post.monitor.status.toJson)]

/-- Plays a scenario. -/
def run (scenario : Json) : Json :=
  .object [("steps", .array (playSteps choreOf tell (scenario.getItems "steps")
    (world scenario)))]

end LaunchScenario

end SymbolSearch.Lab
