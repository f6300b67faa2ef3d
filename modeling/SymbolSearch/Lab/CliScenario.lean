import SymbolSearch.Lab.LaunchScenario

/-!
# Scenarios of command lines

* `CliScenario.follow` follows a plan in a world.
* `CliScenario.run` follows command lines one after the other, and writes down how each ends.
-/

namespace SymbolSearch.Lab.CliScenario

open Cli (Plan Outcome Setup)

/-! ### Ports -/

/-- What happens behind one port. -/
structure Place where
  world : World
  /-- Whether something listens that never answers. -/
  isBusy : Bool := false

/-- The ports of a machine. -/
abbrev Places := List (Nat × Place)

/-- The port of a scenario. -/
def scenarioPort : Nat := 41973

/-- What stands for the port of a scenario. -/
def portMark : String := "\x7bPORT\x7d"

/-- A place where nobody listens. -/
def emptyPlace (tree : Tree) : Place where
  world :=
    { tree
      proxy := { workspace := workspaceRoot, cache := { servers := [], settings := {} } } }

/-- What happens behind a port. -/
def placeAt (tree : Tree) (places : Places) (port : Nat) : Place :=
  (places.lookup port).getD (emptyPlace tree)

/-- The places after something has happened behind a port. -/
def putPlace (places : Places) (port : Nat) (place : Place) : Places :=
  (port, place) :: places.filter fun entry => entry.1 ≠ port

/-! ### Plans -/

/-- Does one thing, and then lets the one who answers be the proxy. -/
def doing {ρ : Type} (chore : Chore ρ) (otherwise : ρ) (world : World) : World × ρ :=
  match play [chore] world with
  | (world, some (result :: _)) => (world.meetHost, result)
  | (world, _) => (world.meetHost, otherwise)

/-- The result of an operation of the monitor that launches a proxy, with its report. -/
def launching (call : KeeperCall) (world : World) : World × Launched × MonitorStatus :=
  doing
    (.keeping call fun reply world =>
      let status := world.post.monitor.status
      match reply with
      | .launched result => (world, result, status)
      | .probed _ => (world, .ok (), status))
    (.ok (), world.post.monitor.status) world

/-- Follows a plan. Whatever would go on without end is interrupted. -/
def follow (isBusy : Bool) : Plan → World → World × Outcome
  | .done outcome, world => (world, outcome)
  | .ensure next, world =>
    let (world, result, _) := launching (.ensuring .starting) world
    follow isBusy (next result) world
  | .force next, world =>
    let (world, result, status) := launching (.forcing .starting) world
    follow isBusy (next result status) world
  | .call call next, world =>
    let (world, result) :=
      doing (.calling call fun result world => (world, result)) (.error .unreachable) world
    follow isBusy (next result) world
  | .serve next, world =>
    follow isBusy (next (!isBusy && world.post.around.answering.isNone)) world
  | .watch next, world =>
    let (world, _) := doing
      (changing (fun world => { world with
        post := (world.post.startRounds world.now).stop Spawner.surroundings }) .null) .null world
    follow isBusy (next world.post.monitor.status) world

/-- What becomes of launching a proxy for a port. One that is told to take any port is not heard
    where it is looked for. -/
def birthFor (port : Nat) (isBusy : Bool) : Birth :=
  if isBusy then .silentUntil startDelay
  else if port = 0 then .silent
  else .answersAfter startDelay

/-- Follows a setup behind its port, with a monitor of its own. -/
def followSetup (setup : Setup) (place : Place) : Place × Outcome :=
  let spawner := { place.world.post.around with
    afterPlan := birthFor setup.port place.isBusy
    obeysShutdown := true }
  let world := { place.world with
    launched := some setup.proxy
    post := { upkeep := { monitor := .ofSettings setup.config.monitor, around := spawner } } }
  let (world, outcome) := follow place.isBusy setup.plan world
  ({ place with world }, outcome)

/-- Follows a command line in a directory. -/
def followLine (tree : Tree) (current : Path) (words : List String) (places : Places) :
    Places × Outcome :=
  match CommandLine.read words with
  | .error halt => (places, .halted halt)
  | .ok line =>
    match Setup.of homeEnvironment tree homePath current line with
    | .error message => (places, .failed message)
    | .ok setup =>
      let (place, outcome) := followSetup setup (placeAt tree places setup.port)
      (putPlace places setup.port place, outcome)

/-! ### Transcripts -/

/-- What was printed: a value, or a single line, or nothing of interest. -/
def printedJson (stdout : String) : Json :=
  match Json.read stdout with
  | some value => tidy value
  | none =>
    match stdout.splitOn "\n" with
    | [line, ""] => .string line
    | _ => .null

/-- How the end of a command is written down. -/
def outcomeJson (outcome : Outcome) : Json :=
  let line := (outcome.stderr.splitOn "\n").headD ""
  let shown := line.replace (toString scenarioPort) portMark
  .object [("code", .nat outcome.code),
    ("stderr", .string (if outcome.code = 2 then "" else shown)),
    ("stdout", printedJson outcome.stdout)]

/-- The words of a command line. -/
def wordsOf (json : Json) : List String :=
  let words := match json.field? "interrupt" with
    | some words => words.texts
    | none => json.texts
  words.map fun word => withoutRoot (word.replace portMark (toString scenarioPort))

/-- Follows command lines one after the other. -/
def followAll (tree : Tree) (current : Path) : List Json → Places → Places × List Json
  | [], places => (places, [])
  | line :: rest, places =>
    let (places, outcome) := followLine tree current (wordsOf line) places
    let (places, others) := followAll tree current rest places
    (places, outcomeJson outcome :: others)

/-- The place behind the port of a scenario. -/
def placeOf (scenario : Json) : Place :=
  let given := CacheScenario.world scenario
  if (scenario.get "servers").isNull then
    { emptyPlace given.tree with isBusy := (scenario.get "port_busy").flag }
  else
    { world := { given with post := { upkeep := { around := { answering := some .outsider } } } } }

/-- Plays a scenario. -/
def run (scenario : Json) : Json :=
  let place := placeOf scenario
  let tree := place.world.tree
  let current := Path.join "/" (scenario.getTextD "cwd" "ws")
  let (places, outcomes) :=
    followAll tree current (scenario.getItems "runs") [(scenarioPort, place)]
  let launches :=
    if (scenario.get "servers").isNull then .null
    else CacheScenario.launchesJson (placeAt tree places scenarioPort).world
  .object [("launches", launches), ("runs", .array outcomes)]

end SymbolSearch.Lab.CliScenario
