import SymbolSearch.Lab.CacheScenario

/-!
# Scenarios of a proxy

* `ProxyScenario.run` plays a scenario with a proxy and writes down, after each step, its result
  and what the servers received.
-/

namespace SymbolSearch.Lab.ProxyScenario

open CacheScenario (ecosystemNamed)

/-- The request in a step. -/
def requestOf (step : Json) : HttpRequest where
  method := step.textAt 1
  target := step.textAt 2
  contentType := match step.item 4 with
    | .bool _ => none
    | .string given => some given
    | _ => some "application/json"
  body := bytesOf (step.item 3)

/-- How an answer is written down. -/
def answerJson (answer : HttpAnswer) : Json :=
  .object [("body", answer.body.getD .null), ("status", .nat answer.status)]

/-- The health record in a step. -/
def healthOf (step : Json) : Api.HealthRecord :=
  ⟨UInt64.ofNat (step.natAt 2), step.flagAt 3, (step.item 4).string?⟩

/-- The result of an operation that comes to an adapter: the state of its session. -/
def conclude (found : World → AdapterId → Json) (reply : Reply) (world : World) : World × Json :=
  match reply with
  | .adapter (.ok adapter) => (world, found world adapter)
  | .adapter (.error error) => (world, cacheErrorJson error)
  | .http answer => (world, answerJson answer)
  | .checked count => (world, .nat count)
  | _ => (world, .null)

/-- The proxy begins to serve. -/
def serve (world : World) : World :=
  { world with background := world.background ++ [.serving (.waiting .starting)] }

/-- The proxy begins to look after its sessions. -/
def watch (interval : Duration) (world : World) : World :=
  { world with
    background := world.background ++ [.health interval (.start interval world.now)] }

/-- The number of the task that serves, if there is one that nobody has waited for. -/
def servingTask? (world : World) : Option Nat :=
  world.background.findIdx? fun task =>
    match task with
    | .serving _ => true
    | .health _ _ => false

/-- Waits for the task that serves to end. -/
def join : Chore Json :=
  .deciding fun world =>
    (world,
      match servingTask? world with
      | none => changing id .null
      | some i => .awaiting fun world =>
        match world.background[i]? with
        | some (.serving (.ended ())) =>
          some ({ world with background := world.background.eraseIdx i }, .bool true)
        | _ => none)

/-- What a step asks for. -/
def choreOf (step : Json) : Chore Json :=
  let entry : EntryPoint := .starting (ecosystemNamed (step.textAt 1)) (step.textAt 2)
  let asState (world : World) (adapter : AdapterId) : Json := .success (stateJson world adapter)
  match step.textAt 0 with
  | "http" => .working (.answering (.starting (requestOf step))) (conclude stateJson)
  | "check" => .working (.checking .starting) (conclude stateJson)
  | "record" =>
    changing (fun world => { world with
      proxy := world.proxy.recordHealth (ecosystemNamed (step.textAt 1)) (healthOf step) }) .null
  | "last" =>
    looking fun world =>
      Api.HealthRecord.toJsonOrNull (world.proxy.lastHealth (ecosystemNamed (step.textAt 1)))
  | "ensure" => .working (.reconnecting (.entering entry)) (conclude asState)
  | "close" => .working (.finding entry .close) (conclude stateJson)
  | "health_loop" => changing (watch (.ofMillis (step.natAt 1))) .null
  | "serve" => changing serve .null
  | "join" => join
  | _ => CacheScenario.commonChoreOf step

/-- What is told of a step. -/
def tell (before after : World) (result : Json) : Json :=
  .ofFields (CacheScenario.commonFields before after result)

/-- Plays a scenario. -/
def run (scenario : Json) : Json :=
  .object [("steps", .array (playSteps choreOf tell (scenario.getItems "steps")
    (CacheScenario.world scenario)))]

end SymbolSearch.Lab.ProxyScenario
