import SymbolSearch.Lab.SessionScenario

/-!
# Scenarios of a cache

* `CacheScenario.run` plays a scenario with a cache of sessions and writes down, after each step,
  its result, the sessions that are kept, and what their servers received.
-/

namespace SymbolSearch.Lab.CacheScenario

/-! ### Worlds -/

/-- The ecosystem with a name. -/
def ecosystemNamed (name : String) : Ecosystem := (Ecosystem.parse? name).getD default

/-- The ecosystems of a scenario with their servers. -/
def serversOf (scenario : Json) : List (Ecosystem × Json) :=
  (scenario.get "servers").members.filterMap fun (name, json) =>
    (Ecosystem.parse? name).map fun ecosystem => (ecosystem, json)

/-- A world with a cache of sessions to scripted servers. -/
def world (scenario : Json) : World :=
  let given := serversOf scenario
  let servers := given.foldl (fun table (ecosystem, json) =>
    ServerTable.insert ecosystem (serverOf json) table) []
  { tree := treeOf scenario
    proxy := {
      workspace := workspaceRoot
      cache := { servers, settings := settingsOf (scenario.get "settings") }
      healthInterval := millisOf scenario "health_interval_ms" (.ofSecs 30) }
    scripts := given.map fun (ecosystem, json) => (ecosystem, scriptOf json) }

/-! ### Steps -/

/-- What is written down about an adapter. -/
def adapterJson (world : World) (adapter : AdapterId) : Json :=
  match world.cache.adapters[adapter]? with
  | none => .null
  | some found =>
    .success (.object [("ecosystem", found.ecosystem.toJson),
      ("root", .string found.scanner.root), ("state", stateJson world adapter)])

/-- The result of an operation on the cache, where `found` is what is done with an adapter. -/
def conclude (found : World → AdapterId → World × Json) (reply : Reply) (world : World) :
    World × Json :=
  match reply with
  | .adapter (.ok adapter) => found world adapter
  | .adapter (.error error) => (world, cacheErrorJson error)
  | .sourced sourced => (world, sourcedJson sourced)
  | .revived (.ok changed) => (world, .success (.bool changed))
  | .revived (.error error) => (world, cacheErrorJson error)
  | .disconnected closed => (world, .nat closed)
  | _ => (world, .null)

/-- An adapter that was found is written down. -/
def describe (world : World) (adapter : AdapterId) : World × Json :=
  (world, adapterJson world adapter)

/-- Puts an adapter under a name among others that are sorted by name. -/
def keepUnder (name : String) (adapter : AdapterId) :
    List (String × AdapterId) → List (String × AdapterId)
  | [] => [(name, adapter)]
  | (other, old) :: rest =>
    if name < other then (name, adapter) :: (other, old) :: rest
    else if name = other then (name, adapter) :: rest
    else (other, old) :: keepUnder name adapter rest

/-- An adapter is kept under a name; it is written down which others are the same. -/
def keep (name : String) (world : World) (adapter : AdapterId) : World × Json :=
  ({ world with kept := keepUnder name adapter world.kept },
    .object [("same_as_held", .array (world.kept.map fun (_, other) => .bool (other == adapter)))])

/-- What a step asks for that has to do with the servers, the files or the clock only. -/
def commonChoreOf (step : Json) : Chore Json :=
  let ecosystem := ecosystemNamed (step.textAt 1)
  match step.textAt 0 with
  | "hangup" => changing (·.hangUp ecosystem) .null
  | "not_found" =>
    changing (fun world =>
      world.setScript ecosystem { world.script ecosystem with isMissing := step.flagAt 2 }) .null
  | "write" =>
    changing (·.updateTree fun tree => tree.write (step.textAt 1) (entryOf (step.item 2))) .null
  | "remove" => changing (·.updateTree fun tree => tree.remove (step.textAt 1)) .null
  | "sleep" => pause (step.natAt 1)
  | _ => changing id .null

/-- What a step asks for. -/
def choreOf (step : Json) : Chore Json :=
  let entry : EntryPoint := .starting (ecosystemNamed (step.textAt 1)) (step.textAt 2)
  let ask (inquiry : Inquiry) : Chore Json :=
    .working (.finding entry (.ask inquiry)) (conclude describe)
  match step.textAt 0 with
  | "ecosystems" =>
    looking fun world => .array (world.cache.servers.ecosystems.map Ecosystem.toJson)
  | "ecosystem_for_path" =>
    looking fun world =>
      ((world.cache.ecosystemFor? (step.textAt 1)).map Ecosystem.toJson).getD .null
  | "adapter" => .working (.finding entry .keep) (conclude describe)
  | "adapter_for_file" =>
    .working (.findingFor (step.textAt 1) (step.textAt 2)) (conclude describe)
  | "ensure" => .working (.reconnecting (.entering entry)) (conclude describe)
  | "reset" => .working (.reviving (.entering entry)) (conclude describe)
  | "disconnect" => .working (.disconnecting (.finding (step.textAt 1))) (conclude describe)
  | "disconnect_all" => .working (.disconnecting .starting) (conclude describe)
  | "hold" => .working (.finding entry .keep) (conclude (keep (step.textAt 3)))
  | "held_state" =>
    looking fun world => ((world.kept.lookup (step.textAt 1)).map (stateJson world)).getD .null
  | "held_symbols" =>
    .deciding fun world =>
      (world,
        match world.kept.lookup (step.textAt 1) with
        | some adapter =>
          .working (.asking adapter (.starting (.workspace (step.textAt 2)))) (conclude describe)
        | none => changing id .null)
  | "document_symbols" => ask (.document (step.textAt 3))
  | "references" =>
    ask (.references (step.textAt 3) (SessionScenario.positionAt step 4) (step.flagAt 6))
  | "workspace_symbols" => ask (.workspace (step.textAt 3))
  | "invalidate" =>
    .working (.finding entry .keep) (conclude fun world adapter =>
      (world.updateCache fun cache => cache.updateAdapter adapter Adapter.invalidate, .null))
  | _ => commonChoreOf step

/-! ### Transcripts -/

/-- The method of a message, or a word for a reply. -/
def methodJson (message : Json) : Json :=
  match (message.get "method").string? with
  | some method => .string method
  | none => .string "<reply>"

/-- How many servers of each ecosystem were launched. -/
def launchesJson (world : World) : Json :=
  .ofFields (world.scripts.map fun (ecosystem, script) => (ecosystem.name, .nat script.launches))

/-- What the servers of each ecosystem received in a step. -/
def sentJson (before after : World) : Json :=
  .ofFields (after.scripts.filterMap fun (ecosystem, _) =>
    match receivedSince before after ecosystem with
    | [] => none
    | messages => some (ecosystem.name, .array (messages.map methodJson)))

/-- What is told of a step, whatever it was about. -/
def commonFields (before after : World) (result : Json) : List (String × Json) :=
  [("r", result), ("launches", launchesJson after), ("sent", sentJson before after),
    ("ms", clockJson after)]

/-- How a session that is kept is written down. -/
def statusJson (status : SessionStatus) : Json :=
  .array [status.key.ecosystem.toJson, .string status.key.root, status.state.toJson,
    .nat status.restarts, .nat status.failures]

/-- What is told of a step. -/
def tell (before after : World) (result : Json) : Json :=
  .ofFields (("statuses", .array (after.cache.statuses.map statusJson))
    :: commonFields before after result)

/-- Plays a scenario. -/
def run (scenario : Json) : Json :=
  .object [("steps", .array (playSteps choreOf tell (scenario.getItems "steps") (world scenario)))]

end SymbolSearch.Lab.CacheScenario
