import SymbolSearch.Lab.Given
import SymbolSearch.Lab.Transcript

/-!
# Scenarios of one session

* `SessionScenario.run` plays a scenario with one session and writes down, after each step, its
  result, what became of the session, and what its server received.
-/

namespace SymbolSearch.Lab.SessionScenario

/-- The ecosystem of the session. -/
def ecosystem : Ecosystem := (Ecosystem.parse? "rust").getD default

/-- The adapter of the session. -/
def adapter : AdapterId := 0

/-- An operation on the session. -/
def operation (task : SessionTask) : Chore Json :=
  .working (.session adapter task) fun reply world =>
    match reply with
    | .session reply => (world, sessionReplyJson reply)
    | _ => (world, .null)

/-- A question to the server of the session. -/
def question (query : Query) : Chore Json := operation (.ask (.starting query))

/-- A notification for the server of the session. -/
def notice (given : Notice) : Chore Json := operation (.notify (.starting given))

/-- How a notification that was heard is written down. -/
def receptionJson : Reception Json → Json
  | .got params => .object [("got", params)]
  | .lagged missed => .object [("lagged", .nat missed)]

/-- What the server of the session can do. -/
def capabilitiesJson (world : World) : Json :=
  match world.cache.session? adapter with
  | some session =>
    .array [.bool session.capabilities.documentSymbols, .bool session.capabilities.references,
      .bool session.capabilities.workspaceSymbols]
  | none => .null

/-- The position in two items of a step. -/
def positionAt (step : Json) (i : Nat) : Position :=
  ⟨(step.natAt i).toUInt32, (step.natAt (i + 1)).toUInt32⟩

/-- What a step asks for. -/
def choreOf (step : Json) : Chore Json :=
  match step.textAt 0 with
  | "ensure_ready" => operation (.ensure .asking)
  | "document_symbols" => question (.documentSymbols (step.textAt 1))
  | "references" => question (.references (step.textAt 1) (positionAt step 2) (step.flagAt 4))
  | "workspace_symbols" => question (.workspaceSymbols (step.textAt 1))
  | "did_open" => notice (.didOpen (step.textAt 1) (step.textAt 2) (step.textAt 3))
  | "did_close" => notice (.didClose (step.textAt 1))
  | "shutdown" => operation (.stop .asking)
  | "reset" => operation (.reset .asking)
  | "is_alive" => operation (.checkAlive .asking)
  | "capabilities" => looking capabilitiesJson
  | "subscribe" =>
    Chore.instantly fun world =>
      let (world, number) := world.listen adapter (step.textAt 1)
      (world, .nat number)
  | "recv" =>
    Chore.instantly fun world =>
      let (world, receptions) := world.hear (step.natAt 1)
      (world, .array (receptions.map receptionJson))
  | "hangup" => changing (·.hangUp ecosystem) .null
  | "not_found" =>
    changing (fun world =>
      world.setScript ecosystem { world.script ecosystem with isMissing := step.flagAt 1 }) .null
  | "sleep" => pause (step.natAt 1)
  | _ => changing id .null

/-- A message as it is written down: without the capabilities of the client, unless everything is
    to be told. -/
def messageJson (full : Bool) (message : Json) : Json :=
  if full || (message.get "method").text ≠ "initialize" then message
  else
    .object (message.members.map fun (name, value) =>
      if name = "params" then
        (name, .object (value.members.map fun (name, value) =>
          (name, if name = "capabilities" then .null else value)))
      else (name, value))

/-- What is told of the session. -/
def sessionFields (world : World) (result : Json) : List (String × Json) :=
  match world.cache.session? adapter with
  | none => []
  | some session =>
    [("r", result), ("state", session.state.toJson), ("restarts", .nat session.restarts),
      ("failures", .nat session.failures)]

/-- What is told of a step. -/
def tell (full : Bool) (before after : World) (result : Json) : Json :=
  match after.cache.session? adapter with
  | none => .null
  | some session =>
    .ofFields (sessionFields after result ++ [
      ("active", .bool session.active), ("pending", .nat session.pending.entries.length),
      ("launches", .nat (after.script ecosystem).launches),
      ("sent", .array ((receivedSince before after ecosystem).map (messageJson full))),
      ("ms", clockJson after)])

/-- A world with one session. -/
def world (scenario : Json) (server : ServerConfig) : World :=
  let settings : SearchSettings := { session := sessionSettingsOf (scenario.get "settings") }
  let root := scenario.getTextD "root" workspaceRoot
  let made := Adapter.ofServer ecosystem root server settings.session settings.adapter
  let cache : Cache := { servers := [(ecosystem, server)], settings, adapters := [made] }
  { tree := treeOf scenario
    proxy := { workspace := root, cache }
    scripts := [(ecosystem, scriptOf scenario)] }

/-- Plays a scenario. -/
def run (scenario : Json) : Json :=
  let server : ServerConfig :=
    { command := scenario.getTextD "command" "fake-ls"
      languageId := scenario.getTextD "language_id" "rust" }
  .object [("steps", .array (playSteps choreOf (tell (scenario.get "full").flag)
    (scenario.getItems "steps") (world scenario server)))]

end SymbolSearch.Lab.SessionScenario
