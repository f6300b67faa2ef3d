import SymbolSearch.Lab.SessionScenario

/-!
# Scenarios of a session with a process

* `ProcessScenario.run` plays a scenario with one session whose server is a process, and writes
  down, after each step, its result and what became of the session.
-/

namespace SymbolSearch.Lab.ProcessScenario

/-- Plays a scenario. -/
def run (scenario : Json) : Json :=
  let server : ServerConfig :=
    { command := scenario.getText "command", args := (scenario.get "args").texts
      languageId := "rust" }
  let tell (_ after : World) (result : Json) : Json :=
    .ofFields (SessionScenario.sessionFields after result)
  .object [("steps", .array (playSteps SessionScenario.choreOf tell (scenario.getItems "steps")
    { SessionScenario.world scenario server with hasProcesses := true }))]

end SymbolSearch.Lab.ProcessScenario
