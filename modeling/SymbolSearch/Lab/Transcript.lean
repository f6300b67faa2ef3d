import SymbolSearch.Json.Loose
import SymbolSearch.Lab.Run

/-!
# Transcripts

* `playSteps` does the steps of a scenario one after the other and writes down what is to be told
  of each.
* The other definitions say how results and errors are written down.
-/

namespace SymbolSearch.Lab

/-! ### Errors and results -/

/-- The kind of a session error. -/
def sessionErrorKind : SessionError → String
  | .transport _ => "Transport"
  | .handshakeTimeout _ => "HandshakeTimeout"
  | .handshakeFailed _ => "HandshakeFailed"
  | .requestTimeout _ _ => "RequestTimeout"
  | .serverError _ _ => "Protocol"
  | .processExit => "ProcessExit"
  | .notReady _ => "NotReady"
  | .restartBudgetExhausted _ => "RestartBudgetExhausted"
  | .commandNotFound _ => "LaunchCommandNotFound"
  | .spawnFailed _ _ => "Spawn"
  | .invalidResult _ _ => "InvalidResult"
  | .closed => "Closed"
  | .unreadable _ => "Io"

/-- The kind of a cache error. -/
def cacheErrorKind : CacheError → String
  | .unknownEcosystem _ => "UnknownEcosystem"
  | .unmanagedFile _ => "UnmanagedFile"
  | .workspaceUnreadable _ _ => "WorkspaceUnreadable"
  | .session _ _ => "Session"
  | .reconnectFailed _ _ => "ReconnectFailed"

/-- The beginning of a message about a result of the wrong shape. -/
def shapeMessage : String := "unexpected result shape for "

/-- A message without what was wrong with the shape of a result. -/
def cutShape (message : String) : String :=
  match message.splitOn shapeMessage with
  | before :: after :: _ => before ++ shapeMessage ++ (after.splitOn ": ").headD ""
  | _ => message

/-- The greatest time that is written down, in milliseconds; a wall clock shows a later one. -/
def maxShownTime : Nat := Nat.pow 10 12

mutual

/-- A value without what was wrong with the shapes of results, and without the times of the wall
    clock. -/
def tidy : Json → Json
  | .array items => .array (tidyItems items)
  | .object fields => .object (tidyFields fields)
  | other => other

/-- Tidies every item. -/
def tidyItems : List Json → List Json
  | [] => []
  | item :: rest => tidy item :: tidyItems rest

/-- Tidies every field. -/
def tidyFields : List (String × Json) → List (String × Json)
  | [] => []
  | (name, value) :: rest =>
    let tidied := match value with
      | .string text =>
        if name ∈ ["message", "reason", "error"] then .string (cutShape text) else value
      | .number (.int time) =>
        if name = "atMs" && (maxShownTime : Int) < time then .int 0 else value
      | value => tidy value
    (name, tidied) :: tidyFields rest

end

/-- How a session error is written down. -/
def sessionErrorJson (error : SessionError) : Json :=
  .failureWith (sessionErrorKind error) error.message

/-- How a cache error is written down. -/
def cacheErrorJson (error : CacheError) : Json :=
  .failureWith (cacheErrorKind error) error.message

/-- How an answer is written down. -/
def answerJson : Answer → Json
  | .symbols records => .array (records.map SymbolRecord.toJson)
  | .locations locations => .array (locations.map Location.toJson)

/-- How an answer is written down with where it came from. -/
def sourcedJson (sourced : Sourced) : Json :=
  .object [("items", answerJson sourced.answer), ("source", sourced.source.toJson)]

/-- How a result is written down. -/
def resultJson {α : Type} (encode : α → Json) : Except SessionError α → Json
  | .ok value => .success (encode value)
  | .error error => sessionErrorJson error

/-- How the result of an operation on a session is written down. -/
def sessionReplyJson : SessionReply → Json
  | .ensured result => resultJson (fun _ => .null) result
  | .answered result => resultJson answerJson result
  | .notified result => resultJson (fun _ => .null) result
  | .stopped => .null
  | .wasReset changed => .bool changed
  | .isAlive alive => .bool alive

/-! ### Chores -/

/-- A change that is made at once, with the result that is written down. -/
def changing (change : World → World) (result : Json) : Chore Json :=
  Chore.instantly fun world => (change world, result)

/-- Something that is only looked up. -/
def looking (look : World → Json) : Chore Json := Chore.instantly fun world => (world, look world)

/-- Waiting for a number of milliseconds. -/
def pause (milliseconds : Nat) : Chore Json := .sleeping (.ofMillis milliseconds) .null

/-- Does one step, or several at once. -/
def playStep (choreOf : Json → Chore Json) (step : Json) (world : World) : World × Json :=
  let isGroup := step.textAt 0 = "all"
  let chores := if isGroup then (step.item 1).items.map choreOf else [choreOf step]
  match play chores world with
  | (world, some results) =>
    (world, if isGroup then .array results else results.headD .null)
  | (world, none) => (world, .string "hang")

/-- Does steps one after the other. What is told of a step may depend on the world before and
    after it, and on its result. -/
def playSteps (choreOf : Json → Chore Json) (tell : World → World → Json → Json) :
    List Json → World → List Json
  | [], _ => []
  | step :: steps, world =>
    let (next, result) := playStep choreOf step world
    tell world next (tidy result) :: playSteps choreOf tell steps next

/-! ### Worlds -/

/-- The clock of a world in milliseconds. -/
def clockJson (world : World) : Json := .nat (Duration.toMillis world.now)

/-- The messages that the servers of an ecosystem received between two worlds. -/
def receivedSince (before after : World) (ecosystem : Ecosystem) : List Json :=
  (after.script ecosystem).received.toList.drop (before.script ecosystem).received.size

/-- The state of the session of an adapter. -/
def stateJson (world : World) (adapter : AdapterId) : Json :=
  ((world.cache.session? adapter).map fun session => session.state.toJson).getD .null

end SymbolSearch.Lab
