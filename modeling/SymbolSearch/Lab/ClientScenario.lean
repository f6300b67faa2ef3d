import SymbolSearch.Client.Basic
import SymbolSearch.Lab.Given

/-!
# Scenarios of a client

* `ClientScenario.run` writes down where a client would send its requests, or what it sends and
  makes of an answer.
-/

namespace SymbolSearch.Lab

/-- How an error of a client is written down. What others worded is left out. -/
def clientErrorJson (error : ClientError) : Json :=
  let message := match error with
    | .unreachable => none
    | .malformed => none
    | error => some (.string error.message)
  .ofPresent [("error", some (.string error.kind)), ("message", message),
    ("status", some ((error.status?.map Json.nat).getD .null)),
    ("unreachable", some (.bool error.isUnreachable))]

/-- How the result of a call is written down. -/
def clientResultJson : Except ClientError ClientReply → Json
  | .ok reply => .success reply.toJson
  | .error error => clientErrorJson error

namespace ClientScenario

/-- Where a client sends its requests. -/
def placeJson (base : Except UrlError Url) : Json :=
  match base.bind fun base => return (base.asFolder, ← base.asFolder.child "health") with
  | .ok (base, health) => .object [("health", .string health.text), ("ok", .string base.text)]
  | .error error => clientErrorJson (.invalidUrl error)

/-- The call in a scenario, if it is known. -/
def callOf? (scenario : Json) : Option ClientCall :=
  let position : Position :=
    ⟨((scenario.get "position").natAt 0).toUInt32, ((scenario.get "position").natAt 1).toUInt32⟩
  match scenario.getText "call" with
  | "health" => some .health
  | "status" => some .report
  | "shutdown" => some .shutdown
  | "symbols" =>
    some (.symbols ⟨scenario.getText "query", (scenario.get "ecosystems").texts⟩)
  | "references" =>
    some (.references
      ⟨scenario.getText "document", position, (scenario.get "include_declaration").flag⟩)
  | _ => none

/-- The answers that come without a body whatever is sent. -/
def isBodiless (status : Nat) : Bool := status = 101 || status = 204 || status = 304

/-- What a client gets for its request. Answers that are only a beginning are none. -/
def incomingOf (response : Json) : ClientResponse :=
  match response.getNat? "status" with
  | none => .unreachable
  | some status =>
    if status = 101 || (200 ≤ status && status < 1000) then
      .answered status (if isBodiless status then .empty else bytesOf (response.get "body"))
    else .unreachable

/-- How a request is written down. -/
def outgoingJson (request : ClientRequest) : Json :=
  .object [("body", request.json.getD .null), ("json", .bool request.json.isSome),
    ("method", .string request.method), ("path", .string request.url.path.text)]

/-- Writes down a call. -/
def callJson (scenario : Json) (call : ClientCall) : Json :=
  let base := scenario.getTextD "base_path" "/"
  let response := scenario.get "response"
  let told (result : Json) (request : Json) : Json :=
    .object [("request", request), ("result", result)]
  match (Url.parse ("http://127.0.0.1:1" ++ base)).bind call.request with
  | .error error => told (clientErrorJson (.invalidUrl error)) .null
  | .ok request =>
    let isRefused := response.text = "refuse"
    told (clientResultJson (call.conclude (incomingOf response)))
      (if isRefused then .null else outgoingJson request)

/-- Plays a scenario. -/
def run (scenario : Json) : Json :=
  match callOf? scenario with
  | some call => callJson scenario call
  | none =>
    match scenario.getNat? "port" with
    | some port => placeJson (.ok (loopback port))
    | none => placeJson (Url.parse (scenario.getText "url"))

end ClientScenario
end SymbolSearch.Lab
