import SymbolSearch.Api.Payload
import SymbolSearch.Http.Message
import SymbolSearch.Json.Shape
import SymbolSearch.Json.Write
import SymbolSearch.Text.Utf8
import SymbolSearch.Url.Parse

/-!
# Asking a proxy

* `ClientCall` is what can be asked of a proxy, and `ClientReply` what it answers.
* `ClientCall.request` is the request that asks it, and `ClientCall.conclude` what becomes of the
  answer.
* `ClientError` is why there is no answer.
* `ClientRequest.bytes` is a request as it is sent, and `ClientResponse.ofBytes` the answer in all
  that came back until the connection was closed.
-/

namespace SymbolSearch

/-! ### Errors -/

/-- Why there is no answer from a proxy. -/
inductive ClientError where
  /-- No proxy has answered at all. -/
  | unreachable
  /-- The proxy holds the request to be wrong. -/
  | rejected (status : Nat) (reason : String)
  /-- The proxy could not serve the request. -/
  | failed (status : Nat) (reason : String)
  | malformed
  | invalidUrl (error : UrlError)
  deriving DecidableEq, Repr

namespace ClientError

/-- The name of an error. -/
def kind : ClientError → String
  | .unreachable => "Transport"
  | .rejected _ _ => "Client"
  | .failed _ _ => "Server"
  | .malformed => "Decode"
  | .invalidUrl _ => "InvalidUrl"

/-- The message of an error. -/
def message : ClientError → String
  | .unreachable => "proxy unreachable"
  | .rejected status reason => "request rejected (" ++ Http.statusText status ++ "): " ++ reason
  | .failed status reason => "proxy error (" ++ Http.statusText status ++ "): " ++ reason
  | .malformed => "malformed proxy response"
  | .invalidUrl error => "invalid proxy url: " ++ error.message

/-- The status that came with an error. -/
def status? : ClientError → Option Nat
  | .rejected status _ => some status
  | .failed status _ => some status
  | _ => none

/-- Whether no proxy has answered at all. -/
def isUnreachable : ClientError → Bool
  | .unreachable => true
  | _ => false

end ClientError

/-! ### What an answer may say about an error -/

/-- The longest text of an answer that a message shows. -/
def maxShownChars : Nat := 4096

/-- The message in an answer with a status that is no success. A body that reports an error is
    preferred; otherwise its text is shown, and without any the reason for the status. -/
def reasonIn (status : Nat) (body : ByteArray) : String :=
  let text := Text.decodeLossy body
  match (Json.readTolerant text).bind Api.ErrorBody.fromJson? with
  | some report => report.message
  | none =>
    let trimmed := Text.trimChars text.toList
    if trimmed.isEmpty then (Http.reason? status).getD "unknown error"
    else String.ofList (trimmed.take maxShownChars)

/-- The error in an answer, if it has a status that is no success. -/
def errorIn? (status : Nat) (body : ByteArray) : Option ClientError :=
  if Http.isSuccess status then none
  else if Http.isClientError status then some (.rejected status (reasonIn status body))
  else some (.failed status (reasonIn status body))

/-! ### Calls -/

/-- What can be asked of a proxy. -/
inductive ClientCall where
  | health
  | report
  | shutdown
  | symbols (query : Api.SymbolQuery)
  | references (query : Api.ReferenceQuery)

/-- What a proxy answers. -/
inductive ClientReply where
  | readiness (answer : Api.Readiness)
  | status (report : Api.StatusReport)
  /-- The proxy is about to stop. -/
  | stopping
  | symbols (answer : Api.SymbolAnswer)
  | references (answer : Api.ReferenceAnswer)

/-- An answer as JSON. -/
def ClientReply.toJson : ClientReply → Json
  | .readiness answer => answer.toJson
  | .status report => report.toJson
  | .stopping => .null
  | .symbols answer => answer.toJson
  | .references answer => answer.toJson

/-- A request that a client sends. -/
structure ClientRequest where
  method : String
  url : Url
  /-- What is sent with it. -/
  json : Option Json := none

/-- What a client gets for a request. -/
inductive ClientResponse where
  | unreachable
  | answered (status : Nat) (body : ByteArray)

namespace ClientCall

/-- The name under which a proxy answers a call. -/
def endpoint : ClientCall → String
  | .health => "health"
  | .report => "status"
  | .shutdown => "shutdown"
  | .symbols _ => "symbols"
  | .references _ => "references"

/-- The method of a call. -/
def method : ClientCall → String
  | .health => "GET"
  | .report => "GET"
  | _ => "POST"

/-- What is sent with a call. -/
def json? : ClientCall → Option Json
  | .symbols query => some query.toJson
  | .references query => some query.toJson
  | _ => none

/-- The request that asks a proxy at a place. -/
def request (base : Url) (call : ClientCall) : Except UrlError ClientRequest := do
  return { method := call.method, url := ← base.asFolder.child call.endpoint, json := call.json? }

/-- What the body of an answer says. -/
def read? (call : ClientCall) (body : ByteArray) : Option ClientReply :=
  let tree? := (Text.decodeStrict body).bind Json.readTolerant
  match call with
  | .health => (tree?.bind Api.Readiness.fromJson?).map .readiness
  | .report => (tree?.bind Api.StatusReport.fromJson?).map .status
  | .shutdown => some .stopping
  | .symbols _ => (tree?.bind Api.SymbolAnswer.fromJson?).map .symbols
  | .references _ => (tree?.bind Api.ReferenceAnswer.fromJson?).map .references

/-- What becomes of the answer to a call. -/
def conclude (call : ClientCall) : ClientResponse → Except ClientError ClientReply
  | .unreachable => .error .unreachable
  | .answered status body =>
    match errorIn? status body with
    | some error => .error error
    | none =>
      match call.read? body with
      | some reply => .ok reply
      | none => .error .malformed

end ClientCall

/-- The place of a proxy on this machine. -/
def loopback (port : Nat) : Url :=
  { scheme := "http"
    authority := some
      { host := .ipv4 (127 * Nat.pow 256 3 + 1), port := if port = 80 then none else some port }
    path := .parts [""] }

/-! ### Requests and answers as bytes -/

/-- A request as it is sent to a port of this machine. -/
def ClientRequest.bytes (request : ClientRequest) (port : Nat) : ByteArray :=
  let body := (request.json.map fun json => json.compact.toUTF8).getD .empty
  let fields := [request.method ++ " " ++ request.url.path.text ++ " HTTP/1.1",
    "host: 127.0.0.1:" ++ toString port, "connection: close",
    "content-length: " ++ toString body.size]
    ++ (request.json.map fun _ => "content-type: application/json").toList
  ("\r\n".intercalate (fields ++ ["", ""])).toUTF8 ++ body

/-- Where the head of an answer ends: behind its first empty line, from a place on. -/
def headEnd? (bytes : ByteArray) (i : Nat) : Option Nat :=
  if i + 4 ≤ bytes.size then
    if (bytes.extract i (i + 4)).toList = [13, 10, 13, 10] then some (i + 4)
    else headEnd? bytes (i + 1)
  else none
termination_by bytes.size - i
decreasing_by omega

/-- The status in the first line of an answer. -/
def statusIn? (head : String) : Option Nat :=
  match head.splitOn " " with
  | _ :: status :: _ => status.toNat?
  | _ => none

/-- The answer in all that came back. Without a status nobody has answered. -/
def ClientResponse.ofBytes (bytes : ByteArray) : ClientResponse :=
  match headEnd? bytes 0 with
  | none => .unreachable
  | some start =>
    match statusIn? (Text.decodeLossy (bytes.extract 0 start)) with
    | none => .unreachable
    | some status => .answered status (bytes.extract start bytes.size)

end SymbolSearch
