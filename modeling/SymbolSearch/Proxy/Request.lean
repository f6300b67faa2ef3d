import SymbolSearch.Api.Payload
import SymbolSearch.Cache.Error
import SymbolSearch.Http.Message
import SymbolSearch.Json.Shape
import SymbolSearch.Text.Utf8

/-!
# Requests to the proxy

* `Route.of` finds what a request asks for, by its path and its method.
* `ApiError` is why a request is refused, and `ApiError.answer` the answer that says so.
* `decodeBody` reads the body of a request that must be JSON of a known shape.
-/

namespace SymbolSearch

/-- Why a request is refused. -/
structure ApiError where
  status : Nat
  message : String
  deriving DecidableEq, Repr

namespace ApiError

/-- The refusal of a request that is at fault itself. -/
def badRequest (message : String) : ApiError := ⟨400, message⟩

/-- The refusal of a request for which no session was had. -/
def ofCacheError (error : CacheError) : ApiError := ⟨error.httpStatus, error.message⟩

/-- The answer that reports the refusal. -/
def answer (error : ApiError) : HttpAnswer :=
  ⟨error.status, some (Api.ErrorBody.toJson ⟨UInt16.ofNat error.status, error.message⟩)⟩

end ApiError

/-- What a request asks for. -/
inductive Route where
  | health
  | status
  | symbols
  | references
  | shutdown
  deriving DecidableEq, Repr

namespace Route

/-- Every route with its path and its method. -/
def table : List (String × String × Route) :=
  [("/health", "GET", .health), ("/symbols", "POST", .symbols),
    ("/references", "POST", .references), ("/status", "GET", .status),
    ("/shutdown", "POST", .shutdown)]

/-- What a request asks for, or the status of the answer if it asks for nothing that there is. A
    question for the head of an answer is taken as one for the whole. -/
def of (request : HttpRequest) : Except Nat Route :=
  match table.lookup request.path with
  | none => .error 404
  | some (method, route) =>
    if request.method = method || (request.method = "HEAD" && method = "GET") then .ok route
    else .error 405

end Route

/-! ### Bodies -/

/-- The greatest length of a body, in bytes. -/
def maxBodyBytes : Nat := 2 * 1024 * 1024

/-- The message for a fault in the text of a body. -/
def ShapeFault.message : ShapeFault → String
  | .malformed => "Failed to parse the request body as JSON"
  | .misfit => "Failed to deserialize the JSON body into the target type"

/-- The text of a body. A zero stands for what cannot be read; it is no part of any JSON text. -/
def bodyText (bytes : ByteArray) : String :=
  match Text.decodeStrict bytes with
  | some text => text
  | none => (Text.decodeLossy bytes).map fun c => if c = '\ufffd' then '\x00' else c

/-- Reads the body of a request that must be JSON of a shape. -/
def decodeBody (request : HttpRequest) (shape : Shape) : Except ApiError Json :=
  if !request.saysJson then
    .error (.badRequest "Expected request with `Content-Type: application/json`")
  else if maxBodyBytes < request.body.size then
    .error (.badRequest "Failed to buffer the request body: length limit exceeded")
  else
    match shape.readText (bodyText request.body) with
    | .ok json => .ok json
    | .error fault => .error (.badRequest fault.message)

namespace Api

/-- The shape of a search for symbols. -/
def SymbolQuery.shape : Shape :=
  .record [("query", true, .text), ("ecosystems", false, .listOf .text)]

/-- The shape of a position. -/
def positionShape : Shape := .record [("line", true, .word), ("character", true, .word)]

/-- The shape of a search for references. -/
def ReferenceQuery.shape : Shape :=
  .record [("document", true, .text), ("position", true, positionShape),
    ("includeDeclaration", false, .flag)]

end Api

/-- Reads a request whose body is a value that a decoder knows. -/
def decodeRequest {α : Type} (request : HttpRequest) (shape : Shape) (decode : Json → Option α) :
    Except ApiError α := do
  let json ← decodeBody request shape
  match decode json with
  | some value => .ok value
  | none => .error (.badRequest ShapeFault.misfit.message)

end SymbolSearch
