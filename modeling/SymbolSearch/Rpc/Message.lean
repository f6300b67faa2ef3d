import SymbolSearch.Json.Decode
import SymbolSearch.Text.Quoted

/-!
# Messages

The envelopes in which a client and a server speak to each other.

* `Message.classify` tells requests, responses and notifications apart and refuses the rest.
* `Message.encodeRequest`, `Message.encodeNotification`, `Message.encodeResult` and
  `Message.encodeMethodNotFound` build the envelopes that a client sends.
-/

namespace SymbolSearch

/-- The id that joins a request with its response. -/
inductive MessageId where
  | number (value : Int)
  | string (value : String)
  deriving DecidableEq, Repr, Inhabited

namespace MessageId

/-- The id as a number that a client may have given out. -/
def toNat? : MessageId → Option Nat
  | .number (.ofNat n) => some n
  | _ => none

/-- Decodes an id. -/
def fromJson? : Json → Option MessageId
  | .string text => some (.string text)
  | json => json.int64?.map .number

/-- Encodes an id. -/
def toJson : MessageId → Json
  | .number value => .int value
  | .string text => .string text

end MessageId

/-- The error that a response reports. -/
structure ResponseError where
  code : Int
  text : String
  data : Option Json := none
  deriving Repr, Inhabited, BEq

namespace ResponseError

/-- Decodes the error of a response. -/
def fromJson? (json : Json) : Option ResponseError := do
  let record ← json.record? ["code", "message", "data"]
  let code ← record.required "code" Json.int64?
  let text ← record.required "message" Json.string?
  let data ← record.defaulted "data" none (Json.orNull? some)
  return ⟨code, text, data⟩

/-- Encodes the error of a response. -/
def toJson (error : ResponseError) : Json :=
  .ofPresent [("code", some (.int error.code)), ("data", error.data),
    ("message", some (.string error.text))]

/-- The code that says that a method is not known. -/
def methodNotFoundCode : Int := -32601

end ResponseError

/-- What a response brings: a value or an error. -/
abbrev ResponseOutcome := Except ResponseError Json

/-- A message, by its kind. -/
inductive Message where
  | request (id : MessageId) (method : String) (params : Option Json)
  | response (id : MessageId) (outcome : ResponseOutcome)
  | notification (method : String) (params : Option Json)

/-- Why a value is no message. -/
inductive MessageError where
  | malformed
  | version (text : String)
  | unroutable
  deriving DecidableEq, Repr

namespace MessageError

/-- The message that reports the error. -/
def message : MessageError → String
  | .malformed => "malformed JSON-RPC envelope"
  | .version text => "unsupported jsonrpc version " ++ Text.quoted text
  | .unroutable => "message has neither a method nor a result/error"

end MessageError

/-- The parts of an envelope that tell messages apart. -/
structure Envelope where
  version : Option String
  id : Option MessageId
  method : Option String
  params : Option Json
  result : Option Json
  error : Option ResponseError

namespace Envelope

/-- Decodes the parts of an envelope. Parameters and results may be `null` and are kept then. -/
def fromJson? (json : Json) : Option Envelope := do
  let record ← json.record? ["jsonrpc", "id", "method", "params", "result", "error"]
  let version ← record.optional "jsonrpc" Json.string?
  let id ← record.optional "id" MessageId.fromJson?
  let method ← record.optional "method" Json.string?
  let params := record.lookup "params"
  let result := record.lookup "result"
  let error ← record.optional "error" ResponseError.fromJson?
  return ⟨version, id, method, params, result, error⟩

end Envelope

namespace Message

/-- The version that messages carry. -/
def version : String := "2.0"

/-- The message that the parts of an envelope make up. -/
def ofEnvelope (envelope : Envelope) : Except MessageError Message :=
  match envelope.id, envelope.method with
  | some id, some method => .ok (.request id method envelope.params)
  | none, some method => .ok (.notification method envelope.params)
  | some id, none =>
    match envelope.error, envelope.result with
    | some error, _ => .ok (.response id (.error error))
    | none, some result => .ok (.response id (.ok result))
    | none, none => .error .unroutable
  | none, none => .error .unroutable

/-- Tells what kind of message a value is. -/
def classify (json : Json) : Except MessageError Message :=
  match Envelope.fromJson? json with
  | none => .error .malformed
  | some envelope =>
    match envelope.version with
    | some text => if text = version then ofEnvelope envelope else .error (.version text)
    | none => ofEnvelope envelope

/-- The envelope of a request from a client. -/
def encodeRequest (id : Nat) (method : String) (params : Option Json) : Json :=
  .ofPresent [("id", some (.nat id)), ("jsonrpc", some (.string version)),
    ("method", some (.string method)), ("params", params)]

/-- The envelope of a notification from a client. -/
def encodeNotification (method : String) (params : Option Json) : Json :=
  .ofPresent [("jsonrpc", some (.string version)), ("method", some (.string method)),
    ("params", params)]

/-- The envelope of a reply that brings a value. -/
def encodeResult (id : MessageId) (value : Json) : Json :=
  .ofFields [("id", id.toJson), ("jsonrpc", .string version), ("result", value)]

/-- The envelope of a reply that brings an error. -/
def encodeFailure (id : MessageId) (error : ResponseError) : Json :=
  .ofFields [("error", error.toJson), ("id", id.toJson), ("jsonrpc", .string version)]

/-- The envelope of a reply that says that a method is not known. -/
def encodeMethodNotFound (id : MessageId) (method : String) : Json :=
  encodeFailure id ⟨ResponseError.methodNotFoundCode, "Method not found: " ++ method, none⟩

end Message
end SymbolSearch
