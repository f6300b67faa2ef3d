import SymbolSearch.Ecosystem

/-!
# Language servers

* `ServerConfig` says how to launch the server of an ecosystem and which files it handles.
-/

namespace SymbolSearch

/-- How to launch a language server, and which files it handles. -/
structure ServerConfig where
  command : String
  args : List String := []
  languageId : String
  fileExtensions : List String := []
  /-- The notification by which the server says that it has read the workspace. -/
  readinessNotification : Option String := none
  deriving DecidableEq, Repr, Inhabited

namespace ServerConfig

/-- The names of the fields, in order. -/
def fieldNames : List String :=
  ["command", "args", "language_id", "file_extensions", "readiness_notification"]

/-- Decodes a list of texts. -/
def texts? (json : Json) : Option (List String) := Json.listOf? Json.string? json

/-- Decodes a configuration. -/
def fromJson? (json : Json) : Option ServerConfig := do
  let record ← json.record? fieldNames
  let command ← record.required "command" Json.string?
  let args ← record.defaulted "args" [] texts?
  let languageId ← record.required "language_id" Json.string?
  let fileExtensions ← record.defaulted "file_extensions" [] texts?
  let readiness ← record.defaulted "readiness_notification" none (Json.orNull? Json.string?)
  return ⟨command, args, languageId, fileExtensions, readiness⟩

/-- Encodes a configuration. -/
def toJson (config : ServerConfig) : Json :=
  .ofPresent [
    ("args", some (.array (config.args.map .string))),
    ("command", some (.string config.command)),
    ("file_extensions", some (.array (config.fileExtensions.map .string))),
    ("language_id", some (.string config.languageId)),
    ("readiness_notification", config.readinessNotification.map .string)]

end ServerConfig
end SymbolSearch
