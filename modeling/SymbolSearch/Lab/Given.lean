import SymbolSearch.Cache.Basic
import SymbolSearch.Files.Tree
import SymbolSearch.Json.Loose
import SymbolSearch.Lab.Script
import SymbolSearch.Rpc.Frame
import SymbolSearch.Settings

/-!
# What a scenario gives

A scenario is a loose document that says in which world something happens.

* `bytesOf` reads bytes: a text, digits in pairs, a repetition, a frame, or several in a row.
* `treeOf` reads the files, `scriptOf` the script of a server, and `settingsOf` the settings.
-/

namespace SymbolSearch.Lab

/-! ### Bytes and files -/

/-- The value of a hexadecimal digit; anything else counts as zero. -/
def nibble (c : Char) : UInt8 := ((Json.hexValue? c).getD 0).toUInt8

/-- The bytes that pairs of hexadecimal digits stand for. -/
def hexBytes : List Char → ByteArray → ByteArray
  | a :: b :: rest, done => hexBytes rest (done.push (nibble a * 16 + nibble b))
  | _, done => done

/-- A number of copies of some bytes. -/
def repeated (piece : ByteArray) : Nat → ByteArray → ByteArray
  | 0, done => done
  | n + 1, done => repeated piece n (done ++ piece)

/-- The bytes that a value stands for, which nests at most so many levels. -/
def bytesWithin : Nat → Json → ByteArray
  | 0, _ => .empty
  | depth + 1, json =>
    match json with
    | .string text => text.toUTF8
    | .array parts => parts.foldl (fun done part => done ++ bytesWithin depth part) .empty
    | _ =>
      match json.field? "hex", json.field? "repeat", json.field? "frame" with
      | some digits, _, _ => hexBytes digits.text.toList .empty
      | _, some pair, _ => repeated (bytesWithin depth (pair.item 0)) (pair.natAt 1) .empty
      | _, _, some body => frameBytes (bytesWithin depth body)
      | _, _, _ => .empty

/-- The bytes that a value stands for. -/
def bytesOf (json : Json) : ByteArray := bytesWithin Json.maxDepth json

/-- The entry of a file tree that a value stands for. -/
def entryOf (json : Json) : Entry :=
  match json.field? "dir", json.field? "symlink", json.field? "exec" with
  | some _, _, _ => .directory
  | _, some target, _ => .link target.text
  | _, _, some content => .file (bytesOf content) true
  | _, _, _ => .file (bytesOf json) false

/-- The root of the workspace in which everything happens. -/
def workspaceRoot : Path := "/ws"

/-- The files of a scenario: an empty workspace, and what is written then, in order. -/
def treeOf (scenario : Json) : Tree :=
  (scenario.getItems "files").foldl
    (fun tree pair => tree.write (pair.textAt 0) (entryOf (pair.item 1)))
    (({} : Tree).write workspaceRoot .directory)

/-! ### Scripts -/

/-- The symbol that is made up, from the given item on. -/
def echoPlaceOf (json : Json) (i : Nat) : EchoPlace :=
  ⟨json.natAt i, json.textAt (i + 1), json.natAt (i + 2), json.natAt (i + 3)⟩

/-- What a value says that is done. -/
def deedOf (json : Json) : Deed :=
  match json with
  | .string "hangup" => .hangUp
  | .object ((name, value) :: _) =>
    match name with
    | "respond" => .respond value
    | "error" => .fail (value.item 0) (value.item 1)
    | "after" => .respondAfter (.ofMillis (value.natAt 0)) (value.item 1)
    | "notify" => .notify (value.item 0) (value.item 1)
    | "ask" => .ask (value.item 0) (value.item 1)
    | "raw" => .write (bytesOf value)
    | "echo" => .echo (echoPlaceOf value 0)
    | "echo_after" => .echoAfter (.ofMillis (value.natAt 0)) (echoPlaceOf value 1)
    | _ => .usual
  | _ => .usual

/-- The rule that a value states. -/
def ruleOf (json : Json) : Rule where
  method := json.getText "method"
  conditions := (json.get "where").members
  uses := json.getNat? "times"
  deeds := (json.getItems "do").map deedOf

/-- The script in the rules of a value. -/
def scriptOf (json : Json) : Script := { rules := (json.getItems "rules").map ruleOf }

/-! ### Settings -/

/-- A length of time in milliseconds, or another one. -/
def millisOf (json : Json) (name : String) (default : Duration) : Duration :=
  ((json.getNat? name).map Duration.ofMillis).getD default

/-- The settings of a session. -/
def sessionSettingsOf (json : Json) : SessionSettings :=
  let standard : SessionSettings := {}
  { handshakeTimeout := millisOf json "handshake_timeout_ms" standard.handshakeTimeout
    requestTimeout := millisOf json "request_timeout_ms" standard.requestTimeout
    shutdownTimeout := millisOf json "shutdown_timeout_ms" standard.shutdownTimeout
    degradedAfter := json.getNatD "degraded_after" standard.degradedAfter
    maxRestarts := json.getNatD "max_restarts" standard.maxRestarts
    restartCooldown := millisOf json "restart_cooldown_ms" standard.restartCooldown }

/-- The settings of a cache and all below it. -/
def settingsOf (json : Json) : SearchSettings :=
  let adapter : AdapterSettings := {}
  let cache : CacheSettings := {}
  { session := sessionSettingsOf json
    adapter :=
      { settleDelay := millisOf json "settle_delay_ms" adapter.settleDelay
        cacheTtl := millisOf json "cache_ttl_ms" adapter.cacheTtl
        scan := ⟨json.getNatD "max_files" adapter.scan.files,
          json.getNatD "max_file_bytes" adapter.scan.fileBytes⟩ }
    cache :=
      { reconnectAttempts := json.getNatD "reconnect_attempts" cache.reconnectAttempts
        reconnectDelay := millisOf json "reconnect_delay_ms" cache.reconnectDelay } }

/-- The settings of a monitor. -/
def monitorSettingsOf (json : Json) : MonitorSettings :=
  let standard : MonitorSettings := {}
  { restartBudget := json.getNatD "restart_budget" standard.restartBudget
    restartCooldown := millisOf json "restart_cooldown_ms" standard.restartCooldown
    probeInterval := millisOf json "probe_interval_ms" standard.probeInterval
    readinessTtl := millisOf json "readiness_ttl_ms" standard.readinessTtl
    startupTimeout := millisOf json "startup_timeout_ms" standard.startupTimeout }

/-- How a scripted server is configured. -/
def serverOf (json : Json) : ServerConfig where
  command := json.getTextD "command" "fake-ls"
  args := (json.get "args").texts
  languageId := json.getTextD "language_id" "rust"
  fileExtensions :=
    if (json.get "file_extensions").isNull then ["rs"] else (json.get "file_extensions").texts
  readinessNotification := (json.get "readiness_notification").string?

end SymbolSearch.Lab
