import SymbolSearch.Config.Sections
import SymbolSearch.Server
import SymbolSearch.Text.Utf8

/-!
# The configuration

* `Environment.ofBytes` is what the environment of a process tells of its variables.
* `Environment.expand` replaces every reference `$` with a name in braces by the variable's value.
  A value is never looked through for references, whatever text it meets.
* `Config` is a configuration with all its values settled.
* `Config.builtinServers` are the servers that are known without any document.
* `Config.resolve` settles what the documents set and refuses what cannot work.
* `Config.select` are the ecosystems that answer for a list of names.
-/

namespace SymbolSearch

/-! ### References to the environment -/

/-- The values of the variables that are set. -/
abbrev Environment := List (String × String)

namespace Environment

/-- The environment of a process, whose names and values are bytes. A value that is not text counts
    as empty. -/
def ofBytes (bindings : List (ByteArray × ByteArray)) : Environment :=
  bindings.filterMap fun (name, value) =>
    (Text.decodeStrict name).map fun name => (name, (Text.decodeStrict value).getD "")

/-- The value of a variable; one that is not set counts as empty. -/
def valueOf (environment : Environment) (name : List Char) : List Char :=
  ((environment.lookup (String.ofList name)).getD "").toList

/-- What follows the first character that a search stops at is shorter than all of the text. -/
theorem length_lt_of_dropWhile {test : Char → Bool} {cs rest : List Char} {c : Char}
    (h : cs.dropWhile test = c :: rest) : rest.length < cs.length := by
  have := (List.dropWhile_sublist test (l := cs)).length_le
  rw [h, List.length_cons] at this
  omega

/-- Replaces the references in characters, from left to right. A reference without a name and one
    that is not closed stay as they are. -/
def expandChars (environment : Environment) : List Char → List Char
  | '$' :: '\x7b' :: rest =>
    match _closed : rest.dropWhile (· ≠ '\x7d') with
    | [] => '$' :: '\x7b' :: rest
    | _ :: after =>
      match rest.takeWhile (· ≠ '\x7d') with
      | [] => '$' :: '\x7b' :: '\x7d' :: expandChars environment after
      | name => environment.valueOf name ++ expandChars environment after
  | c :: rest => c :: expandChars environment rest
  | [] => []
termination_by cs => cs.length
decreasing_by
  all_goals simp_wf
  all_goals try have := length_lt_of_dropWhile _closed
  all_goals omega

/-- Replaces the references in a text. -/
def expand (environment : Environment) (text : String) : String :=
  String.ofList (expandChars environment text.toList)

end Environment

/-! ### Configurations -/

/-- The servers of ecosystems, sorted by the names of the ecosystems. -/
abbrev ServerTable := List (Ecosystem × ServerConfig)

namespace ServerTable

/-- Puts a server under an ecosystem, in place of the one that was there. -/
def insert (ecosystem : Ecosystem) (server : ServerConfig) : ServerTable → ServerTable
  | [] => [(ecosystem, server)]
  | (other, old) :: rest =>
    if ecosystem.name < other.name then (ecosystem, server) :: (other, old) :: rest
    else if ecosystem = other then (ecosystem, server) :: rest
    else (other, old) :: insert ecosystem server rest

/-- Removes the server of an ecosystem. -/
def erase (table : ServerTable) (ecosystem : Ecosystem) : ServerTable :=
  table.filter (·.1 ≠ ecosystem)

/-- The server of an ecosystem. -/
def server? (table : ServerTable) (ecosystem : Ecosystem) : Option ServerConfig :=
  (table.find? (·.1 = ecosystem)).map (·.2)

/-- The ecosystems that have a server. -/
def ecosystems (table : ServerTable) : List Ecosystem := table.map (·.1)

end ServerTable

/-- A configuration with all its values settled. -/
structure Config where
  proxy : ProxySettings
  monitor : MonitorSettings
  session : SessionSettings
  adapter : AdapterSettings
  cache : CacheSettings
  servers : ServerTable

/-- Why a configuration cannot work. -/
inductive ConfigFault where
  | badName (name : String) (error : EcosystemError)
  | commandMissing (name : String)
  | commandEmpty (ecosystem : Ecosystem)
  | portZero
  | timeoutZero
  | unknownEcosystem (name : String)
  | misfit

/-- The message that reports a fault. -/
def ConfigFault.message (fault : ConfigFault) : String :=
  let reason := match fault with
    | .badName name error => "servers." ++ name ++ ": " ++ error.message
    | .commandMissing name => "servers." ++ name ++ ": `command` is required"
    | .commandEmpty ecosystem =>
      "servers." ++ ecosystem.name ++ ": command is empty after expansion"
    | .portZero => "proxy.port must be non-zero"
    | .timeoutZero => "session timeouts must be greater than zero"
    | .unknownEcosystem name => "unknown ecosystem " ++ Text.quoted name
    | .misfit => "the layers do not fit together"
  "invalid configuration: " ++ reason

namespace Config

/-- A server that is known without any document. -/
def builtin (name command : String) (args fileExtensions : List String) :
    Option (Ecosystem × ServerConfig) :=
  (Ecosystem.parse? name).map fun ecosystem =>
    (ecosystem, { command, args, languageId := name, fileExtensions })

/-- The servers that are known without any document. -/
def builtinServers : ServerTable :=
  [builtin "go" "gopls" [] ["go"],
    builtin "python" "pyright-langserver" ["--stdio"] ["py", "pyi"],
    builtin "rust" "rust-analyzer" [] ["rs"],
    builtin "typescript" "typescript-language-server" ["--stdio"]
      ["ts", "tsx", "js", "jsx", "mjs", "cjs"]].filterMap id

/-- A known server with the fields that a section sets. -/
def patch (given : ServerSection) (server : ServerConfig) : ServerConfig where
  command := given.command.getD server.command
  args := given.args.getD server.args
  languageId := given.languageId.getD server.languageId
  fileExtensions := given.fileExtensions.getD server.fileExtensions
  readinessNotification := given.readinessNotification <|> server.readinessNotification

/-- A server that only a section speaks of. -/
def define (name : String) (given : ServerSection) : Except ConfigFault ServerConfig :=
  match given.command with
  | none => .error (.commandMissing name)
  | some command =>
    .ok {
      command
      args := given.args.getD []
      languageId := given.languageId.getD name
      fileExtensions := given.fileExtensions.getD []
      readinessNotification := given.readinessNotification }

/-- Applies the section of one server to the servers so far. -/
def applySection (servers : ServerTable) (name : String) (given : ServerSection) :
    Except ConfigFault ServerTable :=
  match Ecosystem.parse name with
  | .error error => .error (.badName name error)
  | .ok ecosystem =>
    if given.enabled = some false then .ok (servers.erase ecosystem)
    else
      match servers.server? ecosystem with
      | some server => .ok (servers.insert ecosystem (patch given server))
      | none => (define name given).map (servers.insert ecosystem ·)

/-- Applies the sections of servers, in order. -/
def applySections (servers : ServerTable) :
    List (String × ServerSection) → Except ConfigFault ServerTable
  | [] => .ok servers
  | (name, given) :: rest => do applySections (← applySection servers name given) rest

/-- A server with the references in its command line replaced. -/
def expandServer (environment : Environment) (server : ServerConfig) : ServerConfig :=
  { server with
    command := environment.expand server.command
    args := server.args.map environment.expand }

/-- The first server whose command is blank. -/
def blankCommand? (servers : ServerTable) : Option Ecosystem :=
  (servers.find? fun (_, server) => (Text.trimChars server.command.toList).isEmpty).map (·.1)

/-- Settles what the documents set: servers, then their commands, then ports and timeouts. Counts
    and intervals that must not be zero are at least one. -/
def resolve (environment : Environment) (sections : ConfigSections) :
    Except ConfigFault Config := do
  let named ← applySections builtinServers sections.servers
  let servers := named.map fun (ecosystem, server) => (ecosystem, expandServer environment server)
  if let some ecosystem := blankCommand? servers then throw (.commandEmpty ecosystem)
  if sections.proxy.port = 0 then throw .portZero
  let session := sections.session
  if session.requestTimeout = 0 || session.handshakeTimeout = 0 then throw .timeoutZero
  return {
    proxy := { sections.proxy with
      healthInterval := max sections.proxy.healthInterval (.ofSecs 1) }
    monitor := sections.monitor
    session := { session with degradedAfter := max session.degradedAfter 1 }
    adapter := sections.adapter
    cache := { sections.cache with
      reconnectAttempts := max sections.cache.reconnectAttempts 1 }
    servers }

/-- The ecosystem with a server that a name stands for. -/
def ecosystemNamed? (config : Config) (name : String) : Option Ecosystem :=
  (Ecosystem.parse? name).filter (config.servers.ecosystems.contains ·)

/-- The ecosystems that answer for a list of names, or all of them if the list is empty. -/
def select (config : Config) : List String → Except ConfigFault (List Ecosystem)
  | [] => .ok config.servers.ecosystems
  | names => names.mapM fun name =>
    match config.ecosystemNamed? name with
    | some ecosystem => .ok ecosystem
    | none => .error (.unknownEcosystem name)

end Config

end SymbolSearch
