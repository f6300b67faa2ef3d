import SymbolSearch.Cli.Arguments
import SymbolSearch.Client.Basic
import SymbolSearch.Config.Load
import SymbolSearch.Json.Write
import SymbolSearch.Monitor.Launching
import SymbolSearch.Proxy.Basic

/-!
# Commands

* `Setup.of` settles in which workspace and with which configuration a command line is followed.
* `Plan` is what a command does, one thing after the other, depending on what came of the things
  before; `Setup.plan` is the plan of a command.
* `Outcome` is how a command ends.
-/

namespace SymbolSearch.Cli

/-! ### Outcomes -/

/-- How a command ends. -/
structure Outcome where
  code : Nat := 0
  stdout : String := ""
  stderr : String := ""
  deriving DecidableEq, Repr

/-- A command has failed. -/
def Outcome.failed (message : String) : Outcome :=
  { code := 1, stderr := "Error: " ++ message ++ "\n" }

/-- A command prints a value. -/
def Outcome.printed (value : Json) : Outcome := { stdout := value.pretty ++ "\n" }

/-- The name and the version of the program. -/
def versionLine : String := "codescout 0.0.0"

/-- The text that explains the program. -/
def helpText : String :=
  "Semantic symbol and reference search backed by language servers\n\n"
    ++ "Usage: codescout [OPTIONS] <COMMAND>\n\n"
    ++ "Commands: serve, symbols, references, status, restart, stop, supervise, help\n"

/-- How a command line ends that asks for nothing to be done. -/
def Outcome.halted : Halt → Outcome
  | .help => { stdout := helpText }
  | .version => { stdout := versionLine ++ "\n" }
  | .misuse => { code := 2, stderr := "error: wrong usage; see `codescout --help`\n" }

/-! ### Setups -/

/-- Where and how a command line is followed. -/
structure Setup where
  /-- The root of the workspace, without links and dots. -/
  workspace : Path
  config : Config
  port : Nat
  command : Command

/-- Settles where and how a command line is followed. The error is a message. -/
def Setup.of (environment : Environment) (tree : Tree) (home current : Path)
    (line : CommandLine) : Except String Setup := do
  let path := line.workspace.getD current
  match tree.canonical (current.join path) with
  | .error _ => throw ("workspace " ++ path ++ " is not accessible")
  | .ok workspace =>
    match Config.load environment tree home workspace with
    | .error _ => throw "failed to load configuration"
    | .ok config =>
      return {
        workspace, config, command := line.command
        port := (line.port.map UInt16.toNat).getD config.proxy.port }

/-- The proxy that serves a workspace under a configuration. -/
def configuredProxy (workspace : Path) (config : Config) : Proxy where
  workspace
  cache :=
    { servers := config.servers
      settings :=
        { session := config.session, adapter := config.adapter, cache := config.cache } }
  healthInterval := config.proxy.healthInterval

/-- The proxy that a setup serves. -/
def Setup.proxy (setup : Setup) : Proxy := configuredProxy setup.workspace setup.config

/-! ### Plans -/

/-- What a command does. -/
inductive Plan where
  | done (outcome : Outcome)
  /-- A proxy is launched if there is none. -/
  | ensure (next : Launched → Plan)
  /-- A proxy is launched in place of the one there is. -/
  | force (next : Launched → MonitorStatus → Plan)
  | call (call : ClientCall) (next : Except ClientError ClientReply → Plan)
  /-- The proxy of the setup serves until it is told to stop, if its port is free. -/
  | serve (next : Bool → Plan)
  /-- The proxy is asked about its health again and again until the command is interrupted, and its
      process is killed then. -/
  | watch (next : MonitorStatus → Plan)

namespace Plan

/-- The command ends with an error. -/
def fail (message : String) : Plan := .done (.failed message)

/-- The command prints what the proxy answers to a call. -/
def printAnswer (call : ClientCall) : Plan :=
  .call call fun result =>
    match result with
    | .ok reply => .done (.printed reply.toJson)
    | .error error => fail error.message

/-- The message for a port on which no proxy answers. -/
def silentPort (port : Nat) : String := "no proxy listening on port " ++ toString port

/-- A proxy is made to run, and must serve the workspace, before anything else is done. -/
def withProxy (workspace : Path) (next : Plan) : Plan :=
  .ensure fun launched =>
    match launched with
    | .error error => fail error.message
    | .ok () =>
      .call .health fun result =>
        match result with
        | .error error => fail error.message
        | .ok (.readiness answer) =>
          if Path.same answer.workspace workspace then next
          else
            fail ("proxy on this port serves " ++ answer.workspace ++ ", not " ++ workspace
              ++ "; pass --port to use another instance")
        | .ok _ => fail ClientError.malformed.message

end Plan

/-- The plan of a command. -/
def Setup.plan (setup : Setup) : Plan :=
  match setup.command with
  | .serve =>
    .serve fun hasServed =>
      if hasServed then .done {} else .fail ("proxy failed on port " ++ toString setup.port)
  | .symbols query ecosystems =>
    .withProxy setup.workspace (.printAnswer (.symbols ⟨query, ecosystems⟩))
  | .references document line character includeDeclaration =>
    .withProxy setup.workspace
      (.printAnswer (.references ⟨document, ⟨line, character⟩, includeDeclaration⟩))
  | .status =>
    .call .report fun result =>
      match result with
      | .ok reply => .done (.printed reply.toJson)
      | .error error =>
        .fail (if error.isUnreachable then Plan.silentPort setup.port else error.message)
  | .restart =>
    .force fun launched status =>
      match launched with
      | .ok () => .done (.printed status.toJson)
      | .error error => .fail error.message
  | .stop =>
    .call .shutdown fun result =>
      match result with
      | .ok _ => .done {}
      | .error error =>
        if error.isUnreachable then .done { stderr := Plan.silentPort setup.port ++ "\n" }
        else .fail error.message
  | .supervise =>
    .ensure fun launched =>
      match launched with
      | .error error => .fail error.message
      | .ok () =>
        .watch fun status =>
          .done { Outcome.printed status.toJson with
            stderr := "supervising proxy on port " ++ toString setup.port
              ++ "; press Ctrl-C to stop\n" }

end SymbolSearch.Cli
