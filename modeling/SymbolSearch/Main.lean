import Std.Async.System
import Std.Async.TCP
import SymbolSearch.Cli.Plan
import SymbolSearch.Client.Basic

/-!
# The program

* `main` follows a command line: it asks the proxy on the port of the workspace. It launches no
  process of its own, so where a proxy has to be launched first, it says that there is none.
-/

namespace SymbolSearch.Program

open Std.Async Cli

/-- Everything that comes until the connection is closed. -/
partial def receiveAll (socket : TCP.Socket.Client) (done : ByteArray) : Async ByteArray := do
  match ← socket.recv? 65536 with
  | some bytes => receiveAll socket (done ++ bytes)
  | none => return done

/-- Sends a request to a port of this machine. -/
def exchange (port : Nat) (request : ClientRequest) : Async ClientResponse := do
  let socket ← TCP.Socket.Client.mk
  socket.connect (.v4 ⟨.ofParts 127 0 0 1, port.toUInt16⟩)
  socket.send (request.bytes port)
  return .ofBytes (← receiveAll socket .empty)

/-- Asks the proxy on a port. -/
def ask (port : Nat) (call : ClientCall) : IO (Except ClientError ClientReply) := do
  match call.request (loopback port) with
  | .error error => return .error (.invalidUrl error)
  | .ok request =>
    let response ← try (exchange port request).block catch _ => pure .unreachable
    return call.conclude response

/-- Why no proxy is launched. -/
def noLaunch : MonitorError := .spawnFailed "this program launches no processes"

/-- Follows a plan for a port. -/
def follow (port : Nat) : Plan → IO Outcome
  | .done outcome => return outcome
  | .ensure next => do
    match ← ask port .health with
    | .ok (.readiness answer) =>
      follow port (next (if answer.ready then .ok () else .error noLaunch))
    | _ => follow port (next (.error noLaunch))
  | .force next => follow port (next (.error noLaunch) (Monitor.status {}))
  | .call call next => do follow port (next (← ask port call))
  | .serve next => follow port (next false)
  | .watch next => follow port (next (Monitor.status {}))

/-- The files that a command line is about: its workspace, and the documents that configure it. -/
def readTree (home workspace : Path) : IO Tree := do
  let mut tree := ({} : Tree).write workspace .directory
  for path in [Config.globalPath home, Config.workspacePath workspace] do
    let content ← try (some <$> IO.FS.readBinFile path) catch _ => pure none
    if let some content := content then tree := tree.write path (.file content false)
  return tree

/-- A path without links and dots, if it leads anywhere. -/
def realPath? (path : Path) : IO (Option Path) :=
  try (some ∘ toString) <$> IO.FS.realPath path catch _ => pure none

/-- Follows a command line. -/
def run (line : CommandLine) : IO Outcome := do
  let environment := (← Std.Internal.UV.System.osEnviron).toList
  let home := (environment.lookup "HOME").getD ""
  let current : Path := toString (← IO.currentDir)
  let given := Path.join current (line.workspace.getD current)
  let (line, tree) ←
    match ← realPath? given with
    | some workspace =>
      pure ({ line with workspace := some workspace }, ← readTree home workspace)
    | none => pure (line, {})
  match Setup.of environment tree home current line with
  | .error message => return .failed message
  | .ok setup => follow setup.port setup.plan

end SymbolSearch.Program

/-- Follows the command line, and ends with its code. -/
def main (args : List String) : IO UInt32 := do
  let outcome ←
    match SymbolSearch.CommandLine.read args with
    | .error halt => pure (SymbolSearch.Cli.Outcome.halted halt)
    | .ok line => SymbolSearch.Program.run line
  IO.print outcome.stdout
  IO.eprint outcome.stderr
  return outcome.code.toUInt32
