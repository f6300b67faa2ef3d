import SymbolSearch.Adapter.Asking
import SymbolSearch.Adapter.Basic
import SymbolSearch.Api.Payload
import SymbolSearch.Cache.Basic
import SymbolSearch.Cache.Closing
import SymbolSearch.Cache.Ensuring
import SymbolSearch.Cache.Error
import SymbolSearch.Cli.Arguments
import SymbolSearch.Cli.Plan
import SymbolSearch.Client.Basic
import SymbolSearch.Config.Basic
import SymbolSearch.Config.Load
import SymbolSearch.Config.Sections
import SymbolSearch.Ecosystem
import SymbolSearch.Files.Glob
import SymbolSearch.Files.Tree
import SymbolSearch.Files.Uri
import SymbolSearch.Files.Walk
import SymbolSearch.Http.Message
import SymbolSearch.Json.Basic
import SymbolSearch.Json.Decode
import SymbolSearch.Json.Loose
import SymbolSearch.Json.Read
import SymbolSearch.Json.Shape
import SymbolSearch.Json.Write
import SymbolSearch.Lab.CacheScenario
import SymbolSearch.Lab.CliScenario
import SymbolSearch.Lab.ClientScenario
import SymbolSearch.Lab.Given
import SymbolSearch.Lab.LaunchScenario
import SymbolSearch.Lab.MonitorScenario
import SymbolSearch.Lab.ProcessScenario
import SymbolSearch.Lab.ProxyScenario
import SymbolSearch.Lab.Run
import SymbolSearch.Lab.Script
import SymbolSearch.Lab.SessionScenario
import SymbolSearch.Lab.Shell
import SymbolSearch.Lab.Spawner
import SymbolSearch.Lab.Transcript
import SymbolSearch.Lab.Wire
import SymbolSearch.Lab.World
import SymbolSearch.Lsp.Answer
import SymbolSearch.Lsp.Call
import SymbolSearch.Main
import SymbolSearch.Monitor.Gate
import SymbolSearch.Monitor.Keeping
import SymbolSearch.Monitor.Launching
import SymbolSearch.Proofs.Adapter.Homes
import SymbolSearch.Proofs.Adapter.Honesty
import SymbolSearch.Proofs.Api.Payloads
import SymbolSearch.Proofs.Cache.Deserted
import SymbolSearch.Proofs.Cache.Ensured
import SymbolSearch.Proofs.Cache.Identity
import SymbolSearch.Proofs.Cache.Routing
import SymbolSearch.Proofs.Config.Expansion
import SymbolSearch.Proofs.Config.Fieldwise
import SymbolSearch.Proofs.Config.Resolving
import SymbolSearch.Proofs.Lsp.Outline
import SymbolSearch.Proofs.Lsp.WorkspaceList
import SymbolSearch.Proofs.Monitor.Finality
import SymbolSearch.Proofs.Monitor.GateHistory
import SymbolSearch.Proofs.Monitor.GivingUp
import SymbolSearch.Proofs.Monitor.Restarting
import SymbolSearch.Proofs.Monitor.SingleFlight
import SymbolSearch.Proofs.Proxy.FanOut
import SymbolSearch.Proofs.Proxy.HealthPass
import SymbolSearch.Proofs.Rpc.Buffering
import SymbolSearch.Proofs.Rpc.Delivery
import SymbolSearch.Proofs.Rpc.Encoding
import SymbolSearch.Proofs.Rpc.Envelopes
import SymbolSearch.Proofs.Rpc.Reading
import SymbolSearch.Proofs.Scan.Columns
import SymbolSearch.Proofs.Scan.Identifiers
import SymbolSearch.Proofs.Scan.Names
import SymbolSearch.Proofs.Scan.Searching
import SymbolSearch.Proofs.Session.Deadlines
import SymbolSearch.Proofs.Session.Ended
import SymbolSearch.Proofs.Session.Failures
import SymbolSearch.Proofs.Session.Order
import SymbolSearch.Proofs.Session.Outcomes
import SymbolSearch.Proofs.Session.Replying
import SymbolSearch.Proofs.Time.Remembering
import SymbolSearch.Proxy.Answering
import SymbolSearch.Proxy.Basic
import SymbolSearch.Proxy.Request
import SymbolSearch.Proxy.Searching
import SymbolSearch.Proxy.Serving
import SymbolSearch.Rpc.Frame
import SymbolSearch.Rpc.Message
import SymbolSearch.Rpc.Source
import SymbolSearch.Scan.Scanner
import SymbolSearch.Server
import SymbolSearch.Session.Asking
import SymbolSearch.Session.Basic
import SymbolSearch.Session.Link
import SymbolSearch.Session.Pending
import SymbolSearch.Session.Starting
import SymbolSearch.Session.State
import SymbolSearch.Session.Stopping
import SymbolSearch.Session.Task
import SymbolSearch.Settings
import SymbolSearch.Symbol
import SymbolSearch.Sync.Broadcast
import SymbolSearch.Sync.Outbox
import SymbolSearch.Sync.Progress
import SymbolSearch.Sync.Turns
import SymbolSearch.Text.Class
import SymbolSearch.Text.Lower
import SymbolSearch.Text.Pattern
import SymbolSearch.Text.Property
import SymbolSearch.Text.Quoted
import SymbolSearch.Text.Utf8
import SymbolSearch.Time.Duration
import SymbolSearch.Time.Memo
import SymbolSearch.Toml.Basic
import SymbolSearch.Toml.Read
import SymbolSearch.Toml.Scalars
import SymbolSearch.Url.Escape
import SymbolSearch.Url.Host
import SymbolSearch.Url.Parse
