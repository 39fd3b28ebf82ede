import ScriptHost.Buffer
import ScriptHost.Capability.Basic
import ScriptHost.Capability.Library
import ScriptHost.Capability.Vault
import ScriptHost.Disk
import ScriptHost.Errno
import ScriptHost.Error
import ScriptHost.Interest
import ScriptHost.Journal
import ScriptHost.Json.Basic
import ScriptHost.Json.Fault
import ScriptHost.Json.Printer
import ScriptHost.Json.Reader
import ScriptHost.Kernel.Basic
import ScriptHost.Kernel.Clock
import ScriptHost.Kernel.ReadyList
import ScriptHost.Loop.Dispatch
import ScriptHost.Loop.EventLoop
import ScriptHost.Loop.Poller
import ScriptHost.Loop.Streams
import ScriptHost.Loop.Timers
import ScriptHost.Main
import ScriptHost.Module.Record
import ScriptHost.Module.Require
import ScriptHost.Module.Search
import ScriptHost.Module.Specifier
import ScriptHost.Number.Binary64
import ScriptHost.Number.Decimal
import ScriptHost.Number.Shortest
import ScriptHost.Options
import ScriptHost.Path
import ScriptHost.Proofs.Capability.Accounts
import ScriptHost.Proofs.Capability.Calls
import ScriptHost.Proofs.Capability.Clients
import ScriptHost.Proofs.Capability.Custody
import ScriptHost.Proofs.Capability.Loading
import ScriptHost.Proofs.Capability.Order
import ScriptHost.Proofs.Capability.Tallies
import ScriptHost.Proofs.Kernel.Aside
import ScriptHost.Proofs.Kernel.Clocks
import ScriptHost.Proofs.Kernel.Fronts
import ScriptHost.Proofs.Kernel.Lines
import ScriptHost.Proofs.Kernel.Prompt
import ScriptHost.Proofs.Kernel.Reading
import ScriptHost.Proofs.Kernel.Shifts
import ScriptHost.Proofs.Kernel.Sparing
import ScriptHost.Proofs.Kernel.Standing
import ScriptHost.Proofs.Loop.Arming
import ScriptHost.Proofs.Loop.Cancelling
import ScriptHost.Proofs.Loop.Clockwork
import ScriptHost.Proofs.Loop.Deadlines
import ScriptHost.Proofs.Loop.Delivery
import ScriptHost.Proofs.Loop.Draining
import ScriptHost.Proofs.Loop.Isolation
import ScriptHost.Proofs.Loop.Joining
import ScriptHost.Proofs.Loop.Lifecycle
import ScriptHost.Proofs.Loop.Lineup
import ScriptHost.Proofs.Loop.Mirroring
import ScriptHost.Proofs.Loop.Moves
import ScriptHost.Proofs.Loop.Neighbours
import ScriptHost.Proofs.Loop.OneShot
import ScriptHost.Proofs.Loop.Ownership
import ScriptHost.Proofs.Loop.Punctuality
import ScriptHost.Proofs.Loop.Registrations
import ScriptHost.Proofs.Loop.Scheduling
import ScriptHost.Proofs.Loop.Serving
import ScriptHost.Proofs.Loop.Stack
import ScriptHost.Proofs.Loop.Steps
import ScriptHost.Proofs.Loop.Tables
import ScriptHost.Proofs.Loop.Timekeeping
import ScriptHost.Proofs.Loop.Timetable
import ScriptHost.Proofs.Loop.Turns
import ScriptHost.Proofs.Loop.Watchfulness
import ScriptHost.Proofs.Modules.Aliases
import ScriptHost.Proofs.Modules.Bodies
import ScriptHost.Proofs.Modules.Circular
import ScriptHost.Proofs.Modules.Effects
import ScriptHost.Proofs.Modules.Growth
import ScriptHost.Proofs.Modules.Keys
import ScriptHost.Proofs.Modules.Once
import ScriptHost.Proofs.Modules.Payloads
import ScriptHost.Proofs.Modules.Replay
import ScriptHost.Proofs.Modules.Resolution
import ScriptHost.Proofs.Modules.Running
import ScriptHost.Proofs.Modules.Sources
import ScriptHost.Proofs.Modules.Tracking
import ScriptHost.Proofs.Paths.Ancestors
import ScriptHost.Proofs.Paths.Lexical
import ScriptHost.Proofs.Paths.LookUps
import ScriptHost.Proofs.Paths.Naming
import ScriptHost.Proofs.Paths.Resolving
import ScriptHost.Proofs.Runs.History
import ScriptHost.Proofs.Runs.Indifference
import ScriptHost.Proofs.Runs.Keeping
import ScriptHost.Proofs.Runs.Parts
import ScriptHost.Proofs.Runs.Scripts
import ScriptHost.Proofs.Startup.Building
import ScriptHost.Proofs.Startup.Flags
import ScriptHost.Proofs.Startup.Input
import ScriptHost.Proofs.Startup.Nearest
import ScriptHost.Proofs.Startup.Workers
import ScriptHost.Proofs.Text.Buffers
import ScriptHost.Proofs.Text.Copying
import ScriptHost.Proofs.Text.Decoding
import ScriptHost.Proofs.Values.RoundTrip
import ScriptHost.Script.Basic
import ScriptHost.Script.Exec
import ScriptHost.Script.Perform
import ScriptHost.Script.Program
import ScriptHost.Script.Request
import ScriptHost.Script.Session
import ScriptHost.Settings
import ScriptHost.Shared
import ScriptHost.Startup.Bootstrap
import ScriptHost.Startup.Host
import ScriptHost.Startup.Mode
import ScriptHost.Startup.Run
import ScriptHost.Table
import ScriptHost.Text.Hidden
import ScriptHost.Text.Pieces
import ScriptHost.Text.Quoted
import ScriptHost.Text.Utf8
import ScriptHost.Toml.Basic
import ScriptHost.Toml.Document
import ScriptHost.Toml.Scalar
import ScriptHost.Value
import ScriptHost.World
