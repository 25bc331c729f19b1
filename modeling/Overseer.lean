import Overseer.Command.Line
import Overseer.Command.Placeholder
import Overseer.Command.Words
import Overseer.Environment
import Overseer.Errno
import Overseer.Execution.Plan
import Overseer.Execution.Run
import Overseer.Execution.World
import Overseer.ExitStatus
import Overseer.Fault
import Overseer.File.Path
import Overseer.File.Search
import Overseer.File.System
import Overseer.File.Tree
import Overseer.Journal.Level
import Overseer.Journal.Line
import Overseer.Journal.Notice
import Overseer.Machine.Activity
import Overseer.Machine.Child
import Overseer.Machine.Escape
import Overseer.Machine.Format
import Overseer.Machine.Handle
import Overseer.Machine.Host
import Overseer.Machine.Host.Basic
import Overseer.Machine.Host.Launch
import Overseer.Machine.Host.Pumping
import Overseer.Machine.Image
import Overseer.Machine.Kernel
import Overseer.Machine.Limit
import Overseer.Machine.Options
import Overseer.Machine.Pipe
import Overseer.Machine.Printing
import Overseer.Machine.Schedule
import Overseer.Machine.Signal
import Overseer.Machine.Tool
import Overseer.Machine.Tool.Amount
import Overseer.Machine.Tool.Cat
import Overseer.Machine.Tool.Collation
import Overseer.Machine.Tool.Columns
import Overseer.Machine.Tool.Head
import Overseer.Machine.Tool.List
import Overseer.Machine.Tool.Print
import Overseer.Machine.Tool.Sleep
import Overseer.Machine.Tool.Sort
import Overseer.Machine.Tool.Source
import Overseer.Process
import Overseer.Proofs.Command.Extension
import Overseer.Proofs.Command.Layout
import Overseer.Proofs.Command.Rendering
import Overseer.Proofs.Command.Template
import Overseer.Proofs.Environment.Codec
import Overseer.Proofs.Environment.Snapshot
import Overseer.Proofs.Execution.Cleanup
import Overseer.Proofs.Execution.Course
import Overseer.Proofs.Execution.Debts
import Overseer.Proofs.Execution.Destruction
import Overseer.Proofs.Execution.Disturbance
import Overseer.Proofs.Execution.Frame
import Overseer.Proofs.Execution.Interruption
import Overseer.Proofs.Execution.Mark
import Overseer.Proofs.Execution.Outcome
import Overseer.Proofs.Execution.Watch
import Overseer.Proofs.File.Search
import Overseer.Proofs.Fleet.Basic
import Overseer.Proofs.Fleet.Blame
import Overseer.Proofs.Fleet.Claims
import Overseer.Proofs.Fleet.Disturbance
import Overseer.Proofs.Fleet.Eviction
import Overseer.Proofs.Fleet.References
import Overseer.Proofs.Fleet.Released
import Overseer.Proofs.Fleet.Tenure
import Overseer.Proofs.Machine.Launching
import Overseer.Proofs.Machine.Reaping
import Overseer.Proofs.Machine.Wiring
import Overseer.Proofs.Pump.Account
import Overseer.Proofs.Pump.Chronicle
import Overseer.Proofs.Pump.Collection
import Overseer.Proofs.Pump.Delivery
import Overseer.Proofs.Pump.Feeding
import Overseer.Proofs.Pump.Sharing
import Overseer.Proofs.Pump.Station
import Overseer.Proofs.Registry.History
import Overseer.Proofs.Stream.Pool
import Overseer.Proofs.Supervisor.Agreement
import Overseer.Proofs.Supervisor.Alike
import Overseer.Proofs.Supervisor.Await
import Overseer.Proofs.Supervisor.Callback
import Overseer.Proofs.Supervisor.Capture
import Overseer.Proofs.Supervisor.Crowd
import Overseer.Proofs.Supervisor.Joining
import Overseer.Proofs.Supervisor.Ledger
import Overseer.Proofs.Supervisor.Meeting
import Overseer.Proofs.Supervisor.Move
import Overseer.Proofs.Supervisor.Step
import Overseer.Proofs.Supervisor.Touch
import Overseer.Proofs.Supervisor.Turns
import Overseer.Proofs.Watchdog.History
import Overseer.Proofs.Watchdog.Punctuality
import Overseer.Pump.Drain
import Overseer.Pump.Feed
import Overseer.Pump.Reservoir
import Overseer.Pump.Session
import Overseer.Pump.Sink
import Overseer.Pump.Step
import Overseer.Registry
import Overseer.ResultBox
import Overseer.Script.Cast
import Overseer.Script.Handler
import Overseer.Script.Narration
import Overseer.Script.Process
import Overseer.Script.Rehearsal
import Overseer.Script.Round
import Overseer.Shell.Alias
import Overseer.Shell.Arithmetic
import Overseer.Shell.Builtin
import Overseer.Shell.Builtin.Job
import Overseer.Shell.Builtin.Print
import Overseer.Shell.Builtin.Process
import Overseer.Shell.Builtin.Variable
import Overseer.Shell.Evaluation
import Overseer.Shell.Field
import Overseer.Shell.Job
import Overseer.Shell.Nest
import Overseer.Shell.Option
import Overseer.Shell.Parameter
import Overseer.Shell.Pattern
import Overseer.Shell.Program
import Overseer.Shell.Reader
import Overseer.Shell.Redirection
import Overseer.Shell.Search
import Overseer.Shell.State
import Overseer.Shell.Syntax
import Overseer.Shell.Test
import Overseer.Shell.Token
import Overseer.Stream.Descriptor
import Overseer.Stream.Owned
import Overseer.Stream.Shelf
import Overseer.Supervisor.Basic
import Overseer.Supervisor.Call
import Overseer.Supervisor.Control
import Overseer.Supervisor.Settings
import Overseer.Supervisor.Signal
import Overseer.Supervisor.Worker
import Overseer.Text.Bytes
import Overseer.Text.Floating
import Overseer.Text.Floating.Print
import Overseer.Text.Hex
import Overseer.Text.NameMap
import Overseer.Text.Numeral
import Overseer.Text.Quoting
import Overseer.Text.Significant
import Overseer.Text.Size
import Overseer.Text.Version
import Overseer.Watchdog.Basic
import Overseer.Watchdog.Deadline
