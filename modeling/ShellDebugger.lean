import ShellDebugger.Command.Basic
import ShellDebugger.CommandLine.Argument
import ShellDebugger.CommandLine.Options
import ShellDebugger.CommandLine.Usage
import ShellDebugger.Completion.FileNames
import ShellDebugger.Console.Invocation
import ShellDebugger.Console.Lifetime
import ShellDebugger.Console.LineReader
import ShellDebugger.Console.Loop
import ShellDebugger.Debugger.Basic
import ShellDebugger.Host.Executable
import ShellDebugger.Host.Exit
import ShellDebugger.Host.FileTree
import ShellDebugger.Host.IoError
import ShellDebugger.Host.Path
import ShellDebugger.Host.Plan
import ShellDebugger.Host.Time
import ShellDebugger.Log.Filter
import ShellDebugger.Log.Record
import ShellDebugger.Machine.Basic
import ShellDebugger.Machine.Pipes
import ShellDebugger.Machine.Process
import ShellDebugger.Main
import ShellDebugger.Number.Binary64
import ShellDebugger.Proofs.Command.Parsing
import ShellDebugger.Proofs.Completion.Acceptance
import ShellDebugger.Proofs.Completion.Cursor
import ShellDebugger.Proofs.Completion.Names
import ShellDebugger.Proofs.Console.Agenda
import ShellDebugger.Proofs.Console.Lifetime
import ShellDebugger.Proofs.Console.LineReader
import ShellDebugger.Proofs.Debugger.Listing
import ShellDebugger.Proofs.Debugger.Loading
import ShellDebugger.Proofs.Debugger.Reachable
import ShellDebugger.Proofs.Debugger.Submissions
import ShellDebugger.Proofs.Host.FileTree
import ShellDebugger.Proofs.Host.PlainSystem
import ShellDebugger.Proofs.Host.PlanRuns
import ShellDebugger.Proofs.Machine.FreeNames
import ShellDebugger.Proofs.Machine.Ownership
import ShellDebugger.Proofs.Machine.Pipes
import ShellDebugger.Proofs.Machine.Watching
import ShellDebugger.Proofs.Session.Chronicle
import ShellDebugger.Proofs.Session.Delivery
import ShellDebugger.Proofs.Session.Holdings
import ShellDebugger.Proofs.Session.LiveShell
import ShellDebugger.Proofs.Session.PipeNames
import ShellDebugger.Proofs.Session.SingleSession
import ShellDebugger.Proofs.Session.Source
import ShellDebugger.Proofs.Session.Stages
import ShellDebugger.Proofs.Session.StartOutcome
import ShellDebugger.Proofs.Session.Status
import ShellDebugger.Proofs.Session.Teardown
import ShellDebugger.Proofs.Session.TeardownOrder
import ShellDebugger.Proofs.Session.Watch
import ShellDebugger.Proofs.Settings.Decode
import ShellDebugger.Proofs.Settings.Json
import ShellDebugger.Proofs.Settings.JsonText
import ShellDebugger.Proofs.Settings.Layers
import ShellDebugger.Proofs.Settings.Overlay
import ShellDebugger.Proofs.Source.Lines
import ShellDebugger.Proofs.Source.PageCycle
import ShellDebugger.Proofs.Source.Paging
import ShellDebugger.Proofs.Source.Printing
import ShellDebugger.Proofs.Source.Progress
import ShellDebugger.Proofs.Source.Requests
import ShellDebugger.Proofs.Source.Rows
import ShellDebugger.Proofs.Source.TextLines
import ShellDebugger.Proofs.Source.Writing
import ShellDebugger.Proofs.Stream.Chunks
import ShellDebugger.Proofs.Stream.Feeding
import ShellDebugger.Proofs.Stream.Outflow
import ShellDebugger.Proofs.Stream.Outlet
import ShellDebugger.Proofs.Stream.Relay
import ShellDebugger.Proofs.Stream.Relaying
import ShellDebugger.Proofs.Stream.Scribe
import ShellDebugger.Proofs.Stream.Writer
import ShellDebugger.Proofs.Text.Utf8
import ShellDebugger.Proofs.Text.WrittenWords
import ShellDebugger.Schedule
import ShellDebugger.Script.Activity
import ShellDebugger.Script.Arithmetic
import ShellDebugger.Script.Builtins
import ShellDebugger.Script.Builtins.Basic
import ShellDebugger.Script.Builtins.Directory
import ShellDebugger.Script.Builtins.Naming
import ShellDebugger.Script.Builtins.Options
import ShellDebugger.Script.Builtins.Reading
import ShellDebugger.Script.Builtins.Signals
import ShellDebugger.Script.Condition
import ShellDebugger.Script.Evaluation
import ShellDebugger.Script.Evaluation.Call
import ShellDebugger.Script.Evaluation.Mode
import ShellDebugger.Script.Evaluation.Process
import ShellDebugger.Script.Evaluation.Redirection
import ShellDebugger.Script.Expansion
import ShellDebugger.Script.Format
import ShellDebugger.Script.Grammar
import ShellDebugger.Script.Pattern
import ShellDebugger.Script.Programs.Basic
import ShellDebugger.Script.Programs.Cat
import ShellDebugger.Script.Programs.Head
import ShellDebugger.Script.Programs.Silent
import ShellDebugger.Script.Programs.Tr
import ShellDebugger.Script.Quantity
import ShellDebugger.Script.Reader
import ShellDebugger.Script.Reader.Source
import ShellDebugger.Script.Reader.Word
import ShellDebugger.Script.Shell
import ShellDebugger.Script.System
import ShellDebugger.Script.World
import ShellDebugger.Session.Child
import ShellDebugger.Session.Driver
import ShellDebugger.Session.Error
import ShellDebugger.Session.Operation
import ShellDebugger.Session.ScriptPipe
import ShellDebugger.Session.Traffic
import ShellDebugger.Session.Watch
import ShellDebugger.Settings.Basic
import ShellDebugger.Settings.Decode
import ShellDebugger.Settings.Error
import ShellDebugger.Settings.Json
import ShellDebugger.Settings.JsonText
import ShellDebugger.Settings.Layers
import ShellDebugger.Source.Navigator
import ShellDebugger.Stream.Channel
import ShellDebugger.Stream.Feeding
import ShellDebugger.Stream.Outflow
import ShellDebugger.Stream.Relay
import ShellDebugger.Stream.Scribe
import ShellDebugger.Stream.Writer
import ShellDebugger.Text.ControlSequence
import ShellDebugger.Text.Grapheme
import ShellDebugger.Text.Numeral
import ShellDebugger.Text.Printable
import ShellDebugger.Text.Similarity
import ShellDebugger.Text.Utf8
import ShellDebugger.Text.Words
