import Emplace.Admission.Commands
import Emplace.Admission.Requesters
import Emplace.Bench.Exchange
import Emplace.Bench.Fleet
import Emplace.Bench.Reload
import Emplace.Bench.Script
import Emplace.Cipher
import Emplace.Cipher.Aes256
import Emplace.Cipher.Gcm
import Emplace.Cipher.Sha256
import Emplace.Daemon.Command
import Emplace.Daemon.Startup
import Emplace.Device.Admission
import Emplace.Device.Dispatch
import Emplace.Device.Exchange
import Emplace.Device.Interface
import Emplace.Device.Invoke
import Emplace.Device.Placement
import Emplace.Device.Profile
import Emplace.Device.Reload
import Emplace.Device.Scoring
import Emplace.Device.Tables
import Emplace.Dispatch.Error
import Emplace.Duration
import Emplace.Failure
import Emplace.Files.Bandwidth
import Emplace.Files.Disk
import Emplace.Files.Path
import Emplace.Files.Tree
import Emplace.Files.Walk
import Emplace.Http.Address
import Emplace.Http.Attempt
import Emplace.Http.Client
import Emplace.Http.Lookup
import Emplace.Http.MediaType
import Emplace.Http.Router
import Emplace.Http.Status
import Emplace.Http.Target
import Emplace.Invocation
import Emplace.Json.Reader
import Emplace.Json.Text
import Emplace.Json.Value
import Emplace.Main
import Emplace.Number.Rounded
import Emplace.Number.Shortest
import Emplace.Peers.Registry
import Emplace.Peers.Tracking
import Emplace.Placement
import Emplace.Procedure
import Emplace.Program.Escape
import Emplace.Program.Executable
import Emplace.Program.Execute
import Emplace.Program.Finished
import Emplace.Program.Format
import Emplace.Program.Host
import Emplace.Program.Launcher
import Emplace.Program.Launcher.Environment
import Emplace.Program.Launcher.Repeated
import Emplace.Program.Launcher.Setting
import Emplace.Program.Launcher.Timeout
import Emplace.Program.Pattern
import Emplace.Program.Question
import Emplace.Program.Raw
import Emplace.Program.Regex
import Emplace.Program.Shell
import Emplace.Program.Shell.Arithmetic
import Emplace.Program.Shell.Builtin
import Emplace.Program.Shell.Builtin.Limit
import Emplace.Program.Shell.Builtin.Option
import Emplace.Program.Shell.Builtin.Place
import Emplace.Program.Shell.Builtin.Signalling
import Emplace.Program.Shell.Builtin.Variable
import Emplace.Program.Shell.Command
import Emplace.Program.Shell.Condition
import Emplace.Program.Shell.Expansion
import Emplace.Program.Shell.Lookup
import Emplace.Program.Shell.Pathname
import Emplace.Program.Shell.Redirecting
import Emplace.Program.Shell.Run
import Emplace.Program.Shell.Running
import Emplace.Program.Shell.Script
import Emplace.Program.Shell.Session
import Emplace.Program.Shell.Signal
import Emplace.Program.Shell.State
import Emplace.Program.Shell.Word
import Emplace.Program.Utility
import Emplace.Program.Utility.Argument
import Emplace.Program.Utility.Column
import Emplace.Program.Utility.Editing
import Emplace.Program.Utility.Editing.Script
import Emplace.Program.Utility.Expression
import Emplace.Program.Utility.Filter
import Emplace.Program.Utility.Grep
import Emplace.Program.Utility.Input
import Emplace.Program.Utility.Interval
import Emplace.Program.Utility.Printing
import Emplace.Program.Utility.Sort
import Emplace.Program.Utility.Test
import Emplace.Program.Utility.Translate
import Emplace.Proofs.Admission.Checks
import Emplace.Proofs.Admission.Filters
import Emplace.Proofs.Bench.Forwarding
import Emplace.Proofs.Bench.Playing
import Emplace.Proofs.Bench.Rounds
import Emplace.Proofs.Cipher.Blocks
import Emplace.Proofs.Cipher.Opening
import Emplace.Proofs.Cipher.RoundTrip
import Emplace.Proofs.Device.Admitted
import Emplace.Proofs.Device.Clearance
import Emplace.Proofs.Device.Closing
import Emplace.Proofs.Device.Dispatching
import Emplace.Proofs.Device.Engine
import Emplace.Proofs.Device.Invoking
import Emplace.Proofs.Device.Payloads
import Emplace.Proofs.Device.Performance
import Emplace.Proofs.Device.Placed
import Emplace.Proofs.Device.Placing
import Emplace.Proofs.Device.Publishing
import Emplace.Proofs.Device.Receiving
import Emplace.Proofs.Device.Reloading
import Emplace.Proofs.Device.Rescanning
import Emplace.Proofs.Device.Rounds
import Emplace.Proofs.Device.Sampling
import Emplace.Proofs.Device.Steps
import Emplace.Proofs.Device.Succession
import Emplace.Proofs.Device.Traffic
import Emplace.Proofs.Device.Writing
import Emplace.Proofs.Duration.Written
import Emplace.Proofs.Files.Alike
import Emplace.Proofs.Files.Averaging
import Emplace.Proofs.Files.Descent
import Emplace.Proofs.Files.Listing
import Emplace.Proofs.Files.Resolving
import Emplace.Proofs.Files.Services
import Emplace.Proofs.Fleet.Agreement
import Emplace.Proofs.Fleet.AtMostOnce
import Emplace.Proofs.Fleet.Forwarding
import Emplace.Proofs.Fleet.Network
import Emplace.Proofs.Fleet.Transparent
import Emplace.Proofs.Http.Routes
import Emplace.Proofs.Http.Serving
import Emplace.Proofs.Json.Numbers
import Emplace.Proofs.Json.Skipping
import Emplace.Proofs.Json.Strings
import Emplace.Proofs.Number.Doubles
import Emplace.Proofs.Peers.History
import Emplace.Proofs.Peers.LastWrite
import Emplace.Proofs.Peers.Tracked
import Emplace.Proofs.Placement.Foremost
import Emplace.Proofs.Placement.Selection
import Emplace.Proofs.Procedure.Play
import Emplace.Proofs.Procedure.Questions
import Emplace.Proofs.Record.Distinct
import Emplace.Proofs.Record.Exchanged
import Emplace.Proofs.Record.Faithful
import Emplace.Proofs.Scoring.Order
import Emplace.Proofs.Settings.RoundTrip
import Emplace.Proofs.Text.Numeral
import Emplace.Proofs.Text.Trimming
import Emplace.Proofs.Text.Utf8
import Emplace.Proofs.Toml.Documents
import Emplace.Proofs.Toml.Strings
import Emplace.Proofs.Toml.Values
import Emplace.Record.Shape
import Emplace.Record.Wire
import Emplace.Roster
import Emplace.Score
import Emplace.Scoring.Formula
import Emplace.Service
import Emplace.Settings
import Emplace.SystemError
import Emplace.Telemetry
import Emplace.Text.Blank
import Emplace.Text.Hex
import Emplace.Text.Numeral
import Emplace.Text.Printable
import Emplace.Text.Quoted
import Emplace.Text.Utf8
import Emplace.Toml.Document
import Emplace.Toml.Printer
import Emplace.Toml.Scalar
import Emplace.Toml.Table
import Emplace.Toml.Value
