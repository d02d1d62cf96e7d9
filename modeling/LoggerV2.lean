import LoggerV2.Library.System
import LoggerV2.Library.Text
import LoggerV2.Library.Digits
import LoggerV2.Library.OptionString
import LoggerV2.Library.Program
import LoggerV2.Library.RefCount
import LoggerV2.Library.Interleaving
import LoggerV2.Library.Ownership
import LoggerV2.Library.Traces
import LoggerV2.Library.Histories
import LoggerV2.Library.Split
import LoggerV2.Library.Substitution
import LoggerV2.Library.Utf8
import LoggerV2.HelpText
import LoggerV2.Flags.Types
import LoggerV2.Flags.Absl
import LoggerV2.Flags.Format
import LoggerV2.Flags.Parse
import LoggerV2.Flags.Accept
import LoggerV2.Flags.Reads
import LoggerV2.Flags.Caret
import LoggerV2.Flags.Assign
import LoggerV2.Flags.Window
import LoggerV2.Flags.Ranges
import LoggerV2.Flags.Admissible
import LoggerV2.Flags.RoundTrip
import LoggerV2.Flags.Order
import LoggerV2.Flags.Reachable
import LoggerV2.Flags.Errors
import LoggerV2.Client.Config
import LoggerV2.Client.Transmitted
import LoggerV2.P7.World
import LoggerV2.Client.Construct
import LoggerV2.Client.Accounts
import LoggerV2.Client.Granted
import LoggerV2.Client.Outcome
import LoggerV2.Client.Failure
import LoggerV2.Client.Contracts
import LoggerV2.Client.Interleaved
import LoggerV2.Handles.Process
import LoggerV2.Handles.Safety
import LoggerV2.Handles.Plain
import LoggerV2.Exit.Handler
import LoggerV2.Exit.Termination
import LoggerV2.Exit.Report
import LoggerV2.Handles.Names
import LoggerV2.Exit.Outcome
import LoggerV2.Client.Threads
import LoggerV2.Client.Concurrent
import LoggerV2.Client.Progress
import LoggerV2.Telemetry.Channels
import LoggerV2.Telemetry.Denotation
import LoggerV2.Telemetry.Quiet
import LoggerV2.Telemetry.Persistence
import LoggerV2.Telemetry.Lifetimes
import LoggerV2.Log.RawTrace
import LoggerV2.Log.Concurrent
import LoggerV2.Log.MetaFuncs
import LoggerV2.Log.Overloads
import LoggerV2.Log.Calls
import LoggerV2.Log.Capture
import LoggerV2.Exit.Lines
