import LoggerV2.Client.Config
import LoggerV2.P7.World

/-!
# Constructors and destructors

`Client(name)`, `Log(name)` and `Telemetry(name)` as programs over the P7 calls. A
constructor looks the name up and otherwise creates and shares an object; a channel is
created on the client `"main"`, which a local `Client` holds meanwhile. A client that is
created registers the exit handler and the signal handlers first.
-/

namespace LoggerV2

open Verification

/-- The signals in the order in which `RegisterUnixCrashHandlers` takes them. -/
def handledSignals : List Signal :=
  [.sigabrt, .sigbus, .sigfpe, .sighup, .sigill, .sigint, .sigpipe, .sigpwr, .sigquit,
    .sigsegv, .sigtstp, .sigsys, .sigterm, .sigxcpu, .sigxfsz]

/-- No signal is left out. -/
theorem mem_handledSignals (signal : Signal) : signal ∈ handledSignals := by
  cases signal <;> decide

/-- Register a handler for each signal, and throw at the first that is refused. -/
def registerSignalHandlers : List Signal → P7Program Unit
  | [] => pure ()
  | signal :: rest => do
    if ← p7 (.sigaction signal) then registerSignalHandlers rest
    else .fail (ascii "Signal handler registration failed for " ++ signal.name)

/-- `Client::RegisterUnixCrashHandlers`. -/
def registerUnixCrashHandlers : P7Program Unit := do
  let data ← p7 .atexitData
  if data.backtraceData = none then
    p7 .mallocBacktrace
  if ← p7 .atexit then registerSignalHandlers handledSignals
  else .fail (ascii "Registration of atexit function for signal processing")

/-- Create an object of the kind, share it under the name, and keep the references `retain`
takes. -/
def createShared (kind : Kind) (create : P7Program (Option Nat)) (createFailed shareFailed : Text)
    (retain : Nat → P7Program Unit) (name : Text) : P7Program Nat := do
  match ← create with
  | none => .fail createFailed
  | some object =>
    if ← p7 (.share kind object (cStr name)) then
      retain object
      pure object
    else .fail shareFailed

/-- `Client::Client(name)`; the value is `client_`. -/
def Client.construct (name : Text) : P7Program Nat := do
  match ← p7 (.getShared .client (cStr name)) with
  | some client => pure client
  | none =>
    registerUnixCrashHandlers
    let flags ← p7 .getFlags
    createShared .client (p7 (.createClient (cStr (createClientConfig flags))))
      (ascii "P7_Create_Client failed") (ascii "client_->Share(" ++ name ++ ascii ") failed.")
      (fun _ => pure ()) name

/-- The destructors release what their pointer points at. -/
def destruct : Option Nat → P7Program Unit
  | none => pure ()
  | some object => p7 (.release object)

/-- What `Log::Log` and `Telemetry::Telemetry` share. The local client is destroyed when
the block ends. -/
def constructChannel (kind : Kind) (createFailed shareFailed : Text)
    (retain : Nat → P7Program Unit) (name : Text) : P7Program Nat := do
  match ← p7 (.getShared kind (cStr name)) with
  | some channel => pure channel
  | none =>
    let client ← Client.construct (ascii "main")
    Program.ensure
      (createShared kind (p7 (.createChannel kind client (cStr name))) createFailed shareFailed
        retain name)
      (destruct (some client))

/-- `Log::Log(name)`; the value is `trace_`. -/
def Log.construct (name : Text) : P7Program Nat :=
  constructChannel .trace (ascii "P7_Create_Trace failed")
    (ascii "trace_->Share(" ++ cStr name ++ ascii ") failed.") (fun _ => pure ()) name

/-- `Telemetry::Telemetry(name)`; the value is `telemetry_`. The object keeps one
reference more than the handle. -/
def Telemetry.construct (name : Text) : P7Program Nat :=
  constructChannel .telemetry (ascii "P7_Create_Telemetry failed")
    (ascii "telemetry_->Share(" ++ name ++ ascii ") failed.")
    (fun telemetry => p7 (.addRef telemetry)) name

/-- The constructor by name of a handle class. -/
def construct : Kind → Text → P7Program Nat
  | .client => Client.construct
  | .trace => Log.construct
  | .telemetry => Telemetry.construct

end LoggerV2
