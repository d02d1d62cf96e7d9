import LoggerV2.Client.Granted

/-!
# The exit handler

A signal handler stores what it is told and calls `std::exit`. `ExitHandler` constructs
`Log("main")`, logs the report of the stored signal and flushes. `exitLoop` is exit
processing: registrations are taken back one by one, and handlers that are registered
meanwhile are called too.
-/

namespace LoggerV2

open Verification Verification.RefCount

/-- The lines of one `case` of the switch: a headline, the fields and, if there is one,
the backtrace. -/
def signalReport (headline : Level × Text) (detail : Level) (fields : List Text)
    (backtrace : Text) : List (Level × Text) :=
  headline :: fields.map (fun field => (detail, field)) ++
    if backtrace.length ≠ 0 then [(detail, ascii "Backtrace: \n" ++ backtrace)] else []

namespace SigInfo

/-- A pointer as `fmt` prints it. -/
def pointer (value : UInt64) : Text :=
  ascii "0x" ++ (Nat.toDigits 16 value.toNat).map fun char => UInt8.ofNat char.toNat

def errnoLine (info : SigInfo) : Text := ascii "siginfo->si_errno = " ++ decimal info.errno.toInt

def codeLine (info : SigInfo) : Text := ascii "siginfo->si_code  = " ++ decimal info.code.toInt

def addrLine (info : SigInfo) : Text := ascii "siginfo->si_addr  = " ++ pointer info.addr

def callAddrLine (info : SigInfo) : Text :=
  ascii "siginfo->si_call_addr = " ++ pointer info.callAddr

def syscallLine (info : SigInfo) : Text :=
  ascii "siginfo->si_syscall = " ++ decimal info.syscall.toInt

def archLine (info : SigInfo) : Text := ascii "siginfo->si_arch = " ++ decimal info.arch.toNat

end SigInfo

/-- The switch of `ExitHandler`. -/
def report (data : SignalLogData) (backtrace : Text) : List (Level × Text) :=
  let info := data.siginfo
  let plain := [info.errnoLine, info.codeLine]
  let addressed := [info.addrLine, info.errnoLine, info.codeLine]
  match data.sig with
  | some .sigabrt => signalReport (.critical, ascii "SIGABRT!") .error plain backtrace
  | some .sigbus => signalReport (.critical, ascii "SIGBUS!") .error addressed backtrace
  | some .sigfpe => signalReport (.critical, ascii "SIGFPE!") .error addressed backtrace
  | some .sighup => signalReport (.critical, ascii "SIGHUP!") .error plain backtrace
  | some .sigill => signalReport (.critical, ascii "SIGILL!") .error addressed backtrace
  | some .sigint => signalReport (.warning, ascii "SIGINT!") .info plain backtrace
  | some .sigpipe => signalReport (.critical, ascii "SIGPIPE!") .error plain backtrace
  | some .sigpwr => signalReport (.critical, ascii "SIGPWR!") .error plain backtrace
  | some .sigquit => signalReport (.critical, ascii "SIGQUIT!") .error plain backtrace
  | some .sigsegv =>
    signalReport (.critical, ascii "Segmentation fault!") .error addressed backtrace
  | some .sigtstp => signalReport (.critical, ascii "SIGTSTP!") .error plain backtrace
  | some .sigsys =>
    signalReport (.critical, ascii "SIGSYS!") .error
      [info.callAddrLine, info.syscallLine, info.archLine, info.errnoLine, info.codeLine] backtrace
  | some .sigterm => signalReport (.critical, ascii "SIGTERM!") .error plain backtrace
  | some .sigxcpu => signalReport (.critical, ascii "SIGXCPU!") .error plain backtrace
  | some .sigxfsz => signalReport (.critical, ascii "SIGXFSZ!") .error plain backtrace
  | none => []

/-- The text of the stored stack trace, empty if there is none. -/
def SignalLogData.backtrace (data : SignalLogData) : Text :=
  if data.backtraceDepth ≠ 0 ∧ data.backtraceDataSize ≠ 0 then data.backtraceData.getD [] else []

/-- The logging calls of a `case`, in order. -/
def logLines (log : Nat) : List (Level × Text) → P7Program Unit
  | [] => pure ()
  | line :: rest => do
    p7 (.log log line.1 line.2)
    logLines log rest

/-- `ExitHandler`. The log is destroyed on every way out. -/
def exitHandler : P7Program Unit := do
  let before ← p7 .atexitData
  let log ← Log.construct (ascii "main")
  let body : P7Program Unit := do
    let data ← p7 .atexitData
    logLines log (report data before.backtrace)
    p7 .flush
  body.ensure (destruct (some log))

/-- What a signal comes with: its information, and the stack trace that can be taken when
it arrives, as the number of frames and the text it prints as. -/
structure Delivery where
  signal : Signal
  siginfo : SigInfo
  depth : Nat
  stacktrace : Text

/-- `HandleUnixSig…`: store the signal, and a stack trace if there is a buffer. -/
def SignalLogData.handle (data : SignalLogData) (delivery : Delivery) : SignalLogData :=
  let stored := { data with sig := some delivery.signal, siginfo := delivery.siginfo }
  if data.backtraceData ≠ none ∧ data.backtraceDataSize ≠ 0 then
    { stored with
      backtraceDepth := delivery.depth
      backtraceData := some delivery.stacktrace }
  else stored

/-- The world in which exit processing begins: as it is, or after a handled signal. A
signal without a handler ends the process without exit processing. -/
def World.beginExit (world : World) : Option Delivery → Option World
  | none => some world
  | some delivery =>
    if delivery.signal ∈ world.handlers then
      some { world with atexitData := world.atexitData.handle delivery }
    else none

/-- Exit processing, for at most `fuel` handlers. An exception that leaves a handler ends
the process. -/
def exitLoop : Nat → World → Option World
  | 0, world => if world.atexit = 0 then some world else none
  | fuel + 1, world =>
    if world.atexit = 0 then some world
    else
      match exitHandler.run (World.answer allGranted) { world with atexit := world.atexit - 1 } with
      | (.ok _, next) => exitLoop fuel next
      | (.error _, next) => some next

/-- Exit processing calls only finitely many handlers. -/
def Terminates (world : World) : Prop := ∃ fuel, (exitLoop fuel world).isSome

/-- What was logged, without the objects it was logged to. -/
def World.messages (world : World) : List (Level × Text) :=
  world.traced.map fun line => (line.level, line.message)

/-- Every signal has something to report. -/
theorem report_ne_nil {data : SignalLogData} {signal : Signal} (isSignal : data.sig = some signal)
    (backtrace : Text) : report data backtrace ≠ [] := by
  rw [report, isSignal]
  cases signal <;> simp [signalReport]

/-- Each line is logged once, to the same log. -/
theorem run_logLines (log : Nat) (lines : List (Level × Text)) (world : World) :
    (logLines log lines).run (World.answer allGranted) world =
      (.ok (), { world with
        traced := world.traced ++ lines.map fun line => ⟨log, line.1, line.2⟩ }) := by
  induction lines generalizing world with
  | nil => simp [logLines]
  | cons line rest ih =>
    rw [logLines, run_p7_bind]
    simp only [World.answer]
    rw [ih]
    simp

/-- Once its log is constructed, the exit handler logs the report and releases the log. -/
theorem run_exitHandler_of_constructed {world middle : World} {log : Nat}
    (constructed : (construct .trace (ascii "main")).run (World.answer allGranted) world =
      (.ok log, middle)) :
    exitHandler.run (World.answer allGranted) world = (.ok (), { middle with
      registry := middle.registry.release log
      traced := middle.traced ++ (report middle.atexitData world.atexitData.backtrace).map
        fun line => ⟨log, line.1, line.2⟩ }) := by
  have ran : (Log.construct (ascii "main")).run (World.answer allGranted)
      (World.answer allGranted .atexitData world).2 = (.ok log, middle) := constructed
  rw [exitHandler, run_p7_bind]
  dsimp only
  rw [Program.run_bind, ran]
  dsimp only
  rw [Program.run_ensure, run_p7_bind, Program.run_bind]
  simp only [World.answer]
  rw [run_logLines]
  rfl

end LoggerV2
