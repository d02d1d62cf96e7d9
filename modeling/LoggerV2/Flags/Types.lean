import Mathlib.Logic.Function.Basic
import LoggerV2.Library.Text

/-!
# Flag types and defaults

The value types of the eighteen command-line flags, their defaults and bounds,
and the flag store that `absl::GetFlag` reads. Texts are byte strings and
integers have the width the source gives them.
-/

namespace LoggerV2.Flags

open Verification

/-- Where the messages go. -/
inductive LogSink where
  | kBaical | kBinary | kText | kConsole | kSyslog | kAuto | kNull
deriving DecidableEq, Repr

instance : LawfulBEq LogSink := inferInstance

/-- The default sink; the help text says `baical`. -/
def kLogSinkDefault : LogSink := .kAuto

/-- `LogSinkIsDefault`. -/
def LogSink.isDefault (flag : LogSink) : Bool := flag = kLogSinkDefault

/-- The name P7 knows the client by. -/
structure LogName where
  name : Text
deriving DecidableEq, Repr

/-- The longest name, in bytes. -/
def LogName.kMaxNameLength : Nat := 96

/-- No name: P7 uses that of the process. -/
def kLogNameDefault : LogName := ⟨[]⟩

def LogName.isDefault (flag : LogName) : Bool := flag.name = kLogNameDefault.name

/-- How much P7 reports about itself. -/
inductive LogInternalVerbosityLevel where
  | kOff | kDebug | kInfo | kWarning | kError | kCritical
deriving DecidableEq, Repr

/-- The enumerator's value, `static_cast<std::int32_t>`. -/
def LogInternalVerbosityLevel.toInt32 : LogInternalVerbosityLevel → Int32
  | .kOff => -1
  | .kDebug => 0
  | .kInfo => 1
  | .kWarning => 2
  | .kError => 3
  | .kCritical => 4

/-- P7 reports nothing about itself. -/
def kLogIntVerbDefault : LogInternalVerbosityLevel := .kOff

/-- `LogIntVerbIsDefault`. -/
def LogInternalVerbosityLevel.isDefault (flag : LogInternalVerbosityLevel) : Bool :=
  flag = kLogIntVerbDefault

/-- The level from which trace streams keep messages. -/
inductive TraceVerbosityLevel where
  | kTrace | kDebug | kInfo | kWarning | kError | kCritical
deriving DecidableEq, Repr

/-- Trace streams keep every message. -/
def kLogTraceVerbDefault : TraceVerbosityLevel := .kTrace

/-- `TraceVerbIsDefault`. -/
def TraceVerbosityLevel.isDefault (flag : TraceVerbosityLevel) : Bool :=
  flag = kLogTraceVerbDefault

/-- The size of the internal buffer pool, in KiB. -/
structure LogPoolSize where
  poolSize : Int32
deriving DecidableEq, Repr

/-- The smallest pool. -/
def LogPoolSize.kLogPoolSizeMin : Int32 := 16

/-- The default pool, 4 MiB. -/
def kLogPoolSizeDefault : LogPoolSize := ⟨4096⟩

def LogPoolSize.isDefault (flag : LogPoolSize) : Bool :=
  flag.poolSize = kLogPoolSizeDefault.poolSize

/-- Whether the log engine is on. -/
structure LoggingEnabled where
  enabled : Bool
deriving DecidableEq, Repr

/-- The log engine is on. -/
def kLoggingDefault : LoggingEnabled := ⟨true⟩

def LoggingEnabled.isDefault (flag : LoggingEnabled) : Bool :=
  flag.enabled = kLoggingDefault.enabled

/-- Whether to report the help text. -/
structure LogHelp where
  help : Bool
deriving DecidableEq, Repr

def kLogHelpDefault : LogHelp := ⟨false⟩

def LogHelp.isDefault (flag : LogHelp) : Bool := flag.help = kLogHelpDefault.help

/-- The address of the server. -/
structure LogAddress where
  address : Text
deriving DecidableEq, Repr

/-- The server runs on this host. -/
def kLogAddressDefault : LogAddress := ⟨ascii "127.0.0.1"⟩

def LogAddress.isDefault (flag : LogAddress) : Bool :=
  flag.address = kLogAddressDefault.address

/-- The port of the server. -/
structure LogPort where
  port : Int32
deriving DecidableEq, Repr

def LogPort.kPortMax : Int32 := 65535

/-- The default port; the help text speaks of 9009. -/
def kLogPortDefault : LogPort := ⟨9010⟩

def LogPort.isDefault (flag : LogPort) : Bool := flag.port = kLogPortDefault.port

/-- The size of a packet, in bytes. -/
structure LogPacketSize where
  packetSize : Int32
deriving DecidableEq, Repr

def LogPacketSize.kPacketSizeMin : Int32 := 512

def LogPacketSize.kPacketSizeMax : Int32 := 65535

/-- The default packet, also the smallest. -/
def kLogPacketSizeDefault : LogPacketSize := ⟨512⟩

def LogPacketSize.isDefault (flag : LogPacketSize) : Bool :=
  flag.packetSize = kLogPacketSizeDefault.packetSize

/-- The size of the transmission window, in packets. -/
structure LogWindow where
  window : Int32
deriving DecidableEq, Repr

/-- The smallest window that can be asked for. -/
def LogWindow.kLogWindowSizeMin : Int32 := 1

/-- The default window, of which P7 is told nothing. -/
def kLogWindowDefault : LogWindow := ⟨0⟩

def LogWindow.isDefault (flag : LogWindow) : Bool := flag.window = kLogWindowDefault.window

/-- How long P7 still tries to deliver when it is closed, in seconds. -/
structure LogEto where
  eto : Int32
deriving DecidableEq, Repr

/-- The default timeout, of which P7 is told nothing. -/
def kLogEtoDefault : LogEto := ⟨0⟩

def LogEto.isDefault (flag : LogEto) : Bool := flag.eto = kLogEtoDefault.eto

/-- The format of a line in a text sink. -/
structure LogFormat where
  format : Text
deriving DecidableEq, Repr

def kLogFormatDefault : LogFormat :=
  ⟨ascii "%cn #%ix [%tf] %lv Tr:#%ti:%tn CPU:%cc Md:%mn\x7b%fs:%fl:%fn\x7d %ms"⟩

def LogFormat.isDefault (flag : LogFormat) : Bool := flag.format = kLogFormatDefault.format

/-- The syslog facility. -/
structure LogFacility where
  facility : Int32
deriving DecidableEq, Repr

def kLogFacilityDefault : LogFacility := ⟨1⟩

def LogFacility.isDefault (flag : LogFacility) : Bool :=
  flag.facility = kLogFacilityDefault.facility

/-- The directory for the files of a file sink. -/
structure LogDir where
  dir : Text
deriving DecidableEq, Repr

/-- No directory: P7 uses that of the process. -/
def kLogDirDefault : LogDir := ⟨[]⟩

def LogDir.isDefault (flag : LogDir) : Bool := flag.dir = kLogDirDefault.dir

/-- When a file sink starts a new file. -/
structure LogRoll where
  roll : Text
deriving DecidableEq, Repr

/-- No rule: P7 is told nothing. -/
def kLogRollDefault : LogRoll := ⟨[]⟩

def LogRoll.isDefault (flag : LogRoll) : Bool := flag.roll = kLogRollDefault.roll

/-- How many files a file sink keeps. -/
structure LogFiles where
  files : Int32
deriving DecidableEq, Repr

/-- The default number, of which P7 is told nothing. -/
def kLogFilesDefault : LogFiles := ⟨0⟩

def LogFiles.isDefault (flag : LogFiles) : Bool := flag.files = kLogFilesDefault.files

/-- How large the files of a file sink may get together, in MiB. -/
structure LogFSize where
  fsize : Int64
deriving DecidableEq, Repr

/-- The largest value the parser lets in. -/
def LogFSize.kLogFSizeMax : Int64 := 4294967296

/-- The default total, of which P7 is told nothing. -/
def kLogFSizeDefault : LogFSize := ⟨0⟩

def LogFSize.isDefault (flag : LogFSize) : Bool := flag.fsize = kLogFSizeDefault.fsize

/-- The flags that `ABSL_FLAG` declares, in the order of their declarations. -/
inductive FlagName where
  | logSink | logName | logging | logIntVerb | logTraceVerb | logPoolSize | logHelp
  | logAddress | logPort | logPacketSize | logWindow | logEto | logFormat | logFacility
  | logDir | logRoll | logFiles | logFSize
deriving DecidableEq, Repr

/-- The type a flag is declared with. -/
@[reducible] def FlagName.Value : FlagName → Type
  | .logSink => LogSink
  | .logName => LogName
  | .logging => LoggingEnabled
  | .logIntVerb => LogInternalVerbosityLevel
  | .logTraceVerb => TraceVerbosityLevel
  | .logPoolSize => LogPoolSize
  | .logHelp => LogHelp
  | .logAddress => LogAddress
  | .logPort => LogPort
  | .logPacketSize => LogPacketSize
  | .logWindow => LogWindow
  | .logEto => LogEto
  | .logFormat => LogFormat
  | .logFacility => LogFacility
  | .logDir => LogDir
  | .logRoll => LogRoll
  | .logFiles => LogFiles
  | .logFSize => LogFSize

/-- Each type's test against its default. -/
def FlagName.isDefault : (flag : FlagName) → flag.Value → Bool
  | .logSink => LogSink.isDefault
  | .logName => LogName.isDefault
  | .logging => LoggingEnabled.isDefault
  | .logIntVerb => LogInternalVerbosityLevel.isDefault
  | .logTraceVerb => TraceVerbosityLevel.isDefault
  | .logPoolSize => LogPoolSize.isDefault
  | .logHelp => LogHelp.isDefault
  | .logAddress => LogAddress.isDefault
  | .logPort => LogPort.isDefault
  | .logPacketSize => LogPacketSize.isDefault
  | .logWindow => LogWindow.isDefault
  | .logEto => LogEto.isDefault
  | .logFormat => LogFormat.isDefault
  | .logFacility => LogFacility.isDefault
  | .logDir => LogDir.isDefault
  | .logRoll => LogRoll.isDefault
  | .logFiles => LogFiles.isDefault
  | .logFSize => LogFSize.isDefault

/-- The current value of every flag; `store flag` is `absl::GetFlag`. -/
abbrev Store := (flag : FlagName) → flag.Value

namespace Store

/-- The store `ABSL_FLAG` sets up before any argument is parsed. -/
def default : Store
  | .logSink => kLogSinkDefault
  | .logName => kLogNameDefault
  | .logging => kLoggingDefault
  | .logIntVerb => kLogIntVerbDefault
  | .logTraceVerb => kLogTraceVerbDefault
  | .logPoolSize => kLogPoolSizeDefault
  | .logHelp => kLogHelpDefault
  | .logAddress => kLogAddressDefault
  | .logPort => kLogPortDefault
  | .logPacketSize => kLogPacketSizeDefault
  | .logWindow => kLogWindowDefault
  | .logEto => kLogEtoDefault
  | .logFormat => kLogFormatDefault
  | .logFacility => kLogFacilityDefault
  | .logDir => kLogDirDefault
  | .logRoll => kLogRollDefault
  | .logFiles => kLogFilesDefault
  | .logFSize => kLogFSizeDefault

/-- Replace one flag's value, `absl::SetFlag`. -/
def set (store : Store) (flag : FlagName) (value : flag.Value) : Store :=
  Function.update store flag value

@[simp] theorem set_self (store : Store) (flag : FlagName) (value : flag.Value) :
    store.set flag value flag = value :=
  Function.update_self flag value store

theorem set_other (store : Store) {flag other : FlagName} (value : flag.Value)
    (different : other ≠ flag) : store.set flag value other = store other :=
  Function.update_of_ne different value store

/-- Assignments to distinct flags commute. -/
theorem set_comm (store : Store) {first second : FlagName} (different : first ≠ second)
    (firstValue : first.Value) (secondValue : second.Value) :
    (store.set first firstValue).set second secondValue =
      (store.set second secondValue).set first firstValue :=
  Function.update_comm different.symm secondValue firstValue store |>.symm

/-- Every default passes its own type's test. -/
theorem isDefault_default (flag : FlagName) : flag.isDefault (default flag) = true := by
  cases flag <;> decide

end Store

/-- Only the default passes a flag's test. -/
theorem eq_default_of_isDefault {flag : FlagName} {value : flag.Value}
    (holds : flag.isDefault value = true) : value = Store.default flag := by
  -- An enumeration compares the value itself, a structure its one field.
  cases flag <;> first
    | exact of_decide_eq_true holds
    | (cases value; congr; exact of_decide_eq_true holds)

end LoggerV2.Flags
