import LoggerV2.Flags.Absl
import LoggerV2.Flags.Types
import LoggerV2.Flags.Format
import LoggerV2.HelpText

/-!
# Flag parsers

`AbslParseFlag` and `AbslUnparseFlag` for the eighteen flag types. A parser returns
the value it stores or the text it leaves in `*error`.
-/

namespace LoggerV2.Flags

open Verification

/-- `AbslParseFlag(LogSink)`: one of seven words. -/
def LogSink.abslParseFlag (text : Text) : Except Text LogSink :=
  if text = ascii "auto" then .ok .kAuto
  else if text = ascii "baical" then .ok .kBaical
  else if text = ascii "binary" then .ok .kBinary
  else if text = ascii "console" then .ok .kConsole
  else if text = ascii "null" then .ok .kNull
  else if text = ascii "syslog" then .ok .kSyslog
  else if text = ascii "text" then .ok .kText
  else .error (ascii ("Must be one of \x7b\"auto\", \"baical\", \"binary\", \"console\", " ++
    "\"null\", \"syslog\", \"text\"\x7d."))

/-- `AbslUnparseFlag(LogSink)`. -/
def LogSink.abslUnparseFlag : LogSink → Text
  | .kAuto => ascii "auto"
  | .kBaical => ascii "baical"
  | .kBinary => ascii "binary"
  | .kConsole => ascii "console"
  | .kNull => ascii "null"
  | .kSyslog => ascii "syslog"
  | .kText => ascii "text"

/-- `AbslParseFlag(LogName)`: a text of at most `kMaxNameLength` bytes. -/
def LogName.abslParseFlag (absl : Absl) (text : Text) : Except Text LogName :=
  match absl.parseString text with
  | .error message => .error message
  | .ok name =>
    if name.length > LogName.kMaxNameLength then
      .error (ascii "Value is too long (" ++ decimal text.length ++
        ascii " characters).  Length must be less than or equal to " ++
        decimal LogName.kMaxNameLength ++ ascii ". ")
    else .ok ⟨name⟩

/-- `AbslParseFlag(LoggingEnabled)` checks nothing. -/
def LoggingEnabled.abslParseFlag (absl : Absl) (text : Text) : Except Text LoggingEnabled :=
  (absl.parseBool text).map LoggingEnabled.mk

/-- `AbslParseFlag(LogInternalVerbosityLevel)`: one of six words, no number. -/
def LogInternalVerbosityLevel.abslParseFlag (text : Text) :
    Except Text LogInternalVerbosityLevel :=
  if text = ascii "off" then .ok .kOff
  else if text = ascii "debug" then .ok .kDebug
  else if text = ascii "info" then .ok .kInfo
  else if text = ascii "warning" then .ok .kWarning
  else if text = ascii "error" then .ok .kError
  else if text = ascii "critical" then .ok .kCritical
  else .error (ascii "Value unknown! (" ++ text ++
    ascii (") Value must be one of \"off\", \"debug\", \"info\", " ++
      "\"warning\", \"error\", \"critical\""))

/-- `AbslUnparseFlag(LogInternalVerbosityLevel)`. -/
def LogInternalVerbosityLevel.abslUnparseFlag : LogInternalVerbosityLevel → Text
  | .kOff => ascii "off"
  | .kDebug => ascii "debug"
  | .kInfo => ascii "info"
  | .kWarning => ascii "warning"
  | .kError => ascii "error"
  | .kCritical => ascii "critical"

/-- `AbslParseFlag(TraceVerbosityLevel)`: one of six words, no number. -/
def TraceVerbosityLevel.abslParseFlag (text : Text) : Except Text TraceVerbosityLevel :=
  if text = ascii "trace" then .ok .kTrace
  else if text = ascii "debug" then .ok .kDebug
  else if text = ascii "info" then .ok .kInfo
  else if text = ascii "warning" then .ok .kWarning
  else if text = ascii "error" then .ok .kError
  else if text = ascii "critical" then .ok .kCritical
  else .error (ascii "Value unknown! (" ++ text ++
    ascii (") Value must be one of \"trace\", \"debug\", \"info\", " ++
      "\"warning\", \"error\", \"critical\""))

/-- `AbslUnparseFlag(TraceVerbosityLevel)`. -/
def TraceVerbosityLevel.abslUnparseFlag : TraceVerbosityLevel → Text
  | .kTrace => ascii "trace"
  | .kInfo => ascii "info"
  | .kDebug => ascii "debug"
  | .kWarning => ascii "warning"
  | .kError => ascii "error"
  | .kCritical => ascii "critical"

/-- `AbslParseFlag(LogPoolSize)` checks the minimum only. -/
def LogPoolSize.abslParseFlag (absl : Absl) (text : Text) : Except Text LogPoolSize :=
  match absl.parseInt text with
  | .error message => .error message
  | .ok poolSize =>
    if poolSize < LogPoolSize.kLogPoolSizeMin then
      .error (ascii "Must have a value greater than " ++
        decimal LogPoolSize.kLogPoolSizeMin.toInt ++ ascii ".")
    else .ok ⟨poolSize⟩

/-- `AbslParseFlag(LogHelp)` rejects `true`, with the help text as the error. -/
def LogHelp.abslParseFlag (absl : Absl) (text : Text) : Except Text LogHelp :=
  match absl.parseBool text with
  | .error message => .error message
  | .ok help => if help then .error kLogHelpTextGeneral else .ok ⟨help⟩

/-- The error of a flag that the current sink does not permit. -/
def sinkError (store : Store) (allowed : String) : Text :=
  ascii "May not be used with log_sink " ++ LogSink.abslUnparseFlag (store .logSink) ++
    ascii allowed

/-- The body that the parsers of `LogAddress`, `LogEto`, `LogFacility`, `LogDir`,
`LogRoll` and `LogFiles` share: accept the default, else require a permitted sink. -/
def parseRestricted {Flag : Type} (isDefault : Flag → Bool) (permitted : List LogSink)
    (allowed : String) (store : Store) : Except Text Flag → Except Text Flag
  | .error message => .error message
  | .ok flag =>
    if isDefault flag then .ok flag
    else if store .logSink ∉ permitted then .error (sinkError store allowed)
    else .ok flag

/-- `AbslParseFlag(LogAddress)` checks the sink only. -/
def LogAddress.abslParseFlag (absl : Absl) (store : Store) (text : Text) :
    Except Text LogAddress :=
  parseRestricted LogAddress.isDefault [.kBaical, .kAuto]
    ".  Flag may only be used with log_sink=biacal or log_sink=auto."
    store ((absl.parseString text).map LogAddress.mk)

/-- `AbslParseFlag(LogPort)`: the last statement returns false as well. -/
def LogPort.abslParseFlag (absl : Absl) (store : Store) (text : Text) : Except Text LogPort :=
  match (absl.parseInt text).map LogPort.mk with
  | .error message => .error message
  | .ok flag =>
    if flag.isDefault then .ok flag
    else if store .logSink ∉ [LogSink.kBaical, .kAuto] then
      .error (sinkError store ".  Flag may only be used with log_sink=biacal or log_sink=auto.")
    else if ¬ (flag.port > 0 ∧ flag.port ≤ LogPort.kPortMax) then
      .error (ascii "Value must be between 0 and " ++ decimal LogPort.kPortMax.toInt ++ ascii ".  ")
    else .error []

/-- `AbslParseFlag(LogPacketSize)`: the last statement returns false as well. -/
def LogPacketSize.abslParseFlag (absl : Absl) (store : Store) (text : Text) :
    Except Text LogPacketSize :=
  match (absl.parseInt text).map LogPacketSize.mk with
  | .error message => .error message
  | .ok flag =>
    if flag.isDefault then .ok flag
    else if store .logSink ∉ [LogSink.kBaical, .kAuto, .kSyslog] then
      .error (sinkError store
        ".  Flag may only be used with log_sink=biacal, log_sink=syslog or log_sink=auto.")
    else if ¬ (flag.packetSize ≥ LogPacketSize.kPacketSizeMin ∧
        flag.packetSize ≤ LogPacketSize.kPacketSizeMax) then
      .error (ascii "Value must be between " ++ decimal LogPacketSize.kPacketSizeMin.toInt ++
        ascii " and " ++ decimal LogPacketSize.kPacketSizeMax.toInt ++ ascii ".  ")
    else .error []

/-- `pool_size / packet_size / 2`, which the range test and its error text both
evaluate. -/
def LogWindow.bound (store : Store) : Int32 :=
  (store .logPoolSize).poolSize / (store .logPacketSize).packetSize / 2

/-- `AbslParseFlag(LogWindow)`: the sink, then the range. -/
def LogWindow.abslParseFlag (absl : Absl) (store : Store) (text : Text) :
    Except Text LogWindow :=
  match (absl.parseInt text).map LogWindow.mk with
  | .error message => .error message
  | .ok flag =>
    if flag.isDefault then .ok flag
    else if store .logSink ∉ [LogSink.kBaical, .kAuto] then
      .error (sinkError store ".  Flag may only be used with log_sink=biacal or log_sink=auto.")
    else if flag.window < LogWindow.kLogWindowSizeMin ∨ flag.window > LogWindow.bound store then
      .error (ascii "Value must be between " ++ decimal LogWindow.kLogWindowSizeMin.toInt ++
        ascii " and (log_pool_size / log_packet_size) / 2 = (" ++
        decimal (LogWindow.bound store).toInt ++ ascii ").")
    else .ok flag

/-- `AbslParseFlag(LogEto)` checks the sink only. -/
def LogEto.abslParseFlag (absl : Absl) (store : Store) (text : Text) : Except Text LogEto :=
  parseRestricted LogEto.isDefault [.kBaical, .kAuto]
    ".  Flag may only be used with log_sink=biacal or log_sink=auto."
    store ((absl.parseInt text).map LogEto.mk)

/-- `AbslParseFlag(LogFormat)`: the default is validated like any other value. -/
def LogFormat.abslParseFlag (absl : Absl) (store : Store) (text : Text) :
    Except Text LogFormat :=
  match (absl.parseString text).map LogFormat.mk with
  | .error message => .error message
  | .ok flag =>
    if store .logSink ∉ [LogSink.kText, .kConsole, .kSyslog, .kAuto] ∧ ¬ flag.isDefault then
      .error (sinkError store
        (".  Flag may only be used with log_sink=text, log_sink=console, " ++
          "log_sink=syslog, or log_sink=auto."))
    else
      match formatError flag.format with
      | some message => .error message
      | none => .ok flag

/-- `AbslParseFlag(LogFacility)` checks the sink only. -/
def LogFacility.abslParseFlag (absl : Absl) (store : Store) (text : Text) :
    Except Text LogFacility :=
  parseRestricted LogFacility.isDefault [.kSyslog]
    ".  Flag may only be used with log_sink=syslog."
    store ((absl.parseInt text).map LogFacility.mk)

/-- `AbslParseFlag(LogDir)` checks the sink only. -/
def LogDir.abslParseFlag (absl : Absl) (store : Store) (text : Text) : Except Text LogDir :=
  parseRestricted LogDir.isDefault [.kBinary, .kText, .kAuto]
    ".  Flag may only be used with log_sink=text, log_sink=binary or log_sink=auto."
    store ((absl.parseString text).map LogDir.mk)

/-- `AbslParseFlag(LogRoll)` checks the sink only. -/
def LogRoll.abslParseFlag (absl : Absl) (store : Store) (text : Text) : Except Text LogRoll :=
  parseRestricted LogRoll.isDefault [.kBinary, .kText, .kAuto]
    ".  Flag may only be used with log_sink=text, log_sink=binary or log_sink=auto."
    store ((absl.parseString text).map LogRoll.mk)

/-- `AbslParseFlag(LogFiles)` checks the sink only. -/
def LogFiles.abslParseFlag (absl : Absl) (store : Store) (text : Text) : Except Text LogFiles :=
  parseRestricted LogFiles.isDefault [.kBinary, .kText, .kAuto]
    ".  Flag may only be used with log_sink=text, log_sink=binary or log_sink=auto."
    store ((absl.parseInt text).map LogFiles.mk)

/-- `AbslParseFlag(LogFSize)`: the range is tested before the sink, and only from
above. -/
def LogFSize.abslParseFlag (absl : Absl) (store : Store) (text : Text) : Except Text LogFSize :=
  match (absl.parseInt64 text).map LogFSize.mk with
  | .error message => .error message
  | .ok flag =>
    if flag.isDefault then .ok flag
    else if flag.fsize > LogFSize.kLogFSizeMax then
      .error (ascii "Value must be between 0  and " ++ decimal LogFSize.kLogFSizeMax.toInt ++
        ascii ".  ")
    else if store .logSink ∉ [LogSink.kBinary, .kText, .kAuto] then
      .error (sinkError store
        ".  Flag may only be used with log_sink=text, log_sink=binary or log_sink=auto.")
    else .ok flag

/-- `AbslParseFlag`, by the flag's type. -/
def abslParseFlag (absl : Absl) (store : Store) :
    (flag : FlagName) → Text → Except Text flag.Value
  | .logSink => LogSink.abslParseFlag
  | .logName => LogName.abslParseFlag absl
  | .logging => LoggingEnabled.abslParseFlag absl
  | .logIntVerb => LogInternalVerbosityLevel.abslParseFlag
  | .logTraceVerb => TraceVerbosityLevel.abslParseFlag
  | .logPoolSize => LogPoolSize.abslParseFlag absl
  | .logHelp => LogHelp.abslParseFlag absl
  | .logAddress => LogAddress.abslParseFlag absl store
  | .logPort => LogPort.abslParseFlag absl store
  | .logPacketSize => LogPacketSize.abslParseFlag absl store
  | .logWindow => LogWindow.abslParseFlag absl store
  | .logEto => LogEto.abslParseFlag absl store
  | .logFormat => LogFormat.abslParseFlag absl store
  | .logFacility => LogFacility.abslParseFlag absl store
  | .logDir => LogDir.abslParseFlag absl store
  | .logRoll => LogRoll.abslParseFlag absl store
  | .logFiles => LogFiles.abslParseFlag absl store
  | .logFSize => LogFSize.abslParseFlag absl store

/-- `AbslUnparseFlag`, by the flag's type. -/
def abslUnparseFlag (absl : Absl) : (flag : FlagName) → flag.Value → Text
  | .logSink => LogSink.abslUnparseFlag
  | .logName => fun flag => absl.unparseString flag.name
  | .logging => fun flag => absl.unparseBool flag.enabled
  | .logIntVerb => LogInternalVerbosityLevel.abslUnparseFlag
  | .logTraceVerb => TraceVerbosityLevel.abslUnparseFlag
  | .logPoolSize => fun flag => absl.unparseInt flag.poolSize
  | .logHelp => fun flag => absl.unparseBool flag.help
  | .logAddress => fun flag => absl.unparseString flag.address
  | .logPort => fun flag => absl.unparseInt flag.port
  | .logPacketSize => fun flag => absl.unparseInt flag.packetSize
  | .logWindow => fun flag => absl.unparseInt flag.window
  | .logEto => fun flag => absl.unparseInt flag.eto
  | .logFormat => fun flag => absl.unparseString flag.format
  | .logFacility => fun flag => absl.unparseInt flag.facility
  | .logDir => fun flag => absl.unparseString flag.dir
  | .logRoll => fun flag => absl.unparseString flag.roll
  | .logFiles => fun flag => absl.unparseInt flag.files
  | .logFSize => fun flag => absl.unparseInt64 flag.fsize

end LoggerV2.Flags
