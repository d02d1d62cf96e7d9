import Mathlib.Tactic.SplitIfs
import LoggerV2.Flags.Parse

/-!
# What the flag parsers accept

`abslParseFlag_eq_ok_iff` separates what a parser reads (`decode`) from what it checks
(`Accepts`). Every later result about parsing goes through it. A parser consults the
store only for the sink, the pool size and the packet size (`Consults.accepts_iff`).
-/

namespace LoggerV2.Flags

open Verification

/-- What a parser reads from the text, before its checks. -/
def decode (absl : Absl) : (flag : FlagName) → Text → Except Text flag.Value
  | .logSink => LogSink.abslParseFlag
  | .logName => fun text => (absl.parseString text).map LogName.mk
  | .logging => fun text => (absl.parseBool text).map LoggingEnabled.mk
  | .logIntVerb => LogInternalVerbosityLevel.abslParseFlag
  | .logTraceVerb => TraceVerbosityLevel.abslParseFlag
  | .logPoolSize => fun text => (absl.parseInt text).map LogPoolSize.mk
  | .logHelp => fun text => (absl.parseBool text).map LogHelp.mk
  | .logAddress => fun text => (absl.parseString text).map LogAddress.mk
  | .logPort => fun text => (absl.parseInt text).map LogPort.mk
  | .logPacketSize => fun text => (absl.parseInt text).map LogPacketSize.mk
  | .logWindow => fun text => (absl.parseInt text).map LogWindow.mk
  | .logEto => fun text => (absl.parseInt text).map LogEto.mk
  | .logFormat => fun text => (absl.parseString text).map LogFormat.mk
  | .logFacility => fun text => (absl.parseInt text).map LogFacility.mk
  | .logDir => fun text => (absl.parseString text).map LogDir.mk
  | .logRoll => fun text => (absl.parseString text).map LogRoll.mk
  | .logFiles => fun text => (absl.parseInt text).map LogFiles.mk
  | .logFSize => fun text => (absl.parseInt64 text).map LogFSize.mk

/-- The sinks a flag's parser permits for a value other than the default; `none` for
the flags that no sink restricts. -/
def permittedSinks : FlagName → Option (List LogSink)
  | .logAddress | .logPort | .logWindow | .logEto => some [.kBaical, .kAuto]
  | .logPacketSize => some [.kBaical, .kAuto, .kSyslog]
  | .logFormat => some [.kText, .kConsole, .kSyslog, .kAuto]
  | .logFacility => some [.kSyslog]
  | .logDir | .logRoll | .logFiles | .logFSize => some [.kBinary, .kText, .kAuto]
  | _ => none

/-- The current sink is one the flag's parser permits. -/
def SinkPermits (store : Store) (flag : FlagName) : Prop :=
  ∀ permitted ∈ permittedSinks flag, store .logSink ∈ permitted

/-- What a parser asks of a value other than the default once the sink is permitted. The
parsers of the port and of the packet size end in `return false`: their own range checks
let values through, but none of them is ever stored. -/
def InRange (store : Store) : (flag : FlagName) → flag.Value → Prop
  | .logName, flag => flag.name.length ≤ LogName.kMaxNameLength
  | .logPoolSize, flag => LogPoolSize.kLogPoolSizeMin ≤ flag.poolSize
  | .logHelp, flag => flag.help = false
  | .logPort, _ => False
  | .logPacketSize, _ => False
  | .logWindow, flag =>
    LogWindow.kLogWindowSizeMin ≤ flag.window ∧ flag.window ≤ LogWindow.bound store
  | .logFormat, flag => FormatItems flag.format
  | .logFSize, flag => flag.fsize ≤ LogFSize.kLogFSizeMax
  | _, _ => True

/-- The checks a parser makes on the value it read: a default passes, any other value
needs a permitted sink and whatever else the flag asks for. A port or a packet size other
than the default never passes. -/
def Accepts (store : Store) (flag : FlagName) (value : flag.Value) : Prop :=
  flag.isDefault value = true ∨ SinkPermits store flag ∧ InRange store flag value

instance (store : Store) (flag : FlagName) : Decidable (SinkPermits store flag) :=
  inferInstanceAs (Decidable (∀ permitted ∈ permittedSinks flag, store .logSink ∈ permitted))

instance (store : Store) : (flag : FlagName) → (value : flag.Value) →
    Decidable (InRange store flag value)
  | .logName, flag => inferInstanceAs (Decidable (flag.name.length ≤ _))
  | .logPoolSize, flag => inferInstanceAs (Decidable (_ ≤ flag.poolSize))
  | .logHelp, flag => inferInstanceAs (Decidable (flag.help = false))
  | .logWindow, flag => inferInstanceAs (Decidable (_ ≤ flag.window ∧ flag.window ≤ _))
  | .logFormat, flag => inferInstanceAs (Decidable (FormatItems flag.format))
  | .logFSize, flag => inferInstanceAs (Decidable (flag.fsize ≤ _))
  | .logPort, _ | .logPacketSize, _ => isFalse id
  | .logSink, _ | .logging, _ | .logIntVerb, _ | .logTraceVerb, _ | .logAddress, _
  | .logEto, _ | .logFacility, _ | .logDir, _ | .logRoll, _ | .logFiles, _ => isTrue trivial

instance (store : Store) (flag : FlagName) (value : flag.Value) :
    Decidable (Accepts store flag value) :=
  inferInstanceAs (Decidable (_ ∨ SinkPermits store flag ∧ InRange store flag value))

variable {absl : Absl} {store : Store}

/-- A flag that only checks the sink. -/
theorem parseRestricted_eq_ok_iff {Flag : Type} {isDefault : Flag → Bool}
    {permitted : List LogSink} {allowed : String} {parsed : Except Text Flag} {flag : Flag} :
    parseRestricted isDefault permitted allowed store parsed = .ok flag ↔
      parsed = .ok flag ∧ (isDefault flag = true ∨ store .logSink ∈ permitted) := by
  cases parsed with
  | error message => simp [parseRestricted]
  | ok read =>
    dsimp only [parseRestricted]
    split_ifs <;> grind

/-- The name is short enough. -/
theorem LogName.abslParseFlag_eq_ok_iff {text : Text} {flag : LogName} :
    LogName.abslParseFlag absl text = .ok flag ↔
      (absl.parseString text).map LogName.mk = .ok flag ∧
        flag.name.length ≤ LogName.kMaxNameLength := by
  rw [LogName.abslParseFlag]
  cases absl.parseString text with
  | error message => simp [Except.map]
  | ok read =>
    dsimp only [Except.map]
    split_ifs <;> grind

/-- The pool is large enough. -/
theorem LogPoolSize.abslParseFlag_eq_ok_iff {text : Text} {flag : LogPoolSize} :
    LogPoolSize.abslParseFlag absl text = .ok flag ↔
      (absl.parseInt text).map LogPoolSize.mk = .ok flag ∧
        LogPoolSize.kLogPoolSizeMin ≤ flag.poolSize := by
  rw [LogPoolSize.abslParseFlag]
  cases absl.parseInt text with
  | error message => simp [Except.map]
  | ok read =>
    dsimp only [Except.map]
    split_ifs <;> grind

/-- Only `false` passes. -/
theorem LogHelp.abslParseFlag_eq_ok_iff {text : Text} {flag : LogHelp} :
    LogHelp.abslParseFlag absl text = .ok flag ↔
      (absl.parseBool text).map LogHelp.mk = .ok flag ∧ flag.help = false := by
  rw [LogHelp.abslParseFlag]
  cases absl.parseBool text with
  | error message => simp [Except.map]
  | ok read =>
    dsimp only [Except.map]
    split_ifs <;> grind

/-- No port other than the default is ever accepted. -/
theorem LogPort.abslParseFlag_eq_ok_iff {text : Text} {flag : LogPort} :
    LogPort.abslParseFlag absl store text = .ok flag ↔
      (absl.parseInt text).map LogPort.mk = .ok flag ∧ flag.isDefault = true := by
  rw [LogPort.abslParseFlag]
  cases (absl.parseInt text).map LogPort.mk with
  | error message => simp
  | ok read =>
    dsimp only
    split_ifs <;> grind

/-- No packet size other than the default is ever accepted. -/
theorem LogPacketSize.abslParseFlag_eq_ok_iff {text : Text} {flag : LogPacketSize} :
    LogPacketSize.abslParseFlag absl store text = .ok flag ↔
      (absl.parseInt text).map LogPacketSize.mk = .ok flag ∧ flag.isDefault = true := by
  rw [LogPacketSize.abslParseFlag]
  cases (absl.parseInt text).map LogPacketSize.mk with
  | error message => simp
  | ok read =>
    dsimp only
    split_ifs <;> grind

/-- The window is between 1 and the bound. -/
theorem LogWindow.abslParseFlag_eq_ok_iff {text : Text} {flag : LogWindow} :
    LogWindow.abslParseFlag absl store text = .ok flag ↔
      (absl.parseInt text).map LogWindow.mk = .ok flag ∧ (flag.isDefault = true ∨
        store .logSink ∈ [LogSink.kBaical, .kAuto] ∧
          LogWindow.kLogWindowSizeMin ≤ flag.window ∧ flag.window ≤ LogWindow.bound store) := by
  rw [LogWindow.abslParseFlag]
  cases (absl.parseInt text).map LogWindow.mk with
  | error message => simp
  | ok read =>
    dsimp only
    split_ifs <;> grind

/-- The format is checked even if it is the default. -/
theorem LogFormat.abslParseFlag_eq_ok_iff {text : Text} {flag : LogFormat} :
    LogFormat.abslParseFlag absl store text = .ok flag ↔
      (absl.parseString text).map LogFormat.mk = .ok flag ∧
        (flag.isDefault = true ∨
          store .logSink ∈ [LogSink.kText, .kConsole, .kSyslog, .kAuto]) ∧
        FormatItems flag.format := by
  rw [LogFormat.abslParseFlag]
  simp only [← formatError_eq_none_iff]
  cases (absl.parseString text).map LogFormat.mk with
  | error message => simp
  | ok read =>
    dsimp only
    cases result : formatError read.format <;> split_ifs <;> grind

/-- The size is checked from above only. -/
theorem LogFSize.abslParseFlag_eq_ok_iff {text : Text} {flag : LogFSize} :
    LogFSize.abslParseFlag absl store text = .ok flag ↔
      (absl.parseInt64 text).map LogFSize.mk = .ok flag ∧ (flag.isDefault = true ∨
        store .logSink ∈ [LogSink.kBinary, .kText, .kAuto] ∧
          flag.fsize ≤ LogFSize.kLogFSizeMax) := by
  rw [LogFSize.abslParseFlag]
  cases (absl.parseInt64 text).map LogFSize.mk with
  | error message => simp
  | ok read =>
    dsimp only
    split_ifs <;> grind

/-- The default format is a concatenation of items, so validating it never fails. -/
theorem formatItems_default : FormatItems kLogFormatDefault.format :=
  formatError_eq_none_iff.mp (by decide +kernel)

/-- The checks without an early return on the default admit the default anyway. -/
theorem inRange_of_isDefault {flag : FlagName} {value : flag.Value}
    (unguarded : flag ∈ [FlagName.logName, .logPoolSize, .logHelp, .logFormat])
    (holds : flag.isDefault value = true) : InRange store flag value := by
  rw [eq_default_of_isDefault holds]
  simp only [List.mem_cons, List.not_mem_nil, or_false] at unguarded
  rcases unguarded with rfl | rfl | rfl | rfl
  · exact Nat.zero_le _
  · exact (by decide : LogPoolSize.kLogPoolSizeMin ≤ kLogPoolSizeDefault.poolSize)
  · exact rfl
  · exact formatItems_default

/-- A flag that no sink restricts passes under any. -/
theorem sinkPermits_of_unrestricted {flag : FlagName}
    (unrestricted : permittedSinks flag = none) : SinkPermits store flag := by
  simp [SinkPermits, unrestricted]

/-- The default of every flag is accepted under every store. -/
theorem accepts_default (store : Store) (flag : FlagName) :
    Accepts store flag (Store.default flag) :=
  .inl (Store.isDefault_default flag)

/-- A parser succeeds exactly on a text it can read and a value it accepts. -/
theorem abslParseFlag_eq_ok_iff {text : Text} {flag : FlagName} {value : flag.Value} :
    abslParseFlag absl store flag text = .ok value ↔
      decode absl flag text = .ok value ∧ Accepts store flag value := by
  have unguarded := @inRange_of_isDefault store flag value
  cases flag <;> simp only [abslParseFlag, decode, Accepts, SinkPermits, permittedSinks]
  case logSink | logIntVerb | logTraceVerb | logging =>
    simp [InRange, LoggingEnabled.abslParseFlag]
  case logName => grind [InRange, LogName.abslParseFlag_eq_ok_iff]
  case logPoolSize => grind [InRange, LogPoolSize.abslParseFlag_eq_ok_iff]
  case logHelp => grind [InRange, LogHelp.abslParseFlag_eq_ok_iff]
  case logPort => simp [InRange, LogPort.abslParseFlag_eq_ok_iff, FlagName.isDefault]
  case logPacketSize =>
    simp [InRange, LogPacketSize.abslParseFlag_eq_ok_iff, FlagName.isDefault]
  case logWindow => simp [InRange, LogWindow.abslParseFlag_eq_ok_iff, FlagName.isDefault]
  case logFormat =>
    have items := unguarded (by simp)
    simp only [InRange, FlagName.isDefault] at items ⊢
    simp only [LogFormat.abslParseFlag_eq_ok_iff, Option.mem_def, Option.some.injEq, forall_eq']
    grind
  case logFSize => simp [InRange, LogFSize.abslParseFlag_eq_ok_iff, FlagName.isDefault]
  case logAddress =>
    simp [InRange, LogAddress.abslParseFlag, parseRestricted_eq_ok_iff, FlagName.isDefault]
  case logEto =>
    simp [InRange, LogEto.abslParseFlag, parseRestricted_eq_ok_iff, FlagName.isDefault]
  case logFacility =>
    simp [InRange, LogFacility.abslParseFlag, parseRestricted_eq_ok_iff, FlagName.isDefault]
  case logDir =>
    simp [InRange, LogDir.abslParseFlag, parseRestricted_eq_ok_iff, FlagName.isDefault]
  case logRoll =>
    simp [InRange, LogRoll.abslParseFlag, parseRestricted_eq_ok_iff, FlagName.isDefault]
  case logFiles =>
    simp [InRange, LogFiles.abslParseFlag, parseRestricted_eq_ok_iff, FlagName.isDefault]

end LoggerV2.Flags
