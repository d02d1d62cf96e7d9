import LoggerV2.Flags.Accept

/-!
# Parsing what was unparsed

Every value that passes the checks a parser states for it should parse back from its
own text. It does, except for a port or a packet size other than the default: both
parsers end in `return false`.
-/

namespace LoggerV2.Flags

open Verification

/-- The range that a parser's test and error text state for a value other than the
default. -/
def StatedRange (store : Store) : (flag : FlagName) → flag.Value → Prop
  | .logName, flag => flag.name.length ≤ LogName.kMaxNameLength
  | .logPoolSize, flag => LogPoolSize.kLogPoolSizeMin ≤ flag.poolSize
  | .logHelp, flag => flag.help = false
  | .logPort, flag => 0 < flag.port ∧ flag.port ≤ LogPort.kPortMax
  | .logPacketSize, flag =>
    LogPacketSize.kPacketSizeMin ≤ flag.packetSize ∧
      flag.packetSize ≤ LogPacketSize.kPacketSizeMax
  | .logWindow, flag =>
    LogWindow.kLogWindowSizeMin ≤ flag.window ∧ flag.window ≤ LogWindow.bound store
  | .logFormat, flag => FormatItems flag.format
  | .logFSize, flag => 0 ≤ flag.fsize ∧ flag.fsize ≤ LogFSize.kLogFSizeMax
  | _, _ => True

/-- A default, or a value in the stated range under a permitted sink. -/
def StatedChecks (store : Store) (flag : FlagName) (value : flag.Value) : Prop :=
  flag.isDefault value = true ∨ SinkPermits store flag ∧ StatedRange store flag value

/-- The flags whose parsers never return true on a value other than the default. -/
def EndsInFalse (flag : FlagName) : Prop := flag = .logPort ∨ flag = .logPacketSize

variable {absl : Absl}

/-- A sink's word is read back. -/
theorem LogSink.parse_unparse (flag : LogSink) :
    LogSink.abslParseFlag (LogSink.abslUnparseFlag flag) = .ok flag := by
  cases flag <;> decide +kernel

theorem LogInternalVerbosityLevel.parse_unparse (flag : LogInternalVerbosityLevel) :
    LogInternalVerbosityLevel.abslParseFlag (LogInternalVerbosityLevel.abslUnparseFlag flag) =
      .ok flag := by
  cases flag <;> decide +kernel

theorem TraceVerbosityLevel.parse_unparse (flag : TraceVerbosityLevel) :
    TraceVerbosityLevel.abslParseFlag (TraceVerbosityLevel.abslUnparseFlag flag) =
      .ok flag := by
  cases flag <;> decide +kernel

/-- Every parser reads back what its unparser writes. -/
theorem decode_abslUnparseFlag (inverts : absl.Inverts) (flag : FlagName) (value : flag.Value) :
    decode absl flag (abslUnparseFlag absl flag value) = .ok value := by
  cases flag
  case logSink => exact LogSink.parse_unparse value
  case logIntVerb => exact LogInternalVerbosityLevel.parse_unparse value
  case logTraceVerb => exact TraceVerbosityLevel.parse_unparse value
  all_goals
    simp [decode, abslUnparseFlag, inverts.int, inverts.int64, inverts.bool, inverts.string,
      Except.map]

/-- Away from the two parsers that end in false, the stated checks are the checks. -/
theorem accepts_of_statedChecks {store : Store} {flag : FlagName} {value : flag.Value}
    (checks : StatedChecks store flag value)
    (sound : ¬ (EndsInFalse flag ∧ flag.isDefault value = false)) :
    Accepts store flag value := by
  rcases checks with isDefault | ⟨permits, stated⟩
  · exact .inl isDefault
  · cases nonDefault : flag.isDefault value
    case true => exact .inl nonDefault
    case false =>
      have other : ¬ EndsInFalse flag := fun bad => sound ⟨bad, nonDefault⟩
      refine .inr ⟨permits, ?_⟩
      cases flag
      case logPort | logPacketSize => exact absurd (by simp [EndsInFalse]) other
      case logFSize => exact stated.2
      all_goals exact stated

/-- A value that passes the stated checks parses back from its own text, unless it is a
port or a packet size other than the default. -/
theorem parse_unparse_iff (inverts : absl.Inverts) (store : Store) (flag : FlagName)
    (value : flag.Value) (checks : StatedChecks store flag value) :
    abslParseFlag absl store flag (abslUnparseFlag absl flag value) = .ok value ↔
      ¬ (EndsInFalse flag ∧ flag.isDefault value = false) := by
  rw [abslParseFlag_eq_ok_iff]
  constructor
  · rintro ⟨-, accepted⟩ ⟨bad, nonDefault⟩
    rcases accepted with isDefault | ⟨-, inRange⟩
    · rw [isDefault] at nonDefault
      cases nonDefault
    · rcases bad with rfl | rfl <;> exact inRange
  · intro sound
    exact ⟨decode_abslUnparseFlag inverts flag value, accepts_of_statedChecks checks sound⟩

/-- A client name parses back. -/
theorem parse_unparse_name :
    abslParseFlag decimalAbsl Store.default .logName
        (abslUnparseFlag decimalAbsl .logName ⟨ascii "Client"⟩) = .ok ⟨ascii "Client"⟩ ↔
      ¬ (EndsInFalse .logName ∧ FlagName.isDefault .logName ⟨ascii "Client"⟩ = false) :=
  parse_unparse_iff decimalAbsl_inverts Store.default .logName ⟨ascii "Client"⟩
    (.inr ⟨sinkPermits_of_unrestricted rfl, (by decide : (ascii "Client").length ≤ 96)⟩)

/-- Port 8080 passes the stated checks under the default sink, and its parser rejects
the text of it. -/
theorem port_8080_rejected :
    decimalAbsl.Inverts ∧ StatedChecks Store.default .logPort ⟨8080⟩ ∧
      abslParseFlag decimalAbsl Store.default .logPort
        (abslUnparseFlag decimalAbsl .logPort ⟨8080⟩) ≠ .ok ⟨8080⟩ := by
  have inRange : (0 : Int32) < 8080 ∧ 8080 ≤ LogPort.kPortMax := by decide
  exact ⟨decimalAbsl_inverts, .inr ⟨by decide, inRange⟩, by decide +kernel⟩

end LoggerV2.Flags
