import LoggerV2.Flags.RoundTrip

/-!
# What the errors say

A parser that reads a value and rejects it leaves a text. The text starts with the current
sink exactly when the sink is the reason (`blames_sink_iff`), and it is empty exactly for
the ports and packet sizes that pass every check (`silent_iff`).
-/

namespace LoggerV2.Flags

open Verification

/-- The text starts with the sink that does not permit the flag. -/
def BlamesSink (store : Store) (message : Text) : Prop :=
  ascii "May not be used with log_sink " ++ LogSink.abslUnparseFlag (store .logSink) <+: message

/-- The text starts in another way. -/
def OtherReason (message : Text) : Prop :=
  ∃ first second rest, message = first :: second :: rest ∧ [first, second] ≠ ascii "Ma"

/-- The value passes its parser's range test, whether or not the parser then returns true. -/
def PassesTest (store : Store) (flag : FlagName) (value : flag.Value) : Prop :=
  InRange store flag value ∨ EndsInFalse flag ∧ StatedRange store flag value

/-- Why a value is rejected, and with which text. -/
inductive Rejected (store : Store) (flag : FlagName) (value : flag.Value) : Text → Prop where
  | sink (allowed : String) (refused : ¬ SinkPermits store flag)
      (small : flag = .logFSize → PassesTest store flag value) :
      Rejected store flag value (sinkError store allowed)
  | range {message} (permits : flag ≠ .logFSize → SinkPermits store flag)
      (outside : ¬ PassesTest store flag value) (reason : OtherReason message) :
      Rejected store flag value message
  | silent (permits : SinkPermits store flag) (bad : EndsInFalse flag)
      (stated : StatedRange store flag value) : Rejected store flag value []

variable {absl : Absl} {store : Store} {text message : Text} {flag : FlagName} {value : flag.Value}

section Texts

/-- The error of a sink that does not permit the flag. -/
theorem blamesSink_sinkError (allowed : String) : BlamesSink store (sinkError store allowed) :=
  List.prefix_append _ _

theorem BlamesSink.ne_nil (blames : BlamesSink store message) : message ≠ [] := by
  rintro rfl
  have start : ascii "May not be used with log_sink " ≠ [] := by decide +kernel
  exact start (List.append_eq_nil_iff.mp (List.prefix_nil.mp blames)).1

theorem OtherReason.ne_nil (reason : OtherReason message) : message ≠ [] := by
  obtain ⟨first, second, rest, rfl, -⟩ := reason
  exact List.cons_ne_nil _ _

/-- No text is of both kinds. -/
theorem OtherReason.not_blamesSink (reason : OtherReason message) : ¬ BlamesSink store message := by
  rintro ⟨more, same⟩
  obtain ⟨first, second, rest, rfl, other⟩ := reason
  have start : ascii "May not be used with log_sink " =
      ascii "Ma" ++ (ascii "May not be used with log_sink ").drop 2 := by decide +kernel
  refine other ?_
  rw [start, List.append_assoc, List.append_assoc] at same
  have heads := congrArg (List.take 2) same
  rw [List.take_left' (by decide)] at heads
  exact heads.symm

/-- What follows the first two bytes does not matter. -/
theorem OtherReason.append (reason : OtherReason message) (more : Text) :
    OtherReason (message ++ more) := by
  obtain ⟨first, second, rest, rfl, other⟩ := reason
  exact ⟨first, second, rest ++ more, rfl, other⟩

/-- Two bytes tell the kinds apart. -/
theorem otherReason_of_take (long : 2 ≤ message.length) (other : message.take 2 ≠ ascii "Ma") :
    OtherReason message := by
  rcases message with _ | ⟨first, _ | ⟨second, rest⟩⟩
  · cases long
  · exact absurd long (by simp)
  · exact ⟨first, second, rest, rfl, other⟩

/-- The help text is of the other kind. -/
theorem otherReason_help : OtherReason kLogHelpTextGeneral := by
  have start : OtherReason kLogGeneralHelpText :=
    otherReason_of_take (by decide +kernel) (by decide +kernel)
  simp only [kLogHelpTextGeneral, List.append_assoc]
  exact start.append _

/-- The errors of a format start with blanks or with a quotation. -/
theorem otherReason_formatError {format : Text} (failed : formatError format = some message) :
    OtherReason message := by
  obtain ⟨i, -, failed⟩ := formatError_eq_some_iff.mp failed
  rw [checkPosition] at failed
  split_ifs at failed
  · cases failed
    have length : (ascii "Invalid value: ").length = 13 + 1 + 1 := by decide +kernel
    simp only [tooCloseError, length, ← Nat.add_assoc, List.replicate_succ, List.cons_append]
    exact ⟨32, 32, _, rfl, by decide +kernel⟩
  · cases failed
    have start : OtherReason quotePrefix :=
      otherReason_of_take (by decide +kernel) (by decide +kernel)
    simp only [unknownError, List.append_assoc]
    exact start.append _

end Texts

section Parsers

/-- A sink on the parser's list permits the flag. -/
theorem sinkPermits_of_mem {permitted : List LogSink}
    (restricted : permittedSinks flag = some permitted) (member : store .logSink ∈ permitted) :
    SinkPermits store flag := by
  rintro _ same
  rw [restricted] at same
  cases same
  exact member

/-- A sink that is not on the parser's list is the reason. -/
theorem Rejected.of_not_mem {permitted : List LogSink} {allowed : String}
    (restricted : permittedSinks flag = some permitted) (refused : store .logSink ∉ permitted)
    (passes : flag = .logFSize → PassesTest store flag value) :
    Rejected store flag value (sinkError store allowed) :=
  .sink allowed (fun permits => refused (permits _ restricted)) passes

/-- A flag whose parser returns true on every value that passes its test. -/
theorem Rejected.of_test (sound : ¬ EndsInFalse flag)
    (permits : flag ≠ .logFSize → SinkPermits store flag) (outside : ¬ InRange store flag value)
    (reason : OtherReason message) : Rejected store flag value message :=
  .range permits (fun passes => passes.elim outside fun bad => sound bad.1) reason

/-- A parser that only checks the sink has one error. -/
theorem parseRestricted_eq_error_iff {Flag : Type} {isDefault : Flag → Bool}
    {permitted : List LogSink} {allowed : String} {flag : Flag} :
    parseRestricted isDefault permitted allowed store (.ok flag) = .error message ↔
      isDefault flag = false ∧ store .logSink ∉ permitted ∧ message = sinkError store allowed := by
  dsimp only [parseRestricted]
  split_ifs <;> grind

/-- The port and the packet size. -/
theorem Rejected.of_endsInFalse {permitted : List LogSink} {allowed : String} {inside : Prop}
    [Decidable inside] {outsideText : Text} (bad : EndsInFalse flag)
    (restricted : permittedSinks flag = some permitted) (noValue : ¬ InRange store flag value)
    (stated : inside ↔ StatedRange store flag value) (reason : OtherReason outsideText)
    (failed : (if flag.isDefault value then .ok value
      else if store .logSink ∉ permitted then .error (sinkError store allowed)
      else if ¬ inside then .error outsideText
      else .error [] : Except Text flag.Value) = .error message) :
    Rejected store flag value message := by
  split_ifs at failed with isDefault member isInside
  · cases failed
    exact .silent (sinkPermits_of_mem restricted member) bad (stated.mp isInside)
  · cases failed
    refine .range (fun _ => sinkPermits_of_mem restricted member) ?_ reason
    exact fun passes => passes.elim noValue fun passed => isInside (stated.mpr passed.2)
  · cases failed
    refine .of_not_mem restricted member ?_
    rintro rfl
    simp [EndsInFalse] at bad

/-- The texts of the range tests say what the value must be. -/
theorem otherReason_literals :
    ∀ literal ∈ ["Value is too long (", "Must have a value greater than ",
      "Value must be between 0 and ", "Value must be between ", "Value must be between 0  and "],
      OtherReason (ascii literal) := by
  intro literal member
  refine otherReason_of_take ?_ ?_
  · revert literal
    decide +kernel
  · revert literal
    decide +kernel

/-- A name is rejected for its length only. -/
theorem LogName.rejected {flag : LogName} (decoded : decode absl .logName text = .ok flag)
    (failed : LogName.abslParseFlag absl text = .error message) :
    Rejected store .logName flag message := by
  simp only [LogName.abslParseFlag, decode] at decoded failed
  cases parsed : absl.parseString text with
  | error _ =>
    rw [parsed] at decoded
    cases decoded
  | ok name =>
    rw [parsed] at decoded failed
    cases decoded
    dsimp only at failed
    split_ifs at failed with long
    cases failed
    refine .of_test (by simp [EndsInFalse]) (fun _ => sinkPermits_of_unrestricted rfl)
      (Nat.not_le.mpr long) ?_
    simp only [List.append_assoc]
    exact (otherReason_literals _ (by simp)).append _

/-- A pool size is rejected for being too small only. -/
theorem LogPoolSize.rejected {flag : LogPoolSize}
    (decoded : decode absl .logPoolSize text = .ok flag)
    (failed : LogPoolSize.abslParseFlag absl text = .error message) :
    Rejected store .logPoolSize flag message := by
  simp only [LogPoolSize.abslParseFlag, decode] at decoded failed
  cases parsed : absl.parseInt text with
  | error _ =>
    rw [parsed] at decoded
    cases decoded
  | ok poolSize =>
    rw [parsed] at decoded failed
    cases decoded
    dsimp only at failed
    split_ifs at failed with small
    cases failed
    refine .of_test (by simp [EndsInFalse]) (fun _ => sinkPermits_of_unrestricted rfl)
      (Int32.not_le.mpr small) ?_
    simp only [List.append_assoc]
    exact (otherReason_literals _ (by simp)).append _

/-- A request for help is rejected with the help text. -/
theorem LogHelp.rejected {flag : LogHelp} (decoded : decode absl .logHelp text = .ok flag)
    (failed : LogHelp.abslParseFlag absl text = .error message) :
    Rejected store .logHelp flag message := by
  simp only [LogHelp.abslParseFlag, decode] at decoded failed
  cases parsed : absl.parseBool text with
  | error _ =>
    rw [parsed] at decoded
    cases decoded
  | ok help =>
    rw [parsed] at decoded failed
    cases decoded
    dsimp only at failed
    split_ifs at failed with asked
    cases failed
    exact .of_test (by simp [EndsInFalse]) (fun _ => sinkPermits_of_unrestricted rfl)
      (by simp [InRange, asked]) otherReason_help

/-- A port is rejected for the sink, for its range, or without a text. -/
theorem LogPort.rejected {flag : LogPort} (decoded : decode absl .logPort text = .ok flag)
    (failed : LogPort.abslParseFlag absl store text = .error message) :
    Rejected store .logPort flag message := by
  simp only [LogPort.abslParseFlag, decode] at decoded failed
  rw [decoded] at failed
  refine @Rejected.of_endsInFalse store message .logPort flag _ _
    (flag.port > 0 ∧ flag.port ≤ LogPort.kPortMax) inferInstance _ (.inl rfl) rfl id Iff.rfl ?_
    failed
  simp only [List.append_assoc]
  exact (otherReason_literals _ (by simp)).append _

/-- A packet size is rejected for the sink, for its range, or without a text. -/
theorem LogPacketSize.rejected {flag : LogPacketSize}
    (decoded : decode absl .logPacketSize text = .ok flag)
    (failed : LogPacketSize.abslParseFlag absl store text = .error message) :
    Rejected store .logPacketSize flag message := by
  simp only [LogPacketSize.abslParseFlag, decode] at decoded failed
  rw [decoded] at failed
  refine @Rejected.of_endsInFalse store message .logPacketSize flag _ _
    (flag.packetSize ≥ LogPacketSize.kPacketSizeMin ∧
      flag.packetSize ≤ LogPacketSize.kPacketSizeMax) inferInstance _ (.inr rfl) rfl id Iff.rfl ?_
    failed
  simp only [List.append_assoc]
  exact (otherReason_literals _ (by simp)).append _

/-- A window is rejected for the sink or for the bound. -/
theorem LogWindow.rejected {flag : LogWindow} (decoded : decode absl .logWindow text = .ok flag)
    (failed : LogWindow.abslParseFlag absl store text = .error message) :
    Rejected store .logWindow flag message := by
  simp only [LogWindow.abslParseFlag, decode] at decoded failed
  rw [decoded] at failed
  dsimp only at failed
  split_ifs at failed with isDefault member outside
  · cases failed
    refine .of_test (by simp [EndsInFalse]) (fun _ => sinkPermits_of_mem rfl member) ?_ ?_
    · rintro ⟨least, greatest⟩
      exact outside.elim (Int32.not_lt.mpr least) (Int32.not_lt.mpr greatest)
    · simp only [List.append_assoc]
      exact (otherReason_literals _ (by simp)).append _
  · cases failed
    exact .of_not_mem rfl member (by simp)

/-- A format is rejected for the sink or for its first bad `%`. -/
theorem LogFormat.rejected {flag : LogFormat} (decoded : decode absl .logFormat text = .ok flag)
    (failed : LogFormat.abslParseFlag absl store text = .error message) :
    Rejected store .logFormat flag message := by
  simp only [LogFormat.abslParseFlag, decode] at decoded failed
  rw [decoded] at failed
  dsimp only at failed
  split_ifs at failed with refused
  · cases failed
    exact .of_not_mem rfl refused.1 (by simp)
  · cases bad : formatError flag.format with
    | none =>
      rw [bad] at failed
      cases failed
    | some reported =>
      rw [bad] at failed
      cases failed
      have notItems : ¬ FormatItems flag.format := by
        intro items
        rw [formatError_eq_none_iff.mpr items] at bad
        cases bad
      have notDefault : ¬ flag.isDefault = true := by
        intro isDefault
        exact notItems (@inRange_of_isDefault store .logFormat flag (by simp) isDefault)
      have member := not_not.mp fun other => refused ⟨other, notDefault⟩
      exact .of_test (by simp [EndsInFalse]) (fun _ => sinkPermits_of_mem rfl member) notItems
        (otherReason_formatError bad)

/-- A file size is rejected for its limit before the sink is looked at. -/
theorem LogFSize.rejected {flag : LogFSize} (decoded : decode absl .logFSize text = .ok flag)
    (failed : LogFSize.abslParseFlag absl store text = .error message) :
    Rejected store .logFSize flag message := by
  simp only [LogFSize.abslParseFlag, decode] at decoded failed
  rw [decoded] at failed
  dsimp only at failed
  split_ifs at failed with isDefault large member
  · cases failed
    refine .of_test (by simp [EndsInFalse]) (fun other => absurd rfl other)
      (Int64.not_le.mpr large) ?_
    simp only [List.append_assoc]
    exact (otherReason_literals _ (by simp)).append _
  · cases failed
    exact .of_not_mem rfl member fun _ => .inl (Int64.not_lt.mp large)

end Parsers

/-- Every text that a parser leaves for a value it read says why it is rejected. -/
theorem rejected_of_error (decoded : decode absl flag text = .ok value)
    (failed : abslParseFlag absl store flag text = .error message) :
    Rejected store flag value message := by
  cases flag
  case logSink | logIntVerb | logTraceVerb | logging =>
    have parsed := decoded.symm.trans failed
    cases parsed
  case logName => exact LogName.rejected decoded failed
  case logPoolSize => exact LogPoolSize.rejected decoded failed
  case logHelp => exact LogHelp.rejected decoded failed
  case logPort => exact LogPort.rejected decoded failed
  case logPacketSize => exact LogPacketSize.rejected decoded failed
  case logWindow => exact LogWindow.rejected decoded failed
  case logFormat => exact LogFormat.rejected decoded failed
  case logFSize => exact LogFSize.rejected decoded failed
  all_goals
    simp only [decode] at decoded
    simp only [abslParseFlag, LogAddress.abslParseFlag, LogEto.abslParseFlag,
      LogFacility.abslParseFlag, LogDir.abslParseFlag, LogRoll.abslParseFlag,
      LogFiles.abslParseFlag, decoded, parseRestricted_eq_error_iff] at failed
    obtain ⟨-, refused, rfl⟩ := failed
    exact .of_not_mem rfl refused (by simp)

/-- A value that does not pass the checks is rejected. -/
theorem exists_error (decoded : decode absl flag text = .ok value)
    (refused : ¬ Accepts store flag value) :
    ∃ message, abslParseFlag absl store flag text = .error message := by
  cases result : abslParseFlag absl store flag text with
  | error message => exact ⟨message, rfl⟩
  | ok other =>
    obtain ⟨read, accepted⟩ := abslParseFlag_eq_ok_iff.mp result
    obtain rfl := Except.ok.inj (decoded.symm.trans read)
    exact absurd accepted refused

/-- A default is never rejected. -/
theorem not_default_of_error (decoded : decode absl flag text = .ok value)
    (failed : abslParseFlag absl store flag text = .error message) :
    flag.isDefault value = false := by
  by_contra isDefault
  have accepted : Accepts store flag value := .inl (by simpa using isDefault)
  rw [abslParseFlag_eq_ok_iff.mpr ⟨decoded, accepted⟩] at failed
  cases failed

/-- A parser names the current sink exactly when it read a value other than the default that
the sink does not permit; the file size is tested before. -/
theorem blames_sink_iff (decoded : decode absl flag text = .ok value) :
    (∃ message, abslParseFlag absl store flag text = .error message ∧ BlamesSink store message) ↔
      flag.isDefault value = false ∧ ¬ SinkPermits store flag ∧
        (flag = .logFSize → PassesTest store flag value) := by
  constructor
  · rintro ⟨message, failed, blames⟩
    refine ⟨not_default_of_error decoded failed, ?_⟩
    cases rejected_of_error decoded failed with
    | sink allowed refused small => exact ⟨refused, small⟩
    | range _ _ reason => exact absurd blames reason.not_blamesSink
    | silent => exact absurd rfl blames.ne_nil
  · rintro ⟨notDefault, refused, small⟩
    obtain ⟨message, failed⟩ := @exists_error absl store text flag value decoded fun accepted =>
      accepted.elim (by simp [notDefault]) fun passed => refused passed.1
    refine ⟨message, failed, ?_⟩
    cases rejected_of_error decoded failed with
    | sink allowed => exact blamesSink_sinkError allowed
    | range permits outside =>
      by_cases isSize : flag = .logFSize
      · exact absurd (small isSize) outside
      · exact absurd (permits isSize) refused
    | silent permits => exact absurd permits refused

/-- `--log_facility=3` under the default sink. -/
theorem blames_sink_facility :
    ∃ message, abslParseFlag decimalAbsl Store.default .logFacility (ascii "3") = .error message ∧
      BlamesSink Store.default message := by
  have read : decode decimalAbsl .logFacility (ascii "3") = .ok ⟨3⟩ := by decide +kernel
  exact (blames_sink_iff read).mpr ⟨by decide, by decide, fun size => by cases size⟩

/-- A parser that read a value rejects it without a text exactly if it is a port or a packet
size other than the default that passes every check. -/
theorem silent_iff (decoded : decode absl flag text = .ok value) :
    abslParseFlag absl store flag text = .error [] ↔
      EndsInFalse flag ∧ flag.isDefault value = false ∧ SinkPermits store flag ∧
        StatedRange store flag value := by
  constructor
  · intro failed
    have notDefault := not_default_of_error decoded failed
    generalize noText : ([] : Text) = message at failed
    cases rejected_of_error decoded failed with
    | sink allowed => exact absurd noText.symm (blamesSink_sinkError allowed).ne_nil
    | range _ _ reason => exact absurd noText.symm reason.ne_nil
    | silent permits bad stated => exact ⟨bad, notDefault, permits, stated⟩
  · rintro ⟨bad, notDefault, permits, stated⟩
    obtain ⟨message, failed⟩ := @exists_error absl store text flag value decoded fun accepted =>
      accepted.elim (by simp [notDefault]) fun passed => by
        rcases bad with rfl | rfl <;> exact passed.2
    rw [failed]
    cases rejected_of_error decoded failed with
    | sink _ refused => exact absurd permits refused
    | range _ outside => exact absurd (.inr ⟨bad, stated⟩) outside
    | silent => rfl

/-- `--log_port=8080` under the default sink. -/
theorem silent_port :
    abslParseFlag decimalAbsl Store.default .logPort (ascii "8080") = .error [] := by
  have read : decode decimalAbsl .logPort (ascii "8080") = .ok ⟨8080⟩ := by decide +kernel
  have inside : (0 : Int32) < 8080 ∧ 8080 ≤ LogPort.kPortMax := by decide
  exact (silent_iff read).mpr ⟨.inl rfl, by decide, by decide, inside⟩

end LoggerV2.Flags
