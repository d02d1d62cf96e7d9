import LoggerV2.Library.Program
import LoggerV2.Flags.Accept

/-!
# What the log format parser reads

`AbslParseFlag(LogFormat)` once more, with every access to the bytes of `flag->format`
as a call. Run on a text it returns what `LogFormat.abslParseFlag` does, and no call it
can make reaches past the end of the text.
-/

namespace LoggerV2.Flags

open Verification

/-- `flag->format[index]` and `flag->format.substr(pos, count)`. -/
inductive FormatRead where
  | byte (index : Nat)
  | substr (pos count : Nat)
deriving DecidableEq, Repr

@[reducible] def FormatRead.Reply : FormatRead → Type
  | .byte _ => UInt8
  | .substr _ _ => Text

/-- The access starts inside the text. A slice stops at the end by itself. -/
def FormatRead.Within (format : Text) : FormatRead → Prop
  | .byte index => index < format.length
  | .substr pos _ => pos < format.length

/-- The bytes of a text. -/
def FormatRead.answer (format : Text) : (access : FormatRead) → Unit → access.Reply × Unit
  | .byte index, _ => (format.getD index 0, ())
  | .substr pos count, _ => ((format.drop pos).take count, ())

/-- A program that reads the format and may end in an error text. -/
abbrev FormatProgram := Program FormatRead FormatRead.Reply Text

/-- The loop over `format_strings`. The second byte is read only where the first agrees. -/
def readCode (i : Nat) : List Text → FormatProgram Bool
  | [] => pure false
  | code :: rest => do
    let first ← Program.perform (.byte (i + 1))
    if some first = code[0]? then
      let second ← Program.perform (.byte (i + 2))
      if some second = code[1]? then pure true else readCode i rest
    else readCode i rest

/-- One iteration of the loop over `positions`. -/
def readPosition (format : Text) (i : Nat) : FormatProgram Unit :=
  if i + 2 ≥ format.length then .fail (tooCloseError format i)
  else do
    if ← readCode i formatStrings then pure ()
    else
      let sequence ← Program.perform (.substr (i + 1) (i + 2))
      .fail (unknownError format (i + quotePrefix.length) sequence)

/-- The loop over `positions`. -/
def readPositions (format : Text) : List Nat → FormatProgram Unit
  | [] => pure ()
  | i :: rest => do
    readPosition format i
    readPositions format rest

/-- `AbslParseFlag(LogFormat)`. -/
def LogFormat.readFlag (absl : Absl) (store : Store) (text : Text) : FormatProgram LogFormat :=
  match (absl.parseString text).map LogFormat.mk with
  | .error message => .fail message
  | .ok flag =>
    if store .logSink ∉ [LogSink.kText, .kConsole, .kSyslog, .kAuto] ∧ ¬ flag.isDefault then
      .fail (sinkError store
        (".  Flag may only be used with log_sink=text, log_sink=console, " ++
          "log_sink=syslog, or log_sink=auto."))
    else do
      readPositions flag.format (positions flag.format)
      pure flag

variable {absl : Absl} {store : Store} {format text : Text} {i : Nat}

/-- Away from the last two bytes, every code is looked for inside the text. -/
theorem readCode_only (room : i + 2 < format.length) (codes : List Text) :
    (readCode i codes).Only (FormatRead.Within format) := by
  induction codes with
  | nil => exact .pure false
  | cons code rest ih =>
    refine .bind (.perform (show i + 1 < format.length by omega)) fun first => ?_
    split
    · refine .bind (.perform (show i + 2 < format.length from room)) fun second => ?_
      split
      · exact .pure true
      · exact ih
    · exact ih

/-- What an iteration reads is inside the text. -/
theorem readPosition_only : (readPosition format i).Only (FormatRead.Within format) := by
  rw [readPosition]
  split
  · exact .fail _
  · rename_i room
    refine .bind (readCode_only (by omega) _) fun found => ?_
    split
    · exact .pure ()
    · exact .bind (.perform (show i + 1 < format.length by omega)) fun sequence => .fail _

theorem readPositions_only (indices : List Nat) :
    (readPositions format indices).Only (FormatRead.Within format) := by
  induction indices with
  | nil => exact .pure ()
  | cons i rest ih => exact .bind readPosition_only fun _ => ih

/-- Inside the text, a byte that is read is that of the text. -/
theorem some_answer_byte {index : Nat} (inside : index < format.length) :
    some (FormatRead.answer format (.byte index) ()).1 = format[index]? := by
  simp [FormatRead.answer, List.getD, inside]

/-- The loop finds the code whose two bytes follow. -/
theorem run_readCode (room : i + 2 < format.length) (codes : List Text) :
    (readCode i codes).run (FormatRead.answer format) () =
      (.ok (codes.any fun code => format[i + 1]? = code[0]? ∧ format[i + 2]? = code[1]?), ()) := by
  induction codes with
  | nil => rfl
  | cons code rest ih =>
    rw [readCode, Program.run_perform_bind, List.any_cons,
      ← some_answer_byte (show i + 1 < format.length by omega), ← some_answer_byte room]
    rw [← some_answer_byte (show i + 1 < format.length by omega), ← some_answer_byte room] at ih
    split
    · rename_i one
      rw [Program.run_perform_bind]
      split
      · rename_i two
        simp [one, two]
      · rename_i two
        exact ih.trans (by simp [two])
    · rename_i one
      exact ih.trans (by simp [one])

/-- One position reports what `checkPosition` does. -/
theorem run_readPosition :
    (readPosition format i).run (FormatRead.answer format) () =
      ((checkPosition format i).elim (.ok ()) .error, ()) := by
  rw [readPosition, checkPosition]
  split
  · rfl
  · rename_i room
    rw [Program.run_bind, run_readCode (by omega)]
    dsimp only
    rw [← foundCode]
    cases foundCode format i <;> rfl

/-- The loop ends in the first error of an iteration. -/
theorem run_readPositions (indices : List Nat) :
    (readPositions format indices).run (FormatRead.answer format) () =
      ((indices.findSome? (checkPosition format)).elim (.ok ()) .error, ()) := by
  induction indices with
  | nil => rfl
  | cons i rest ih =>
    rw [readPositions, Program.run_bind, run_readPosition, List.findSome?_cons]
    cases checkPosition format i with
    | none => exact ih
    | some message => rfl

/-- On the bytes of the text, the parser returns what `LogFormat.abslParseFlag` does. -/
theorem LogFormat.run_readFlag (copies : absl.CopiesStrings) (store : Store) (text : Text) :
    (LogFormat.readFlag absl store text).run (FormatRead.answer text) () =
      (LogFormat.abslParseFlag absl store text, ()) := by
  rw [LogFormat.readFlag, LogFormat.abslParseFlag, copies text]
  dsimp only [Except.map]
  split
  · rfl
  · rw [Program.run_bind, run_readPositions, ← formatError]
    cases formatError text <;> rfl

/-- The parser reads inside the text, if the string was taken as it is. -/
theorem LogFormat.readFlag_only (copies : absl.CopiesStrings) (store : Store) (text : Text) :
    (LogFormat.readFlag absl store text).Only (FormatRead.Within text) := by
  rw [LogFormat.readFlag, copies text]
  dsimp only [Except.map]
  split
  · exact .fail _
  · exact .bind (readPositions_only _) fun _ => .pure _

/-- The parser accepts the default, and under four sinks any other text, if it is a
concatenation of items; it reads inside the text whatever it returns. -/
theorem LogFormat.parses_exactly_items (copies : absl.CopiesStrings) (store : Store) (text : Text) :
    ((∃ flag, LogFormat.abslParseFlag absl store text = .ok flag) ↔
      (text = kLogFormatDefault.format ∨
        store .logSink ∈ [LogSink.kText, .kConsole, .kSyslog, .kAuto]) ∧ FormatItems text) ∧
    (LogFormat.readFlag absl store text).run (FormatRead.answer text) () =
      (LogFormat.abslParseFlag absl store text, ()) ∧
    (LogFormat.readFlag absl store text).Only (FormatRead.Within text) := by
  refine ⟨?_, run_readFlag copies store text, readFlag_only copies store text⟩
  simp only [LogFormat.abslParseFlag_eq_ok_iff, copies text, Except.map, Except.ok.injEq]
  constructor
  · rintro ⟨_, rfl, permitted, items⟩
    exact ⟨by simpa [LogFormat.isDefault] using permitted, items⟩
  · rintro ⟨permitted, items⟩
    exact ⟨⟨text⟩, rfl, by simpa [LogFormat.isDefault] using permitted, items⟩

/-- The default is accepted under the sink `baical` as well. -/
theorem LogFormat.parses_default :
    ((∃ flag, LogFormat.abslParseFlag decimalAbsl (Store.default.set .logSink .kBaical)
        kLogFormatDefault.format = .ok flag) ↔
      (kLogFormatDefault.format = kLogFormatDefault.format ∨
        Store.default.set .logSink .kBaical .logSink ∈
          [LogSink.kText, .kConsole, .kSyslog, .kAuto]) ∧
        FormatItems kLogFormatDefault.format) ∧
    (LogFormat.readFlag decimalAbsl (Store.default.set .logSink .kBaical)
      kLogFormatDefault.format).run (FormatRead.answer kLogFormatDefault.format) () =
      (LogFormat.abslParseFlag decimalAbsl (Store.default.set .logSink .kBaical)
        kLogFormatDefault.format, ()) ∧
    (LogFormat.readFlag decimalAbsl (Store.default.set .logSink .kBaical)
      kLogFormatDefault.format).Only (FormatRead.Within kLogFormatDefault.format) :=
  LogFormat.parses_exactly_items decimalAbsl_copiesStrings _ _

end LoggerV2.Flags
