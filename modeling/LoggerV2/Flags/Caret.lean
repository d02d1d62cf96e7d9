import Mathlib.Data.List.DropRight
import LoggerV2.Flags.Accept

/-!
# Where the log format error points

The error of a rejected format is that of the leftmost `%` without a valid item. It
quotes the bytes after that `%` and puts a caret line under the quoted format. The slice
takes an offset for a count, so the quoted bytes are the two after the `%` only at the
very start or three bytes before the end; and the caret counts from the start of the
format, so it is under the `%` only if the `%` is on the first line.
-/

namespace LoggerV2.Flags

open Verification

/-- How far an index is from the start of its line. -/
def column (text : Text) (index : Nat) : Nat :=
  ((text.take index).rtakeWhile fun byte => byte ≠ newline).length

/-- The error names the position of the `%` when it is too close to the end; otherwise it
quotes the two bytes after it, and the caret is in its column. -/
structure ReportsPlace (format : Text) (i : Nat) (message : Text) : Prop where
  tooClose : format.length ≤ i + 2 → message = tooCloseError format i
  unknown : i + 2 < format.length →
    message = unknownError format (column (quotePrefix ++ format) (quotePrefix.length + i))
      ((format.drop (i + 1)).take 2)

variable {absl : Absl} {store : Store} {format text message : Text} {i : Nat}

/-- A run of one byte that another byte ends. -/
theorem replicate_append_cons_inj {byte other : UInt8} (different : other ≠ byte) {left right : Nat}
    {front back : Text} : List.replicate left byte ++ other :: front =
      List.replicate right byte ++ other :: back ↔ left = right ∧ front = back := by
  induction left generalizing right with
  | zero =>
    cases right with
    | zero => simp
    | succ right => simp [List.replicate_succ, different]
  | succ left ih =>
    cases right with
    | zero => simp [List.replicate_succ, Ne.symm different]
    | succ right => simp [List.replicate_succ, ih]

/-- The error shows its indentation and its sequence. -/
theorem unknownError_inj {left right : Nat} {first second : Text} :
    unknownError format left first = unknownError format right second ↔
      left = right ∧ first = second := by
  obtain ⟨tail, starts⟩ : ∃ tail, caretText = 94 :: tail := ⟨caretText.tail, by decide +kernel⟩
  simp only [unknownError, starts, List.append_assoc, List.append_cancel_left_eq,
    List.cons_append, replicate_append_cons_inj (show (94 : UInt8) ≠ 32 by decide),
    List.append_cancel_right_eq]

/-- A place is in the column that its offset says exactly if no newline is before it. -/
theorem column_eq_iff (inside : i ≤ format.length) :
    column (quotePrefix ++ format) (quotePrefix.length + i) = quotePrefix.length + i ↔
      newline ∉ format.take i := by
  have start : newline ∉ quotePrefix := by decide +kernel
  have front : (quotePrefix ++ format).take (quotePrefix.length + i) =
      quotePrefix ++ format.take i := List.take_length_add_append i
  have length : quotePrefix.length + i = (quotePrefix ++ format.take i).length := by
    simp [inside]
  rw [column, front, length]
  constructor
  · intro whole
    have same := List.rtakeWhile_eq_self_iff.mp
      ((List.rtakeWhile_suffix _ _).eq_of_length whole)
    exact fun member => by simpa using same newline (List.mem_append_right _ member)
  · intro free
    refine congrArg List.length (List.rtakeWhile_eq_self_iff.mpr fun byte member => ?_)
    rcases List.mem_append.mp member with before | later
    · exact decide_eq_true fun same => start (same ▸ before)
    · exact decide_eq_true fun same => free (same ▸ later)

/-- The slice at an offset, of that many bytes and one more, is the two bytes there. -/
theorem take_eq_take_two_iff (room : i + 2 < format.length) :
    (format.drop (i + 1)).take (i + 2) = (format.drop (i + 1)).take 2 ↔
      i = 0 ∨ i + 3 = format.length := by
  rw [List.take_eq_take_iff, List.length_drop]
  omega

/-- The error of a position is in the right place exactly if the slice has two bytes and
the `%` is on the first line. -/
theorem reportsPlace_iff (leftmost : FirstBad format i)
    (failed : checkPosition format i = some message) :
    ReportsPlace format i message ↔
      (i + 2 < format.length → (i = 0 ∨ i + 3 = format.length) ∧ newline ∉ format.take i) := by
  rw [checkPosition] at failed
  by_cases close : i + 2 ≥ format.length
  · rw [if_pos close] at failed
    have fails := Option.some.inj failed
    exact iff_of_true ⟨fun _ => fails.symm, fun room => by omega⟩ fun room => by omega
  · have room : i + 2 < format.length := by omega
    rw [if_neg close, if_neg (foundCode_iff.not.mpr leftmost.bad)] at failed
    obtain rfl := Option.some.inj failed
    have inside : i ≤ format.length := by omega
    have same : unknownError format (i + quotePrefix.length)
        ((format.drop (i + 1)).take (i + 2)) =
        unknownError format (column (quotePrefix ++ format) (quotePrefix.length + i))
          ((format.drop (i + 1)).take 2) ↔
        (i = 0 ∨ i + 3 = format.length) ∧ newline ∉ format.take i := by
      rw [unknownError_inj, take_eq_take_two_iff room, Nat.add_comm i quotePrefix.length,
        @eq_comm _ (quotePrefix.length + i), column_eq_iff inside, and_comm]
    exact ⟨fun reports _ => same.mp (reports.unknown room),
      fun condition => ⟨fun close => by omega, fun _ => same.mpr (condition room)⟩⟩

/-- A format that is rejected for its contents is reported at its leftmost bad `%`, and
`reportsPlace_iff` says when in the right place. -/
theorem LogFormat.reports_place_iff (copies : absl.CopiesStrings)
    (permitted : text = kLogFormatDefault.format ∨
      store .logSink ∈ [LogSink.kText, .kConsole, .kSyslog, .kAuto])
    (rejected : LogFormat.abslParseFlag absl store text = .error message) :
    ∃ i, FirstBad text i ∧ (ReportsPlace text i message ↔
      (i + 2 < text.length → (i = 0 ∨ i + 3 = text.length) ∧ newline ∉ text.take i)) := by
  have failed : formatError text = some message := by
    rw [LogFormat.abslParseFlag, copies text] at rejected
    dsimp only [Except.map] at rejected
    split at rejected
    · rename_i refused
      rcases permitted with rfl | allowed
      · exact absurd rfl refused.2
      · exact absurd allowed refused.1
    · cases result : formatError text with
      | none => simp [result] at rejected
      | some found => simpa [result] using rejected
  obtain ⟨i, leftmost, failed⟩ := formatError_eq_some_iff.mp failed
  exact ⟨i, leftmost, reportsPlace_iff leftmost failed⟩

/-- `%zz` at the start of a format. -/
theorem LogFormat.reports_place_start :
    ∃ i, FirstBad (ascii "%zz") i ∧ (ReportsPlace (ascii "%zz") i
        (unknownError (ascii "%zz") 17 (ascii "zz")) ↔
      (i + 2 < (ascii "%zz").length →
        (i = 0 ∨ i + 3 = (ascii "%zz").length) ∧ newline ∉ (ascii "%zz").take i)) :=
  @LogFormat.reports_place_iff decimalAbsl Store.default (ascii "%zz") _
    decimalAbsl_copiesStrings (.inr (by decide)) (by decide +kernel)

/-- `ab%zzcd` is reported with the sequence `zzcd`. -/
theorem LogFormat.misquotes :
    ∃ text message i, LogFormat.abslParseFlag decimalAbsl Store.default text = .error message ∧
      FirstBad text i ∧ ¬ ReportsPlace text i message := by
  refine ⟨ascii "ab%zzcd", unknownError (ascii "ab%zzcd") 19 (ascii "zzcd"), 2, by decide +kernel,
    ⟨rfl, foundCode_iff.not.mp (by decide +kernel), fun j before here => ?_⟩, fun reports => ?_⟩
  · have only : positions (ascii "ab%zzcd") = [2] := by decide +kernel
    have member := mem_positions.mpr here
    rw [only, List.mem_singleton] at member
    omega
  · have same := unknownError_inj.mp (reports.unknown (by decide))
    exact absurd same.2 (by decide)

end LoggerV2.Flags
