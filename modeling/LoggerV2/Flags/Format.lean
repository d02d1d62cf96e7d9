import Mathlib.Data.List.Basic
import LoggerV2.Library.Text

/-!
# The log format validator

The content check of `AbslParseFlag(LogFormat)`: collect every `%`, then require a
two-letter code after each. `formatError_eq_none_iff` identifies it with the
left-to-right grammar `FormatItems`.
-/

namespace LoggerV2.Flags

open Verification

/-- The byte `%`. -/
def percent : UInt8 := 37

/-- `format_strings`: the codes that may follow a `%`. -/
def formatStrings : List Text :=
  ["cn", "id", "ix", "tf", "tm", "ts", "td", "tc", "lv", "ti", "tn", "cc", "mi", "mn",
    "ff", "fs", "fl", "fn", "ms"].map ascii

/-- The loop that pushes `pos` and looks for the next `%`, at most `bound` times. -/
def percentPositions (format : Text) : Nat → Option Nat → List Nat
  | bound + 1, some pos =>
    pos :: percentPositions format bound (find format [percent] (pos + 1))
  | _, _ => []

/-- The vector `positions`. -/
def positions (format : Text) : List Nat :=
  percentPositions format (format.length + 1) (find format [percent] 0)

/-- Whether the two bytes after index `i` spell one of the codes. -/
def foundCode (format : Text) (i : Nat) : Bool :=
  formatStrings.any fun code => format[i + 1]? = code[0]? ∧ format[i + 2]? = code[1]?

/-- The error of a `%` with fewer than two bytes after it. -/
def tooCloseError (format : Text) (i : Nat) : Text :=
  List.replicate (i + (ascii "Invalid value: ").length) 32 ++
    List.replicate (format.length - i) 94 ++
    ascii "\nFound format string delimiter character '%' too close to end of string at position " ++
    decimal i ++ ascii ". \nNot enough room for format node to be valid.  "

/-- What precedes the format in the error of a `%` with an unknown sequence. -/
def quotePrefix : Text := ascii "Invalid value:  '"

/-- The carets, and what precedes the sequence. -/
def caretText : Text :=
  ascii "^^^\nFound format string delimiter character '%' followed by unknown sequence '"

/-- The error of a `%` with an unknown sequence: the format, the caret line, the sequence. -/
def unknownError (format : Text) (indent : Nat) (sequence : Text) : Text :=
  quotePrefix ++ format ++ ascii "'.\n" ++ List.replicate indent 32 ++ caretText ++ sequence ++
    ascii "' ."

/-- One iteration of the loop over `positions`: the error it reports, if any. -/
def checkPosition (format : Text) (i : Nat) : Option Text :=
  if i + 2 ≥ format.length then some (tooCloseError format i)
  else if foundCode format i then none
  else
    some (unknownError format (i + quotePrefix.length) ((format.drop (i + 1)).take (i + 2)))

/-- The first error the loop returns. -/
def formatError (format : Text) : Option Text :=
  (positions format).findSome? (checkPosition format)

/-- A concatenation of bytes other than `%` and of `%` codes. -/
inductive FormatItems : Text → Prop where
  | nil : FormatItems []
  | plain {byte rest} (notPercent : byte ≠ percent) (items : FormatItems rest) :
      FormatItems (byte :: rest)
  | code {first second rest} (known : [first, second] ∈ formatStrings)
      (items : FormatItems rest) : FormatItems (percent :: first :: second :: rest)

/-- The item that starts at index `i` is `%` with one of the codes. -/
def ItemAt (format : Text) (i : Nat) : Prop :=
  ∃ first second, format[i + 1]? = some first ∧ format[i + 2]? = some second ∧
    [first, second] ∈ formatStrings

/-- `find` looks for the byte `%`. -/
private theorem percent_prefix_iff {format : Text} {i : Nat} :
    [percent] <+: format.drop i ↔ format[i]? = some percent := by
  rw [List.prefix_iff_getElem?]
  simp [List.getElem?_drop]

/-- With enough iterations, the loop collects every `%` from where it starts. -/
private theorem mem_percentPositions {format : Text} {bound pos i : Nat}
    (enough : format.length < bound + pos) :
    i ∈ percentPositions format bound (find format [percent] pos) ↔
      pos ≤ i ∧ format[i]? = some percent := by
  induction bound generalizing pos with
  | zero =>
    have outside : ∀ i, pos ≤ i → format[i]? = none := by
      intro i lower
      exact List.getElem?_eq_none (by omega)
    simp only [percentPositions, List.not_mem_nil, false_iff, not_and]
    intro lower
    simp [outside i lower]
  | succ bound ih =>
    cases result : find format [percent] pos with
    | none =>
      have absent := find_eq_none_iff.mp result
      simp only [percentPositions, List.not_mem_nil, false_iff, not_and]
      intro lower here
      obtain ⟨inside, -⟩ := List.getElem?_eq_some_iff.mp here
      exact absent i lower (by omega) (percent_prefix_iff.mpr here)
    | some next =>
      obtain ⟨lower, -, found, first⟩ := find_eq_some_iff.mp result
      rw [percentPositions, List.mem_cons, ih (by omega)]
      constructor
      · rintro (rfl | ⟨later, here⟩)
        · exact ⟨lower, percent_prefix_iff.mp found⟩
        · exact ⟨by omega, here⟩
      · rintro ⟨least, here⟩
        by_cases before : i < next
        · exact absurd (percent_prefix_iff.mpr here) (first i least before)
        · by_cases same : i = next
          · exact .inl same
          · exact .inr ⟨by omega, here⟩

/-- `positions` holds exactly the indices of `%`; its iteration bound suffices. -/
theorem mem_positions {format : Text} {i : Nat} :
    i ∈ positions format ↔ format[i]? = some percent := by
  rw [positions, mem_percentPositions (by omega)]
  simp

/-- Every code has two bytes, none of them `%`. -/
theorem formatStrings_shape {code : Text} (known : code ∈ formatStrings) :
    ∃ first second, code = [first, second] ∧ first ≠ percent ∧ second ≠ percent := by
  have all : ∀ code ∈ formatStrings, code.length = 2 ∧ percent ∉ code := by decide
  obtain ⟨length, clean⟩ := all code known
  obtain ⟨first, second, rfl⟩ := List.length_eq_two.mp length
  simp only [List.mem_cons, List.not_mem_nil, or_false, not_or] at clean
  exact ⟨first, second, rfl, Ne.symm clean.1, Ne.symm clean.2⟩

/-- The search for a code finds one exactly if an item starts here. -/
theorem foundCode_iff {format : Text} {i : Nat} :
    foundCode format i = true ↔ ItemAt format i := by
  simp only [foundCode, List.any_eq_true, decide_eq_true_eq]
  constructor
  · rintro ⟨code, known, one, two⟩
    obtain ⟨first, second, rfl, -, -⟩ := formatStrings_shape known
    exact ⟨first, second, one, two, known⟩
  · rintro ⟨first, second, one, two, known⟩
    exact ⟨[first, second], known, one, two⟩

/-- One position passes exactly when a valid item starts there. -/
theorem checkPosition_eq_none_iff {format : Text} {i : Nat} :
    checkPosition format i = none ↔ ItemAt format i := by
  rw [checkPosition]
  split
  · rename_i close
    constructor
    · intro impossible
      cases impossible
    · rintro ⟨first, second, -, two, -⟩
      obtain ⟨inside, -⟩ := List.getElem?_eq_some_iff.mp two
      omega
  · rw [← foundCode_iff]
    cases foundCode format i <;> simp

/-- Every `%` of a concatenation of items starts one of them. -/
theorem FormatItems.itemAt {format : Text} (items : FormatItems format) {i : Nat}
    (here : format[i]? = some percent) : ItemAt format i := by
  induction items generalizing i with
  | nil => simp at here
  | @plain byte rest notPercent _ ih =>
    cases i with
    | zero =>
      simp only [List.getElem?_cons_zero, Option.some.injEq] at here
      exact absurd here notPercent
    | succ i => exact ih (by simpa using here)
  | @code first second rest known _ ih =>
    obtain ⟨_, _, same, firstClean, secondClean⟩ := formatStrings_shape known
    cases same
    match i with
    | 0 => exact ⟨first, second, rfl, rfl, known⟩
    | 1 => exact absurd (Option.some.inj here) firstClean
    | 2 => exact absurd (Option.some.inj here) secondClean
    | i + 3 => exact ih (by simpa using here)

/-- A text whose every `%` starts a valid item is a concatenation of items. -/
theorem formatItems_of_itemAt {format : Text}
    (valid : ∀ i, format[i]? = some percent → ItemAt format i) : FormatItems format := by
  induction size : format.length using Nat.strong_induction_on generalizing format with
  | _ size ih =>
    subst size
    cases format with
    | nil => exact .nil
    | cons byte rest =>
      by_cases here : byte = percent
      · subst here
        obtain ⟨first, second, one, two, known⟩ := valid 0 rfl
        match rest, one, two with
        | first' :: second' :: rest, one, two =>
          obtain rfl : first' = first := Option.some.inj one
          obtain rfl : second' = second := Option.some.inj two
          refine .code known (ih rest.length (by simp only [List.length_cons]; omega) ?_ rfl)
          exact fun i here => by simpa [ItemAt] using valid (i + 3) (by simpa using here)
      · refine .plain here (ih rest.length (by simp) (fun i there => ?_) rfl)
        simpa [ItemAt] using valid (i + 1) (by simpa using there)

/-- The validator accepts exactly the concatenations of items. -/
theorem formatError_eq_none_iff {format : Text} :
    formatError format = none ↔ FormatItems format := by
  simp only [formatError, List.findSome?_eq_none_iff, mem_positions, checkPosition_eq_none_iff]
  exact ⟨formatItems_of_itemAt, fun items i here => items.itemAt here⟩

instance (format : Text) : Decidable (FormatItems format) :=
  decidable_of_iff (formatError format = none) formatError_eq_none_iff

/-- The leftmost `%` that does not start a valid item. -/
structure FirstBad (format : Text) (i : Nat) : Prop where
  here : format[i]? = some percent
  bad : ¬ ItemAt format i
  first : ∀ j < i, format[j]? = some percent → ItemAt format j

/-- The loop collects in ascending order. -/
private theorem pairwise_percentPositions (format : Text) (bound pos : Nat) :
    (percentPositions format bound (find format [percent] pos)).Pairwise (· < ·) ∧
      ∀ i ∈ percentPositions format bound (find format [percent] pos), pos ≤ i := by
  induction bound generalizing pos with
  | zero => simp [percentPositions]
  | succ bound ih =>
    cases result : find format [percent] pos with
    | none => simp [percentPositions]
    | some next =>
      obtain ⟨lower, -⟩ := find_eq_some_iff.mp result
      obtain ⟨sorted, later⟩ := ih (next + 1)
      rw [percentPositions, List.pairwise_cons]
      refine ⟨⟨fun i member => later i member, sorted⟩, fun i member => ?_⟩
      rcases List.mem_cons.mp member with rfl | member
      · exact lower
      · have above := later i member
        omega

/-- The loop visits the positions from left to right. -/
theorem pairwise_positions (format : Text) : (positions format).Pairwise (· < ·) :=
  (pairwise_percentPositions format _ 0).1

/-- The error is that of the leftmost bad `%`. -/
theorem formatError_eq_some_iff {format message : Text} :
    formatError format = some message ↔
      ∃ i, FirstBad format i ∧ checkPosition format i = some message := by
  rw [formatError, List.findSome?_eq_some_iff]
  constructor
  · rintro ⟨before, i, after, split, failed, passed⟩
    have sorted := pairwise_positions format
    rw [split, List.pairwise_append, List.pairwise_cons] at sorted
    refine ⟨i, ⟨mem_positions.mp (by simp [split]), ?_, fun j earlier here => ?_⟩, failed⟩
    · rw [← checkPosition_eq_none_iff, failed]
      simp
    · rw [← checkPosition_eq_none_iff]
      have member := mem_positions.mpr here
      rw [split, List.mem_append, List.mem_cons] at member
      rcases member with inside | rfl | beyond
      · exact passed j inside
      · omega
      · exact absurd (sorted.2.1.1 j beyond) (by omega)
  · rintro ⟨i, leftmost, failed⟩
    obtain ⟨before, after, split⟩ := List.append_of_mem (mem_positions.mpr leftmost.here)
    refine ⟨before, i, after, split, failed, fun j member => ?_⟩
    have sorted := pairwise_positions format
    rw [split, List.pairwise_append] at sorted
    have isPercent : format[j]? = some percent := mem_positions.mp (by simp [split, member])
    refine checkPosition_eq_none_iff.mpr (leftmost.first j ?_ isPercent)
    exact sorted.2.2 j member i List.mem_cons_self

end LoggerV2.Flags
