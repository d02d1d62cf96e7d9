import LoggerV2.Library.Substitution
import LoggerV2.Library.Text

/-!
# Help texts

`detail::ReplaceAllInString` and the general help text that `--log_help` reports.
The other help texts are read by no modelled function. The loop changes the string
it searches; whatever it inserts, it ends, and is the substitution of a single scan.
-/

namespace LoggerV2

open Verification

namespace Detail

/-- The loop of `ReplaceAllInString` at occurrence `pos` of the string built so
far; `none` is an exhausted iteration bound. -/
def replaceLoop (toSearch replaceStr : Text) : Nat → Text → Option Nat → Option Text
  | _, copy, none => some copy
  | 0, _, some _ => none
  | bound + 1, copy, some pos =>
    let replaced := copy.take pos ++ replaceStr ++ copy.drop (pos + toSearch.length)
    replaceLoop toSearch replaceStr bound replaced
      (find replaced toSearch (pos + replaceStr.length))

/-- `detail::ReplaceAllInString`. A nonempty `toSearch` occurs at most once for
each byte of the data, which bounds the iterations. -/
def replaceAllInString (data toSearch replaceStr : Text) : Option Text :=
  replaceLoop toSearch replaceStr (data.length + 1) data (find data toSearch 0)

variable {toSearch replaceStr : Text}

/-- Behind what is written, the loop replaces one occurrence an iteration: it needs as many
iterations as there are occurrences left, and does not search what it inserts. -/
theorem replaceLoop_eq {text : Text} {gaps : List Text} (cut : Gaps toSearch text gaps)
    (written : Text) (bound : Nat) :
    replaceLoop toSearch replaceStr bound (written ++ text)
        (find (written ++ text) toSearch written.length) =
      if gaps.length ≤ bound + 1 then some (written ++ replaceStr.intercalate gaps) else none := by
  induction cut generalizing written bound with
  | last absent =>
    rw [find_absent absent, replaceLoop, List.length_singleton, if_pos (Nat.le_add_left 1 bound),
      List.intercalate_singleton]
  | @occurrence gap rest gaps leftmost others ih =>
    rw [find_leftmost leftmost]
    cases bound with
    | zero =>
      have remain := List.length_pos_iff.mpr others.ne_nil
      rw [replaceLoop, if_neg (by simp only [List.length_cons]; omega)]
    | succ bound =>
      have taken : (written ++ (gap ++ (toSearch ++ rest))).take (written.length + gap.length) =
          written ++ gap := by
        rw [← List.append_assoc, ← List.length_append, List.take_append_length]
      have left : (written ++ (gap ++ (toSearch ++ rest))).drop
          (written.length + gap.length + toSearch.length) = rest := by
        rw [Nat.add_assoc, List.drop_length_add_append, List.drop_length_add_append,
          List.drop_append_length]
      have behind : written.length + gap.length + replaceStr.length =
          (written ++ gap ++ replaceStr).length := by
        rw [List.length_append, List.length_append]
      rw [replaceLoop, taken, left, behind, ih]
      simp only [List.length_cons, Nat.add_le_add_iff_right, List.append_assoc,
        List.intercalate_cons_of_ne_nil others.ne_nil]

/-- From the start of the data, one iteration for each occurrence is enough. -/
theorem replaceLoop_data {data : Text} {gaps : List Text} (cut : Gaps toSearch data gaps)
    (bound : Nat) :
    replaceLoop toSearch replaceStr bound data (find data toSearch 0) =
      if gaps.length ≤ bound + 1 then some (substitute toSearch replaceStr data) else none := by
  rw [cut.substitute_eq]
  exact replaceLoop_eq cut [] bound

/-- The iterations suffice, and the result is the substitution. -/
theorem replaceAllInString_eq {data : Text} {gaps : List Text} (cut : Gaps toSearch data gaps) :
    replaceAllInString data toSearch replaceStr = some (substitute toSearch replaceStr data) := by
  rw [replaceAllInString, replaceLoop_data cut, if_pos (Nat.le_succ_of_le cut.length_le)]

/-- The loop ends, and the result is the substitution in a single scan. It iterates once for
each occurrence, whatever the replacement contains. -/
theorem replaceAllInString_substitutes (nonempty : toSearch ≠ []) (data replaceStr : Text) :
    replaceAllInString data toSearch replaceStr = some (substitute toSearch replaceStr data) ∧
    ∃ gaps, Gaps toSearch data gaps ∧ toSearch.intercalate gaps = data ∧
      substitute toSearch replaceStr data = replaceStr.intercalate gaps ∧
      ∀ bound, replaceLoop toSearch replaceStr bound data (find data toSearch 0) =
        if gaps.length ≤ bound + 1 then some (substitute toSearch replaceStr data) else none := by
  obtain ⟨gaps, cut⟩ := exists_gaps nonempty data
  exact ⟨replaceAllInString_eq cut, gaps, cut, cut.intercalate_eq, cut.substitute_eq,
    replaceLoop_data cut⟩

/-- The replacement contains the needle, and two occurrences overlap. -/
theorem replaceAllInString_overlapping :
    replaceAllInString (ascii "aaab") (ascii "aa") (ascii "baa") = some (ascii "baaab") ∧
    ∃ gaps, Gaps (ascii "aa") (ascii "aaab") gaps ∧
      (ascii "aa").intercalate gaps = ascii "aaab" ∧
      substitute (ascii "aa") (ascii "baa") (ascii "aaab") = (ascii "baa").intercalate gaps ∧
      ∀ bound, replaceLoop (ascii "aa") (ascii "baa") bound (ascii "aaab")
          (find (ascii "aaab") (ascii "aa") 0) =
        if gaps.length ≤ bound + 1 then
          some (substitute (ascii "aa") (ascii "baa") (ascii "aaab")) else none :=
  replaceAllInString_substitutes (by decide) (ascii "aaab") (ascii "baa")

/-- The empty string is found again wherever the search resumes: no bound is enough. -/
theorem replaceLoop_empty {copy : Text} {pos : Nat} (inside : pos ≤ copy.length) (bound : Nat) :
    replaceLoop [] replaceStr bound copy (find copy [] pos) = none := by
  have found : ∀ {copy : Text} {pos : Nat}, pos ≤ copy.length → find copy [] pos = some pos := by
    intro copy pos inside
    exact find_eq_some_iff.mpr ⟨le_rfl, inside, List.nil_prefix, fun _ least less => by omega⟩
  induction bound generalizing copy pos with
  | zero => rw [found inside, replaceLoop]
  | succ bound ih =>
    rw [found inside, replaceLoop]
    refine ih ?_
    simp only [List.length_append, List.length_take, List.length_drop, List.length_nil]
    omega

/-- The loop ends exactly for a string to search that is not empty. -/
theorem replaceLoop_ends_iff (data : Text) :
    (∃ bound, (replaceLoop toSearch replaceStr bound data (find data toSearch 0)).isSome) ↔
      toSearch ≠ [] := by
  constructor
  · rintro ⟨bound, ends⟩ rfl
    rw [replaceLoop_empty (Nat.zero_le _)] at ends
    cases ends
  · intro nonempty
    obtain ⟨gaps, cut⟩ := exists_gaps nonempty data
    refine ⟨gaps.length, ?_⟩
    rw [replaceLoop_data cut, if_pos (Nat.le_succ _)]
    rfl

end Detail

/-- A raw string literal, line by line. -/
private def lines (literal : List String) : Text := ascii ("\n".intercalate literal)

/-- The headline of the general help. -/
def kLogGeneralHelpText : Text := lines [
  "",
  "General arguments:"]

def kLogSinkHelpText : Text := lines [
  "",
  "--log_sink        - Select data flow direction.",
  "                    Availiable sinks:",
  "                      * baical  - Write to Baical server over network",
  "                                  (fast and efficient)",
  "                      * binary  - Write to local binary file",
  "                                  (fast and efficient)",
  "                      * text    - Write to local text file",
  "                                  (slow compared to binary/baical)",
  "                      * syslog  - Write to syslog server",
  "                                  (slow compared to binary/baical)",
  "                      * console - Write to console",
  "                                  (slow compared to binary/baical)",
  "                      * auto    - Write to baical server if connection is",
  "                                  established, otherwise write to text sink.",
  "                                  Note: connection timeout is 250 ms!",
  "                      * null    - Drop all incoming data",
  "                    Default value is \"baical\"",
  "                    Examples:",
  "                      --log_sink=baical",
  "                      --log_sink=text",
  "                      --log_sink=null"]

def kLogNameHelpText : Text := lines [
  "",
  "--log_name        - P7 client name. Max length is about 96 characters, by",
  "                    default it is the name of the host process.",
  "                    Example:",
  "                      --log_name=Client"]

def kLoggingHelpText : Text := lines [
  "",
  "--logging         - Enable/disable log engine. By default logging is on.",
  "                    Examples:",
  "                      --logging=true",
  "                      --logging=false"]

def kLogIntVerbHelpText : Text := lines [
  "",
  "--log_int_verb    - Set the log verbosity level. Allows writing internal P7",
  "                    logs to a text file or to stdout.",
  "                    Do not use --log_int_verb parameter to turn off",
  "                    application logging, as it only affects internal logs.",
  "                    Availiable verbosity levels:",
  "                      -1 : Off",
  "                       0 : Info",
  "                       1 : Debug",
  "                       2 : Warning",
  "                       3 : Error",
  "                       4 : Critical",
  "                    Default value is \"-1\" (Off).",
  "                    Example: --log_int_verb=0",
  "                      On Linux all P7 internal logs will be redirected to",
  "                      stdout, on Windows the folder \"P7.Logs\" will be",
  "                      created in the host process folder and all further logs",
  "                      will be stored there."]

def kLogTraceVerbHelpText : Text := lines [
  "",
  "--log_trace_verb  - Set the verbosity level for trace streams and associated",
  "                    modules. Availiable verbosity levels:",
  "                      0 : Trace",
  "                      1 : Debug",
  "                      2 : Info",
  "                      3 : Warning",
  "                      4 : Error",
  "                      5 : Critical",
  "                    Default value is \"0\" (Trace).",
  "                    Example: --log_trace_verb=4"]

def kLogPoolSizeHelpText : Text := lines [
  "",
  "--log_pool_size   - Set the size of the internal buffer pool in KiB.",
  "                    Min value = 16(KiB). Max value is limited by OS and HW.",
  "                    Default value = 4MiB.",
  "                    Example:",
  "                      16 KiB allocation: --log_pool_size=16",
  "                       1 MiB allocation: --log_pool_size=1024",
  "                       2 MiB allocation: --log_pool_size=2048",
  "                       4 MiB allocation: --log_pool_size=4096",
  "                       8 MiB allocation: --log_pool_size=8192",
  "                      16 MiB allocation: --log_pool_size=16384",
  "                      32 MiB allocation: --log_pool_size=32768",
  "                      64 MiB allocation: --log_pool_size=65536"]

def kLogHelpHelpText : Text := lines [
  "",
  "--log_help       - Print log help text and quit"]

/-- Indent the lines of one help text. -/
private def indented (text : Text) : Text :=
  (Detail.replaceAllInString text (ascii "\n") (ascii "\n  ")).getD []

/-- `kLogHelpTextGeneral`: the general help, the lines of each flag's help indented. -/
def kLogHelpTextGeneral : Text :=
  kLogGeneralHelpText ++ indented kLogSinkHelpText ++ indented kLogNameHelpText ++
    indented kLoggingHelpText ++ indented kLogIntVerbHelpText ++
    indented kLogTraceVerbHelpText ++ indented kLogPoolSizeHelpText ++
    indented kLogHelpHelpText

end LoggerV2
