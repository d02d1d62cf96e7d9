import LoggerV2.Library.Program
import LoggerV2.Library.Utf8
import LoggerV2.P7.World

/-!
# The text of a trace

`Log::RawTrace` formats its arguments, splits the message at the newlines, wraps every
line at `kLineWrapLength` bytes, and hands each part to P7. What `absl::StrSplit` and
`fmt::format` return is a parameter: of the first only what it documents is used, of the
second only that it returned.
-/

namespace LoggerV2

open Verification

/-- `eP7Trace_Level`. -/
inductive TraceLevel where
  | trace | debug | info | warning | error | critical | count
deriving DecidableEq, Repr

/-- `Log::Convert`. -/
def convert : Level → TraceLevel
  | .trace => .trace
  | .debug => .debug
  | .info => .info
  | .warning => .warning
  | .error => .error
  | .critical => .critical
  | .count => .count

/-- `none` is the null handle. -/
structure ModuleHandle where
  name : Text
  module : Option Nat
deriving DecidableEq, Repr

/-- The place of a call in the source. -/
structure CustomSourceLocation where
  file : Text
  func : Text
  line : UInt32
  col : UInt32
deriving DecidableEq, Repr

/-- A call of `Trace_Managed` on a trace object. `subpart` is the string whose `c_str()` is
passed. -/
structure TraceManaged where
  trace : Nat
  id : UInt16
  level : TraceLevel
  module : Option Nat
  line : UInt32
  fileName : Text
  functionName : Text
  subpart : Text
deriving DecidableEq, Repr

/-- What `absl::StrSplit` cuts at. -/
inductive Delimiter where
  | char (delimiter : UInt8)
  | byLength (length : Nat)

/-- `absl::StrSplit` of a text, with a predicate on the parts. -/
abbrev StrSplit := Delimiter → (Text → Bool) → Text → List Text

/-- What `absl::StrSplit` documents. A part that fails the predicate is left out. -/
structure StrSplit.Documented (strSplit : StrSplit) : Prop where
  predicate : ∀ delimiter keep text,
    strSplit delimiter keep text = (strSplit delimiter (fun _ => true) text).filter keep
  char_ne_nil : ∀ delimiter text, strSplit (.char delimiter) (fun _ => true) text ≠ []
  char_free : ∀ delimiter text, ∀ part ∈ strSplit (.char delimiter) (fun _ => true) text,
    delimiter ∉ part
  char_joins : ∀ delimiter text,
    [delimiter].intercalate (strSplit (.char delimiter) (fun _ => true) text) = text
  byLength_exact : ∀ length text, 0 < length →
    ∀ part ∈ (strSplit (.byLength length) (fun _ => true) text).dropLast, part.length = length
  byLength_fits : ∀ length text, 0 < length →
    ∀ part ∈ strSplit (.byLength length) (fun _ => true) text, part.length ≤ length
  byLength_joins : ∀ length text, 0 < length →
    (strSplit (.byLength length) (fun _ => true) text).flatten = text

/-- `absl::SkipEmpty`. -/
def skipEmpty (part : Text) : Bool := part ≠ []

/-- `kLineWrapLength`, in bytes. -/
def kLineWrapLength : Nat := 120

section RawTrace

variable {Arg : Type} (strSplit : StrSplit) (fmtFormat : Text → List Arg → Except Text Text)

/-- `Log::RawTrace`, on the object that `trace_` points at. The replies of P7 are not used. -/
def rawTrace (trace : Nat) (level : Level) (id : UInt16) (handle : ModuleHandle)
    (loc : CustomSourceLocation) (format : Text) (all : List Arg) :
    Program TraceManaged (fun _ => Bool) Text Unit :=
  match fmtFormat format all with
  | .error thrown => .fail thrown
  | .ok message =>
    (strSplit (.char newline) skipEmpty message).forM fun part =>
      (strSplit (.byLength kLineWrapLength) skipEmpty part).forM fun subpart => do
        if ← Program.perform ⟨trace, id, convert level, handle.module, loc.line, loc.file,
            loc.func, subpart⟩ then pure ()
        else pure ()

end RawTrace

/-- P7 takes down every call, whatever it replies. -/
def takeDown (reply : List TraceManaged → TraceManaged → Bool) (call : TraceManaged)
    (taken : List TraceManaged) : Bool × List TraceManaged :=
  (reply taken call, taken ++ [call])

variable {strSplit : StrSplit} {reply : List TraceManaged → TraceManaged → Bool}

/-- Going through a list takes down what each element does, in order. -/
theorem run_forM_takeDown {Item : Type} {items : List Item}
    {body : Item → Program TraceManaged (fun _ => Bool) Text Unit}
    {calls : Item → List TraceManaged}
    (each : ∀ item taken, (body item).run (takeDown reply) taken = (.ok (), taken ++ calls item))
    (taken : List TraceManaged) :
    (items.forM body).run (takeDown reply) taken = (.ok (), taken ++ items.flatMap calls) := by
  induction items generalizing taken with
  | nil => simp
  | cons item rest ih =>
    refine (Program.run_bind (body item) (fun _ => rest.forM body) taken).trans ?_
    rw [each]
    simp only [ih, List.flatMap_cons, List.append_assoc]

namespace StrSplit.Documented

/-- The parts of a message are its lines that are not empty. -/
theorem segments (documented : strSplit.Documented) (message : Text) :
    Segments newline message (strSplit (.char newline) skipEmpty message) := by
  have cut := segments_of_intercalate (documented.char_ne_nil newline message)
    (documented.char_free newline message)
  rw [documented.char_joins] at cut
  rw [documented.predicate]
  exact cut

/-- The subparts of a line are its pieces of the wrap length. -/
theorem pieces (documented : strSplit.Documented) (part : Text) :
    Pieces kLineWrapLength part (strSplit (.byLength kLineWrapLength) skipEmpty part) := by
  have positive : 0 < kLineWrapLength := by decide
  have cut := pieces_of_flatten positive (documented.byLength_exact _ part positive)
    (documented.byLength_fits _ part positive)
  rw [documented.byLength_joins _ _ positive] at cut
  rw [documented.predicate]
  exact cut

end StrSplit.Documented

section Run

variable {Arg : Type} {fmtFormat : Text → List Arg → Except Text Text} {message : Text}
  {trace : Nat} {level : Level} {id : UInt16} {handle : ModuleHandle} {loc : CustomSourceLocation}
  {format : Text} {all : List Arg}

/-- What one subpart is sent as. -/
def traced (trace : Nat) (level : Level) (id : UInt16) (handle : ModuleHandle)
    (loc : CustomSourceLocation) (subpart : Text) : TraceManaged :=
  ⟨trace, id, convert level, handle.module, loc.line, loc.file, loc.func, subpart⟩

/-- Every part of every line is sent once, in order. -/
theorem run_rawTrace (formatted : fmtFormat format all = .ok message) (taken : List TraceManaged) :
    (rawTrace strSplit fmtFormat trace level id handle loc format all).run (takeDown reply) taken =
      (.ok (), taken ++ ((strSplit (.char newline) skipEmpty message).map
        (strSplit (.byLength kLineWrapLength) skipEmpty)).flatten.map
          (traced trace level id handle loc)) := by
  have send : ∀ subpart taken, (do
      if ← Program.perform (traced trace level id handle loc subpart) then pure ()
      else pure () : Program TraceManaged (fun _ => Bool) Text Unit).run (takeDown reply) taken =
        (.ok (), taken ++ [traced trace level id handle loc subpart]) := by
    intro subpart taken
    rw [Program.run_perform_bind]
    split <;> rfl
  have sendLine : ∀ (subparts : List Text) taken, (subparts.forM fun subpart => do
      if ← Program.perform (traced trace level id handle loc subpart) then pure ()
      else pure () : Program TraceManaged (fun _ => Bool) Text Unit).run (takeDown reply) taken =
        (.ok (), taken ++ subparts.map (traced trace level id handle loc)) := by
    intro subparts taken
    rw [List.map_eq_flatMap]
    exact run_forM_takeDown send taken
  rw [rawTrace, formatted, List.map_flatten, List.map_map, ← List.flatMap_def]
  exact run_forM_takeDown (fun part => sendLine _) taken

/-- Every part is a piece of one line that is not empty, and nothing but newlines is lost. -/
theorem rawTrace_wraps (documented : strSplit.Documented)
    (formatted : fmtFormat format all = .ok message) (taken : List TraceManaged) :
    ∃ segments pieces, Segments newline message segments ∧
      List.Forall₂ (Pieces kLineWrapLength) segments pieces ∧
      (rawTrace strSplit fmtFormat trace level id handle loc format all).run (takeDown reply)
        taken = (.ok (), taken ++ pieces.flatten.map fun subpart =>
          ⟨trace, id, convert level, handle.module, loc.line, loc.file, loc.func, subpart⟩) ∧
      (∀ subpart ∈ pieces.flatten,
        1 ≤ subpart.length ∧ subpart.length ≤ kLineWrapLength ∧ newline ∉ subpart) ∧
      pieces.flatten.flatten = message.filter (· ≠ newline) ∧
      pieces.flatten.length =
        (segments.map fun segment => segment.length ⌈/⌉ kLineWrapLength).sum := by
  have lines := documented.segments message
  have positive : 0 < kLineWrapLength := by decide
  let cuts := (strSplit (.char newline) skipEmpty message).map
    (strSplit (.byLength kLineWrapLength) skipEmpty)
  have wraps : List.Forall₂ (Pieces kLineWrapLength) _ cuts :=
    List.forall₂_map_right_iff.mpr (List.forall₂_same.mpr fun part _ => documented.pieces part)
  refine ⟨_, cuts, lines, wraps, run_rawTrace formatted taken, ?_, ?_, length_cuts positive wraps⟩
  · intro subpart member
    obtain ⟨segment, among, pieces, cut, inside⟩ := exists_segment wraps member
    refine ⟨cut.length_pos positive inside, cut.length_le inside, fun spans => ?_⟩
    have contains : newline ∈ pieces.flatten := List.mem_flatten.mpr ⟨subpart, inside, spans⟩
    exact lines.free among (cut.flatten_eq ▸ contains)
  · rw [flatten_cuts wraps, lines.flatten_eq_filter]

/-- On every line, each wrap falls before the first byte of a character. -/
def WrapsBetweenCharacters (message : Text) : Prop :=
  ∀ segments, Segments newline message segments → ∀ segment ∈ segments, ∀ count byte, 0 < count →
    segment[kLineWrapLength * count]? = some byte → byte.IsUTF8FirstByte

/-- A newline is a character of its own. -/
theorem validUtf8_newline : ValidUtf8 [newline] := .encodeChar '\n'

/-- A message in UTF-8 is sent in UTF-8 exactly when no wrap falls inside a character. -/
theorem rawTrace_utf8_iff (documented : strSplit.Documented)
    (formatted : fmtFormat format all = .ok message) (valid : ValidUtf8 message) :
    (∀ call ∈ ((rawTrace strSplit fmtFormat trace level id handle loc format all).run
        (takeDown reply) []).2, ValidUtf8 call.subpart) ↔ WrapsBetweenCharacters message := by
  have lines := documented.segments message
  have validLines := valid.segments validUtf8_newline lines
  have wraps : ∀ segment ∈ strSplit (.char newline) skipEmpty message, _ := fun segment member =>
    (validLines segment member).pieces_iff (documented.pieces segment)
  rw [run_rawTrace formatted, List.nil_append, List.forall_mem_map, List.forall_mem_flatten,
    List.forall_mem_map]
  constructor
  · intro whole segments cut segment member
    obtain rfl := lines.unique cut
    exact (wraps segment member).mp (whole segment member)
  · intro between segment member
    exact (wraps segment member).mpr (between _ lines segment member)

end Run

/-- A splitter that does what is documented. -/
def plainSplit : StrSplit
  | .char delimiter, keep, text => (text.splitOn delimiter).filter keep
  | .byLength length, keep, text => (chunks length text.length text).filter keep

/-- The plain split does what the documentation says. -/
theorem plainSplit_documented : plainSplit.Documented where
  predicate delimiter keep text := by cases delimiter <;> simp [plainSplit]
  char_ne_nil delimiter text := by
    simp only [plainSplit, List.filter_true]
    exact List.splitOn_ne_nil _ _
  char_free delimiter text part member := by
    simp only [plainSplit, List.filter_true] at member
    exact not_mem_of_mem_splitOn member
  char_joins delimiter text := by
    simpa only [plainSplit, List.filter_true] using List.intercalate_splitOn delimiter
  byLength_exact length text _ part member := by
    simp only [plainSplit, List.filter_true] at member
    exact length_of_mem_dropLast_chunks member
  byLength_fits length text positive part member := by
    simp only [plainSplit, List.filter_true] at member
    exact length_le_of_mem_chunks positive (Nat.le_refl _) member
  byLength_joins length text _ := by
    simpa only [plainSplit, List.filter_true] using flatten_chunks length text.length text

/-- Two lines with an empty one between them, and a newline at the end. -/
theorem rawTrace_wraps_lines :
    ∃ segments pieces, Segments newline (ascii "first\n\nsecond\n") segments ∧
      List.Forall₂ (Pieces kLineWrapLength) segments pieces ∧
      (rawTrace plainSplit (fun format (_ : List Unit) => .ok format) 0 .info 7 ⟨[], none⟩
        ⟨ascii "main.cpp", ascii "main", 12, 0⟩ (ascii "first\n\nsecond\n") []).run
          (takeDown fun _ _ => true) [] = (.ok (), [] ++ pieces.flatten.map fun subpart =>
          ⟨0, 7, convert .info, none, 12, ascii "main.cpp", ascii "main", subpart⟩) ∧
      (∀ subpart ∈ pieces.flatten,
        1 ≤ subpart.length ∧ subpart.length ≤ kLineWrapLength ∧ newline ∉ subpart) ∧
      pieces.flatten.flatten = (ascii "first\n\nsecond\n").filter (· ≠ newline) ∧
      pieces.flatten.length =
        (segments.map fun segment => segment.length ⌈/⌉ kLineWrapLength).sum :=
  rawTrace_wraps plainSplit_documented rfl []

/-- A text as the encoding of its characters. -/
def utf8 (characters : List Char) : Text := characters.flatMap String.utf8EncodeChar

/-- Two letters of two bytes on a short line. -/
theorem rawTrace_utf8_short :
    (∀ call ∈ ((rawTrace plainSplit (fun format (_ : List Unit) => .ok format) 0 .info 0
        ⟨[], none⟩ ⟨ascii "main.cpp", ascii "main", 12, 0⟩ (utf8 ['é', 'ü']) []).run
          (takeDown fun _ _ => true) []).2, ValidUtf8 call.subpart) ↔
      WrapsBetweenCharacters (utf8 ['é', 'ü']) :=
  rawTrace_utf8_iff plainSplit_documented rfl ⟨_, rfl⟩

/-- After 119 letters of one byte, the wrap falls inside a letter of two. -/
theorem rawTrace_splits_character :
    ∃ message, ValidUtf8 message ∧
      ∃ call ∈ ((rawTrace plainSplit (fun format (_ : List Unit) => .ok format) 0 .info 0
        ⟨[], none⟩ ⟨ascii "main.cpp", ascii "main", 12, 0⟩ message []).run
          (takeDown fun _ _ => true) []).2, ¬ ValidUtf8 call.subpart := by
  have whole : ValidUtf8 ((List.replicate 119 97 ++ [0xC3]) ++ 0xA9 :: []) :=
    ⟨List.replicate 119 'a' ++ ['é'], by decide +kernel⟩
  refine ⟨_, whole, ⟨0, 0, .info, none, 12, ascii "main.cpp", ascii "main",
    List.replicate 119 97 ++ [0xC3]⟩, by decide +kernel, fun front => ?_⟩
  exact absurd (whole.front_iff.mp front) (by decide)

end LoggerV2
