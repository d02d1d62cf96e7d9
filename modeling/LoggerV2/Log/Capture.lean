import LoggerV2.Log.Calls

/-!
# `CAPTURE`

The macro calls `Trace` with one field of the format for each expression. How many
expressions it takes, and what P7 is sent for them, is `capture_sends`.
-/

namespace LoggerV2

open Verification

variable {Arg : Type}

section Capture

/-- An argument of `CAPTURE`: the text that `BOOST_PP_STRINGIZE` makes of it, and its value. -/
structure Captured (Arg : Type) where
  text : Text
  value : Arg

/-- `__LOG_INTERNAL_CAPTURE_1`, the arguments of the call of `Trace`. -/
def logInternalCapture1 (elem1 : Captured Arg) : List (Actual Arg) :=
  [.format (elem1.text ++ ascii " = \x7b\x7d "), .arg elem1.value]

/-- What the macros for more elements share: a field for each, and bars between them. -/
def captureFields (elems : List (Captured Arg)) : List (Actual Arg) :=
  .format ((ascii " | ").intercalate (elems.map fun elem => elem.text ++ ascii " = \x7b\x7d")) ::
    elems.map fun elem => .arg elem.value

section Macros

variable (elem1 elem2 elem3 elem4 elem5 elem6 elem7 elem8 elem9 elem10 : Captured Arg)

def logInternalCapture2 : List (Actual Arg) := captureFields [elem1, elem2]

def logInternalCapture3 : List (Actual Arg) := captureFields [elem1, elem2, elem3]

def logInternalCapture4 : List (Actual Arg) := captureFields [elem1, elem2, elem3, elem4]

def logInternalCapture5 : List (Actual Arg) := captureFields [elem1, elem2, elem3, elem4, elem5]

def logInternalCapture6 : List (Actual Arg) :=
  captureFields [elem1, elem2, elem3, elem4, elem5, elem6]

def logInternalCapture7 : List (Actual Arg) :=
  captureFields [elem1, elem2, elem3, elem4, elem5, elem6, elem7]

def logInternalCapture8 : List (Actual Arg) :=
  captureFields [elem1, elem2, elem3, elem4, elem5, elem6, elem7, elem8]

def logInternalCapture9 : List (Actual Arg) :=
  captureFields [elem1, elem2, elem3, elem4, elem5, elem6, elem7, elem8, elem9]

def logInternalCapture10 : List (Actual Arg) :=
  captureFields [elem1, elem2, elem3, elem4, elem5, elem6, elem7, elem8, elem9, elem10]

end Macros

/-- `CAPTURE`: `BOOST_PP_OVERLOAD` picks the macro by the number of arguments. -/
def capture : List (Captured Arg) → Option (List (Actual Arg))
  | [a] => some (logInternalCapture1 a)
  | [a, b] => some (logInternalCapture2 a b)
  | [a, b, c] => some (logInternalCapture3 a b c)
  | [a, b, c, d] => some (logInternalCapture4 a b c d)
  | [a, b, c, d, e] => some (logInternalCapture5 a b c d e)
  | [a, b, c, d, e, f] => some (logInternalCapture6 a b c d e f)
  | [a, b, c, d, e, f, g] => some (logInternalCapture7 a b c d e f g)
  | [a, b, c, d, e, f, g, h] => some (logInternalCapture8 a b c d e f g h)
  | [a, b, c, d, e, f, g, h, i] => some (logInternalCapture9 a b c d e f g h i)
  | [a, b, c, d, e, f, g, h, i, j] => some (logInternalCapture10 a b c d e f g h i j)
  | _ => none

/-- The fields of a format with the text before each. -/
def Captured.fields : List (Captured Arg) → List (Text × Arg)
  | [] => []
  | first :: rest =>
    (first.text ++ ascii " = ", first.value) ::
      rest.map fun elem => (ascii " | " ++ (elem.text ++ ascii " = "), elem.value)

/-- A single field is followed by a blank. -/
def Captured.ending (elems : List (Captured Arg)) : Text :=
  if elems.length = 1 then ascii " " else []

/-- The text of a format with these fields. -/
def formatOf (fields : List (Text × Arg)) (ending : Text) : Text :=
  (fields.flatMap fun field => field.1 ++ ascii "\x7b\x7d") ++ ending

variable {elems : List (Captured Arg)} {actuals : List (Actual Arg)}

/-- A separator before each part but the first. -/
theorem intercalate_cons_eq (separator first : Text) (rest : List Text) :
    separator.intercalate (first :: rest) = first ++ rest.flatMap (separator ++ ·) := by
  induction rest generalizing first with
  | nil => simp
  | cons second rest ih =>
    rw [List.intercalate_cons_cons, ih, List.flatMap_cons, List.append_assoc, List.append_assoc]

/-- The arguments of the call of `Trace`, for any number of elements. -/
def traceActuals (elems : List (Captured Arg)) : List (Actual Arg) :=
  .format (formatOf (Captured.fields elems) (Captured.ending elems)) ::
    (elems.map Captured.value).map .arg

/-- The macros for more elements call `Trace` with the fields of all. -/
theorem captureFields_eq (first second : Captured Arg) (rest : List (Captured Arg)) :
    captureFields (first :: second :: rest) = traceActuals (first :: second :: rest) := by
  have field : ascii " = \x7b\x7d" = ascii " = " ++ ascii "\x7b\x7d" := by decide
  have formats : (ascii " | ").intercalate ((first :: second :: rest).map fun elem =>
      elem.text ++ ascii " = \x7b\x7d") =
        formatOf (Captured.fields (first :: second :: rest))
          (Captured.ending (first :: second :: rest)) := by
    rw [List.map_cons, intercalate_cons_eq, List.flatMap_map]
    simp [formatOf, Captured.fields, Captured.ending, List.flatMap_map, field]
  rw [captureFields, traceActuals, formats, List.map_map]
  rfl

/-- So does the macro for one, with a blank behind its field. -/
theorem logInternalCapture1_eq (elem : Captured Arg) :
    logInternalCapture1 elem = traceActuals [elem] := by
  have field : ascii " = \x7b\x7d " = ascii " = " ++ ascii "\x7b\x7d" ++ ascii " " := by decide
  simp [logInternalCapture1, traceActuals, formatOf, Captured.fields, Captured.ending, field]

/-- The macros for up to ten elements, as one. -/
theorem capture_eq_some_iff :
    capture elems = some actuals ↔
      1 ≤ elems.length ∧ elems.length ≤ 10 ∧ actuals = traceActuals elems := by
  rcases elems with _ | ⟨a, _ | ⟨b, _ | ⟨c, _ | ⟨d, _ | ⟨e, _ | ⟨f, _ | ⟨g, _ | ⟨h, _ | ⟨i,
    _ | ⟨j, _ | ⟨k, rest⟩⟩⟩⟩⟩⟩⟩⟩⟩⟩⟩
  · simp [capture]
  · simp [capture, logInternalCapture1_eq, eq_comm]
  iterate 9
    · simp [capture, logInternalCapture2, logInternalCapture3, logInternalCapture4,
        logInternalCapture5, logInternalCapture6, logInternalCapture7, logInternalCapture8,
        logInternalCapture9, logInternalCapture10, captureFields_eq, eq_comm]
  · refine iff_of_false (by simp [capture]) ?_
    rintro ⟨-, few, -⟩
    simp only [List.length_cons] at few
    omega

end Capture

section Message

/-- Text that a format copies: it has no braces. -/
def Literal (text : Text) : Prop := ∀ byte ∈ text, byte ≠ 123 ∧ byte ≠ 125

instance (text : Text) : Decidable (Literal text) := List.decidableBAll _ text

/-- What `fmt::format` documents of literal text and of fields without an index: the text is
copied, and the fields are replaced by the arguments in order. -/
structure FormatDocumented (fmtFormat : Text → List Arg → Except Text Text) (shown : Arg → Text) :
    Prop where
  fields : ∀ (fields : List (Text × Arg)) (ending : Text), (∀ field ∈ fields, Literal field.1) →
    Literal ending → fmtFormat (formatOf fields ending) (fields.map Prod.snd) =
      .ok ((fields.flatMap fun field => field.1 ++ shown field.2) ++ ending)

/-- Every expression with its value; a single one is followed by a blank. -/
def captureMessage (shown : Arg → Text) (elems : List (Captured Arg)) : Text :=
  (ascii " | ").intercalate (elems.map fun elem => elem.text ++ ascii " = " ++ shown elem.value) ++
    Captured.ending elems

variable {strSplit : StrSplit} {fmtFormat : Text → List Arg → Except Text Text} {shown : Arg → Text}
  {elems : List (Captured Arg)}

/-- Two literal texts are one. -/
theorem Literal.append {first second : Text} (one : Literal first) (two : Literal second) :
    Literal (first ++ second) := by
  intro byte member
  exact (List.mem_append.mp member).elim (one byte) (two byte)

/-- If the captured texts are literal, so is what stands between the values. -/
theorem Captured.literal_fields (literal : ∀ elem ∈ elems, Literal elem.text) :
    ∀ field ∈ Captured.fields elems, Literal field.1 := by
  have equals : Literal (ascii " = ") := by decide
  have bar : Literal (ascii " | ") := by decide
  cases elems with
  | nil => simp [fields]
  | cons first rest =>
    rw [List.forall_mem_cons] at literal
    refine List.forall_mem_cons.mpr ⟨literal.1.append equals, ?_⟩
    rw [List.forall_mem_map]
    exact fun elem member => bar.append ((literal.2 elem member).append equals)

/-- The values stand in order. -/
theorem Captured.values_fields (elems : List (Captured Arg)) :
    (Captured.fields elems).map Prod.snd = elems.map Captured.value := by
  cases elems <;> simp [fields]

/-- The format of `CAPTURE` shows each value after the text of its expression. -/
theorem format_captured (documented : FormatDocumented fmtFormat shown)
    (literal : ∀ elem ∈ elems, Literal elem.text) :
    fmtFormat (formatOf (Captured.fields elems) (Captured.ending elems))
      (elems.map Captured.value) = .ok (captureMessage shown elems) := by
  have ending : Literal (Captured.ending elems) := by
    rw [Captured.ending]
    split_ifs <;> decide
  rw [← Captured.values_fields, documented.fields _ _ (Captured.literal_fields literal) ending,
    captureMessage]
  cases elems with
  | nil => simp [Captured.fields]
  | cons first rest =>
    rw [List.map_cons, intercalate_cons_eq, List.flatMap_map]
    simp [Captured.fields, List.flatMap_map]

/-- `CAPTURE` takes as many expressions as there are macros and as `Trace` takes arguments
after its format. If no expression has braces, each is sent with its value, at the level
`TRACE` and without a module. -/
theorem capture_sends (split : strSplit.Documented) (format : FormatDocumented fmtFormat shown)
    (elems : List (Captured Arg)) (logFuncMaxArgs trace : Nat) (here : CustomSourceLocation)
    (reply : List TraceManaged → TraceManaged → Bool) (taken : List TraceManaged) :
    ((∃ actuals call, capture elems = some actuals ∧
        Takes logFuncMaxArgs here .trace actuals call) ↔
      1 ≤ elems.length ∧ elems.length ≤ 10 ∧ elems.length ≤ logFuncMaxArgs + 1) ∧
    ((∀ elem ∈ elems, Literal elem.text) →
      ∀ actuals call, capture elems = some actuals →
        Takes logFuncMaxArgs here .trace actuals call →
        ∃ segments pieces, Segments newline (captureMessage shown elems) segments ∧
          List.Forall₂ (Pieces kLineWrapLength) segments pieces ∧
          (rawTrace strSplit fmtFormat trace call.level call.id call.handle call.loc call.format
              call.all).run (takeDown reply) taken =
            (.ok (), taken ++ pieces.flatten.map (traced trace .trace 0 noModule here))) := by
  have takes : ∀ call, Takes logFuncMaxArgs here .trace (traceActuals elems) call ↔
      elems.length ≤ logFuncMaxArgs + 1 ∧ call = ⟨.trace, 0, noModule, here,
        formatOf (Captured.fields elems) (Captured.ending elems), elems.map Captured.value⟩ := by
    intro call
    rw [traceActuals, takes_format_iff, List.length_map]
    simp [LogFunc.level?]
  constructor
  · constructor
    · rintro ⟨actuals, call, captured, taken⟩
      obtain ⟨nonempty, macros, rfl⟩ := capture_eq_some_iff.mp captured
      exact ⟨nonempty, macros, ((takes call).mp taken).1⟩
    · rintro ⟨nonempty, macros, bound⟩
      exact ⟨_, _, capture_eq_some_iff.mpr ⟨nonempty, macros, rfl⟩, (takes _).mpr ⟨bound, rfl⟩⟩
  · intro literal actuals call captured isTaken
    obtain ⟨-, -, rfl⟩ := capture_eq_some_iff.mp captured
    obtain ⟨-, rfl⟩ := (takes call).mp isTaken
    refine ⟨_, _, split.segments _, List.forall₂_map_right_iff.mpr
      (List.forall₂_same.mpr fun part _ => split.pieces part), ?_⟩
    exact run_rawTrace (format_captured format literal) taken

/-- A formatter of texts that knows no other fields. -/
def plainFormat : Text → List Text → Except Text Text
  | [], _ => .ok []
  | byte :: rest, all =>
    if byte = 123 then
      match rest, all with
      | 125 :: rest, arg :: all => (plainFormat rest all).map (arg ++ ·)
      | _, _ => .error (ascii "invalid format string")
    else if byte = 125 then .error (ascii "invalid format string")
    else (plainFormat rest all).map (byte :: ·)

/-- A literal text is copied. -/
theorem plainFormat_literal {text rest : Text} {all : List Text} (literal : Literal text) :
    plainFormat (text ++ rest) all = (plainFormat rest all).map (text ++ ·) := by
  induction text with
  | nil =>
    rw [List.nil_append]
    cases plainFormat rest all <;> rfl
  | cons byte text ih =>
    obtain ⟨⟨notOpen, notClose⟩, others⟩ := List.forall_mem_cons.mp literal
    have copied : plainFormat (byte :: (text ++ rest)) all =
        (plainFormat (text ++ rest) all).map (byte :: ·) := by
      rw [plainFormat.eq_def]
      simp only [if_neg notOpen, if_neg notClose]
    rw [List.cons_append, copied, ih others]
    cases plainFormat rest all <;> rfl

/-- The plain format does what the documentation says. -/
theorem plainFormat_documented : FormatDocumented plainFormat id where
  fields fields ending literal literalEnding := by
    induction fields with
    | nil =>
      have copied := @plainFormat_literal ending [] [] literalEnding
      rw [List.append_nil] at copied
      exact copied.trans (congrArg Except.ok (List.append_nil ending))
    | cons field fields ih =>
      obtain ⟨first, others⟩ := List.forall_mem_cons.mp literal
      have split : formatOf (field :: fields) ending =
          field.1 ++ (ascii "\x7b\x7d" ++ formatOf fields ending) := by
        simp [formatOf]
      rw [split, plainFormat_literal first, List.map_cons]
      have next : plainFormat (ascii "\x7b\x7d" ++ formatOf fields ending)
          (field.2 :: fields.map Prod.snd) =
            (plainFormat (formatOf fields ending) (fields.map Prod.snd)).map (field.2 ++ ·) := rfl
      rw [next, ih others]
      simp [Except.map]

/-- Seven expressions are more than `Trace` takes, unless `LOG_func_max_args` is raised; two are
sent with a bar between them. -/
theorem capture_sends_seven :
    (¬ ∃ actuals call, capture (List.replicate 7 (⟨ascii "count", ascii "1"⟩ : Captured Text)) =
      some actuals ∧ Takes 5 ⟨ascii "main.cpp", ascii "main", 12, 0⟩ .trace actuals call) ∧
    ∃ actuals call, capture [⟨ascii "count", ascii "1"⟩, ⟨ascii "size", ascii "2"⟩] =
        some actuals ∧ Takes 5 ⟨ascii "main.cpp", ascii "main", 12, 0⟩ .trace actuals call ∧
      ∃ segments pieces, Segments newline (ascii "count = 1 | size = 2") segments ∧
        List.Forall₂ (Pieces kLineWrapLength) segments pieces ∧
        (rawTrace plainSplit plainFormat 0 call.level call.id call.handle call.loc call.format
            call.all).run (takeDown fun _ _ => true) [] =
          (.ok (), [] ++ pieces.flatten.map
            (traced 0 .trace 0 noModule ⟨ascii "main.cpp", ascii "main", 12, 0⟩)) := by
  constructor
  · intro compiles
    have sends := capture_sends plainSplit_documented plainFormat_documented
      (List.replicate 7 ⟨ascii "count", ascii "1"⟩) 5 0
      ⟨ascii "main.cpp", ascii "main", 12, 0⟩ (fun _ _ => true) []
    exact absurd (sends.1.mp compiles).2.2 (by decide)
  · have sends := capture_sends plainSplit_documented plainFormat_documented
      [⟨ascii "count", ascii "1"⟩, ⟨ascii "size", ascii "2"⟩] 5 0
      ⟨ascii "main.cpp", ascii "main", 12, 0⟩ (fun _ _ => true) []
    have message : captureMessage id [⟨ascii "count", ascii "1"⟩, ⟨ascii "size", ascii "2"⟩] =
        ascii "count = 1 | size = 2" := by decide
    obtain ⟨actuals, call, captured, isTaken⟩ := sends.1.mpr (by decide)
    have sent := sends.2 (by decide) actuals call captured isTaken
    rw [message] at sent
    exact ⟨actuals, call, captured, isTaken, sent⟩

end Message

end LoggerV2
