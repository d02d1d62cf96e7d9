import LoggerV2.Library.Digits
import LoggerV2.Exit.Handler
import LoggerV2.Log.Overloads

/-!
# The lines of a crash report

The report of a signal shows which signal it was, every field of the signal's information
that belongs to it, and the backtrace (`report_eq_iff`). `Log::RawTrace` leaves every line
of it whole but the backtrace (`report_sent`).
-/

namespace LoggerV2

open Verification

/-- The first line of a report. -/
def Signal.headline : Signal → Level × Text
  | .sigint => (.warning, ascii "SIGINT!")
  | .sigsegv => (.critical, ascii "Segmentation fault!")
  | signal => (.critical, signal.name ++ ascii "!")

/-- The level of the other lines. -/
def Signal.detail : Signal → Level
  | .sigint => .info
  | _ => .error

/-- The signals that come with an address. -/
def Signal.HasAddress (signal : Signal) : Prop :=
  signal ∈ [Signal.sigbus, .sigfpe, .sigill, .sigsegv]

instance (signal : Signal) : Decidable signal.HasAddress := inferInstanceAs (Decidable (_ ∈ _))

/-- The lines between the headline and the backtrace. -/
def Signal.fields (signal : Signal) (info : SigInfo) : List Text :=
  (if signal.HasAddress then [info.addrLine] else []) ++
    (if signal = .sigsys then [info.callAddrLine, info.syscallLine, info.archLine] else []) ++
    [info.errnoLine, info.codeLine]

/-- The fields that the signal's report shows agree. -/
def SameFields (signal : Signal) (info other : SigInfo) : Prop :=
  info.errno = other.errno ∧ info.code = other.code ∧
    (signal.HasAddress → info.addr = other.addr) ∧
    (signal = .sigsys →
      info.callAddr = other.callAddr ∧ info.syscall = other.syscall ∧ info.arch = other.arch)

variable {data other : SignalLogData} {signal otherSignal : Signal} {info : SigInfo}
  {backtrace otherBacktrace : Text}

/-- The cases of the switch are one. -/
theorem report_eq (isSignal : data.sig = some signal) (backtrace : Text) :
    report data backtrace =
      signalReport signal.headline signal.detail (signal.fields data.siginfo) backtrace := by
  rw [report, isSignal]
  cases signal <;> rfl

section Shown

/-- The headline tells the signal. -/
theorem headline_injective : Function.Injective Signal.headline := by
  have apart : ∀ first ∈ handledSignals, ∀ second ∈ handledSignals,
      first.headline = second.headline → first = second := by decide +kernel
  exact fun first second =>
    apart first (mem_handledSignals first) second (mem_handledSignals second)

/-- A printed pointer tells the address. -/
theorem pointer_injective : Function.Injective SigInfo.pointer := by
  intro first second same
  have digits := digitBytes_injective (by decide) (by decide) (List.append_cancel_left same)
  exact UInt64.toNat_inj.mp digits

/-- A printed `int` tells the number. -/
theorem decimal_toInt_eq_iff {first second : Int32} :
    decimal first.toInt = decimal second.toInt ↔ first = second := by
  rw [decimal_injective.eq_iff, Int32.toInt_inj]

section Lines

variable {otherInfo : SigInfo}

theorem errnoLine_eq_iff : info.errnoLine = otherInfo.errnoLine ↔ info.errno = otherInfo.errno := by
  rw [SigInfo.errnoLine, SigInfo.errnoLine, List.append_right_inj, decimal_toInt_eq_iff]

theorem codeLine_eq_iff : info.codeLine = otherInfo.codeLine ↔ info.code = otherInfo.code := by
  rw [SigInfo.codeLine, SigInfo.codeLine, List.append_right_inj, decimal_toInt_eq_iff]

theorem addrLine_eq_iff : info.addrLine = otherInfo.addrLine ↔ info.addr = otherInfo.addr := by
  rw [SigInfo.addrLine, SigInfo.addrLine, List.append_right_inj, pointer_injective.eq_iff]

theorem callAddrLine_eq_iff :
    info.callAddrLine = otherInfo.callAddrLine ↔ info.callAddr = otherInfo.callAddr := by
  rw [SigInfo.callAddrLine, SigInfo.callAddrLine, List.append_right_inj, pointer_injective.eq_iff]

theorem syscallLine_eq_iff :
    info.syscallLine = otherInfo.syscallLine ↔ info.syscall = otherInfo.syscall := by
  rw [SigInfo.syscallLine, SigInfo.syscallLine, List.append_right_inj, decimal_toInt_eq_iff]

theorem archLine_eq_iff : info.archLine = otherInfo.archLine ↔ info.arch = otherInfo.arch := by
  rw [SigInfo.archLine, SigInfo.archLine, List.append_right_inj, decimal_injective.eq_iff,
    Int.ofNat_inj, UInt32.toNat_inj]

/-- Behind its label, each field shows its value. -/
theorem fields_eq_iff :
    signal.fields info = signal.fields otherInfo ↔ SameFields signal info otherInfo := by
  by_cases isSigsys : signal = .sigsys
  · subst isSigsys
    have noAddress : ¬ Signal.sigsys.HasAddress := by decide
    simp only [Signal.fields, SameFields, noAddress, if_true, if_false, List.nil_append,
      List.cons_append, List.cons.injEq, errnoLine_eq_iff, codeLine_eq_iff, callAddrLine_eq_iff,
      syscallLine_eq_iff, archLine_eq_iff]
    tauto
  · by_cases hasAddress : signal.HasAddress <;>
      simp only [Signal.fields, SameFields, hasAddress, isSigsys, if_true, if_false,
        List.nil_append, List.cons_append, List.cons.injEq, errnoLine_eq_iff, codeLine_eq_iff,
        addrLine_eq_iff] <;>
      tauto

end Lines

/-- The number of field lines is up to the signal. -/
theorem length_fields (info otherInfo : SigInfo) :
    (signal.fields info).length = (signal.fields otherInfo).length := by
  rw [Signal.fields, Signal.fields]
  split_ifs <;> simp

/-- The backtrace, if there is one, stands at the end. -/
theorem ending_eq_iff (label : Text) {detail : Level} :
    (if backtrace.length ≠ 0 then [(detail, label ++ backtrace)] else []) =
        (if otherBacktrace.length ≠ 0 then [(detail, label ++ otherBacktrace)] else []) ↔
      backtrace = otherBacktrace := by
  cases backtrace <;> cases otherBacktrace <;> simp

/-- A report tells its signal, the fields that belong to it and the backtrace, and nothing
else. -/
theorem report_eq_iff (isSignal : data.sig = some signal) (isOther : other.sig = some otherSignal) :
    report data backtrace = report other otherBacktrace ↔
      signal = otherSignal ∧ SameFields signal data.siginfo other.siginfo ∧
        backtrace = otherBacktrace := by
  rw [report_eq isSignal, report_eq isOther]
  constructor
  · intro same
    obtain ⟨headlines, rest⟩ := List.cons.inj same
    obtain rfl := headline_injective headlines
    have lengths : ((signal.fields data.siginfo).map fun field => (signal.detail, field)).length =
        ((signal.fields other.siginfo).map fun field => (signal.detail, field)).length := by
      rw [List.length_map, List.length_map, length_fields]
    obtain ⟨fields, endings⟩ := List.append_inj rest lengths
    refine ⟨rfl, fields_eq_iff.mp (List.map_injective_iff.mpr ?_ fields),
      (ending_eq_iff _).mp endings⟩
    exact fun first second pairs => congrArg Prod.snd pairs
  · rintro ⟨rfl, fields, rfl⟩
    rw [fields_eq_iff.mpr fields]

/-- An interrupt comes without an address. -/
theorem report_hides_address :
    report ⟨some .sigint, ⟨0, 128, 16, 0, 0, 0⟩, none, 0, 0⟩ [] =
      report ⟨some .sigint, ⟨0, 128, 32, 0, 0, 0⟩, none, 0, 0⟩ [] :=
  (report_eq_iff rfl rfl).mpr ⟨rfl, ⟨rfl, rfl, fun has => absurd has (by decide), nofun⟩, rfl⟩

end Shown

/-- A text that is sent as it is. -/
structure SingleLine (text : Text) : Prop where
  nonempty : text ≠ []
  free : newline ∉ text
  fits : text.length ≤ kLineWrapLength

instance (text : Text) : Decidable (SingleLine text) :=
  decidable_of_iff (text ≠ [] ∧ newline ∉ text ∧ text.length ≤ kLineWrapLength)
    ⟨fun ⟨nonempty, free, fits⟩ => ⟨nonempty, free, fits⟩,
      fun line => ⟨line.nonempty, line.free, line.fits⟩⟩

section SingleLines

variable {text label numeral : Text}

/-- A label and a numeral. -/
theorem SingleLine.labelled (line : SingleLine label) (short : label.length ≤ 100)
    (free : newline ∉ numeral) (fits : numeral.length ≤ 20) : SingleLine (label ++ numeral) where
  nonempty := List.append_ne_nil_of_left_ne_nil line.nonempty numeral
  free member := (List.mem_append.mp member).elim line.free free
  fits := by
    rw [List.length_append]
    exact Nat.add_le_add short fits

/-- A number is printed on one line. -/
theorem newline_notMem_decimal (value : Int) : newline ∉ decimal value := by
  intro member
  rcases mem_decimal member with digit | minus
  · exact absurd digit (by decide)
  · exact absurd minus (by decide)

/-- A printed `int` is short. -/
theorem length_decimal_toInt (value : Int32) : (decimal value.toInt).length ≤ 20 := by
  have lower := value.le_toInt
  have upper := value.toInt_lt
  have small : value.toInt.natAbs < 10 ^ 10 := by omega
  exact Nat.le_trans (length_decimal_le (by decide) small) (by decide)

theorem length_decimal_toNat (value : UInt32) : (decimal value.toNat).length ≤ 20 := by
  have upper := value.toNat_lt
  have small : (value.toNat : Int).natAbs < 10 ^ 10 := by omega
  exact Nat.le_trans (length_decimal_le (by decide) small) (by decide)

/-- A pointer is printed on one line. -/
theorem newline_notMem_pointer (value : UInt64) : newline ∉ SigInfo.pointer value := by
  have digits : ∀ digit < 16, newline ≠ digitByte digit := by decide
  intro member
  rcases List.mem_append.mp member with start | numeral
  · exact absurd start (by decide)
  · obtain ⟨digit, small, same⟩ := exists_digit (by decide) numeral
    exact digits digit small same

/-- A printed pointer is short. -/
theorem length_pointer (value : UInt64) : (SigInfo.pointer value).length ≤ 20 := by
  have numeral : (digitBytes 16 value.toNat).length ≤ 16 :=
    length_digitBytes_le (by decide) (by decide) value.toNat_lt
  rw [SigInfo.pointer, List.length_append]
  exact Nat.add_le_add (by decide : _ ≤ 4) numeral

/-- Whatever its value, a field is one line that needs no wrapping. -/
theorem singleLine_of_mem_fields (member : text ∈ signal.fields info) : SingleLine text := by
  have labels : ∀ label ∈ ["siginfo->si_errno = ", "siginfo->si_code  = ", "siginfo->si_addr  = ",
      "siginfo->si_call_addr = ", "siginfo->si_syscall = ", "siginfo->si_arch = "],
      SingleLine (ascii label) ∧ (ascii label).length ≤ 100 := by decide +kernel
  have labelled : ∀ label ∈ ["siginfo->si_errno = ", "siginfo->si_code  = ", "siginfo->si_addr  = ",
      "siginfo->si_call_addr = ", "siginfo->si_syscall = ", "siginfo->si_arch = "],
      ∀ numeral, newline ∉ numeral → numeral.length ≤ 20 → SingleLine (ascii label ++ numeral) :=
    fun label among numeral => (labels label among).1.labelled (labels label among).2
  simp only [Signal.fields, List.mem_append, List.mem_ite_nil_right, List.mem_cons,
    List.not_mem_nil, or_false] at member
  rcases member with (⟨-, rfl⟩ | ⟨-, rfl | rfl | rfl⟩) | rfl | rfl
  · exact labelled _ (by simp) _ (newline_notMem_pointer _) (length_pointer _)
  · exact labelled _ (by simp) _ (newline_notMem_pointer _) (length_pointer _)
  · exact labelled _ (by simp) _ (newline_notMem_decimal _) (length_decimal_toInt _)
  · exact labelled _ (by simp) _ (newline_notMem_decimal _) (length_decimal_toNat _)
  · exact labelled _ (by simp) _ (newline_notMem_decimal _) (length_decimal_toInt _)
  · exact labelled _ (by simp) _ (newline_notMem_decimal _) (length_decimal_toInt _)

theorem singleLine_headline (signal : Signal) : SingleLine signal.headline.2 := by
  cases signal <;> decide

/-- The lines of a report without its backtrace are short, and none has a newline. -/
theorem singleLine_report (isSignal : data.sig = some signal) :
    ∀ line ∈ report data [], SingleLine line.2 := by
  rw [report_eq isSignal, signalReport, if_neg (by simp), List.append_nil]
  refine List.forall_mem_cons.mpr ⟨singleLine_headline signal, ?_⟩
  rw [List.forall_mem_map]
  exact fun field member => singleLine_of_mem_fields member

end SingleLines

section Sent

variable {Arg : Type} {strSplit : StrSplit} {fmtFormat : Text → List Arg → Except Text Text}
  {reply : List TraceManaged → TraceManaged → Bool} {text rest : Text}

/-- A call of a logging function logs a line. -/
structure Logs (fmtFormat : Text → List Arg → Except Text Text) (call : RawTraceCall Arg)
    (line : Level × Text) : Prop where
  level : call.level = line.1
  message : fmtFormat call.format call.all = .ok line.2

/-- The parts that `Log::RawTrace` makes of a text. -/
def subparts (strSplit : StrSplit) (text : Text) : List Text :=
  ((strSplit (.char newline) skipEmpty text).map
    (strSplit (.byLength kLineWrapLength) skipEmpty)).flatten

/-- The parts of some lines, with their levels. -/
def subpartsOf (strSplit : StrSplit) (lines : List (Level × Text)) : List (TraceLevel × Text) :=
  lines.flatMap fun line => (subparts strSplit line.2).map fun part => (convert line.1, part)

/-- The calls of `Log::RawTrace`, one after the other, on one trace object. -/
def rawTraces (strSplit : StrSplit) (fmtFormat : Text → List Arg → Except Text Text) (log : Nat)
    (calls : List (RawTraceCall Arg)) : Program TraceManaged (fun _ => Bool) Text Unit :=
  calls.forM fun call => rawTrace strSplit fmtFormat log call.level call.id call.handle call.loc
    call.format call.all

/-- The parts of all lines are sent, in order. -/
theorem run_rawTraces {calls : List (RawTraceCall Arg)} {lines : List (Level × Text)}
    (logged : List.Forall₂ (Logs fmtFormat) calls lines) (log : Nat) (taken : List TraceManaged) :
    ∃ sent, (rawTraces strSplit fmtFormat log calls).run (takeDown reply) taken =
        (.ok (), taken ++ sent) ∧
      (sent.map fun line => (line.level, line.subpart)) = subpartsOf strSplit lines := by
  induction logged generalizing taken with
  | nil => exact ⟨[], by rw [List.append_nil]; rfl, rfl⟩
  | @cons call line calls lines logs logged ih =>
    let here := (subparts strSplit line.2).map
      (traced log call.level call.id call.handle call.loc)
    obtain ⟨sent, ran, parts⟩ := ih (taken ++ here)
    refine ⟨here ++ sent, ?_, ?_⟩
    · refine (Program.run_bind _ (fun _ => rawTraces strSplit fmtFormat log calls) taken).trans ?_
      rw [run_rawTrace logs.message, ← List.append_assoc]
      exact ran
    · have first : here.map (fun line => (line.level, line.subpart)) =
          (subparts strSplit line.2).map fun part => (convert line.1, part) := by
        rw [List.map_map, ← logs.level]
        rfl
      rw [List.map_append, parts, first]
      rfl

/-- A line that ends is one part, apart from those of the rest. -/
theorem subparts_append (documented : strSplit.Documented) (line : SingleLine text) :
    subparts strSplit (text ++ newline :: rest) = text :: subparts strSplit rest := by
  have segments := (documented.segments (text ++ newline :: rest)).unique
    (.segment line.nonempty line.free (documented.segments rest))
  rw [subparts, segments, List.map_cons, List.flatten_cons,
    (documented.pieces text).eq_singleton line.nonempty line.fits]
  rfl

/-- A single line is one part. -/
theorem subparts_singleLine (documented : strSplit.Documented) (line : SingleLine text) :
    subparts strSplit text = [text] := by
  have segments := (documented.segments text).unique (.last line.nonempty line.free)
  rw [subparts, segments, List.map_singleton, List.flatten_singleton,
    (documented.pieces text).eq_singleton line.nonempty line.fits]

/-- Single lines are sent as they are. -/
theorem subpartsOf_singleLines (documented : strSplit.Documented) {lines : List (Level × Text)}
    (single : ∀ line ∈ lines, SingleLine line.2) :
    subpartsOf strSplit lines = lines.map fun line => (convert line.1, line.2) := by
  rw [subpartsOf, List.map_eq_flatMap]
  refine List.flatMap_congr fun line member => ?_
  rw [subparts_singleLine documented (single line member), List.map_singleton]

/-- Every line of a report but the backtrace reaches P7 in one piece, in order; the backtrace
follows under a line of its own, wrapped as any text. -/
theorem report_sent (documented : strSplit.Documented) (isSignal : data.sig = some signal)
    {calls : List (RawTraceCall Arg)}
    (logged : List.Forall₂ (Logs fmtFormat) calls (report data backtrace)) (log : Nat)
    (taken : List TraceManaged) :
    ∃ segments pieces sent, Segments newline backtrace segments ∧
      List.Forall₂ (Pieces kLineWrapLength) segments pieces ∧
      (rawTraces strSplit fmtFormat log calls).run (takeDown reply) taken =
        (.ok (), taken ++ sent) ∧
      (sent.map fun line => (line.level, line.subpart)) =
        ((report data []).map fun line => (convert line.1, line.2)) ++
          if backtrace = [] then []
          else (convert signal.detail, ascii "Backtrace: ") ::
            pieces.flatten.map fun piece => (convert signal.detail, piece) := by
  obtain ⟨sent, ran, parts⟩ := @run_rawTraces _ _ _ reply _ _ logged log taken
  have wraps : List.Forall₂ (Pieces kLineWrapLength)
      (strSplit (.char newline) skipEmpty backtrace)
      ((strSplit (.char newline) skipEmpty backtrace).map
        (strSplit (.byLength kLineWrapLength) skipEmpty)) :=
    List.forall₂_map_right_iff.mpr (List.forall₂_same.mpr fun part _ => documented.pieces part)
  refine ⟨_, _, sent, documented.segments backtrace, wraps, ran, ?_⟩
  have ending : report data backtrace = report data [] ++
      if backtrace = [] then [] else [(signal.detail, ascii "Backtrace: \n" ++ backtrace)] := by
    rw [report_eq isSignal, report_eq isSignal, signalReport, signalReport]
    simp
  have label : ascii "Backtrace: \n" = ascii "Backtrace: " ++ [newline] := by decide
  rw [parts, ending, subpartsOf, List.flatMap_append, ← subpartsOf, ← subpartsOf,
    subpartsOf_singleLines documented (singleLine_report isSignal)]
  congr 1
  split_ifs with isEmpty
  · rfl
  · have line : SingleLine (ascii "Backtrace: ") := by decide
    rw [label, List.append_assoc, List.singleton_append, subpartsOf, List.flatMap_singleton,
      subparts_append documented line, List.map_cons, subparts]

/-- An abort with two frames. -/
theorem report_sent_abort :
    ∃ segments pieces sent, Segments newline (ascii "0# main\n1# start") segments ∧
      List.Forall₂ (Pieces kLineWrapLength) segments pieces ∧
      (rawTraces plainSplit (fun format (_ : List Unit) => .ok format) 0
          ((report ⟨some .sigabrt, ⟨0, -6, 0, 0, 0, 0⟩, none, 0, 0⟩ (ascii "0# main\n1# start")).map
            fun line => ⟨line.1, 0, noModule, ⟨ascii "Client.cpp", ascii "ExitHandler", 161, 0⟩,
              line.2, []⟩)).run (takeDown fun _ _ => true) [] = (.ok (), [] ++ sent) ∧
      (sent.map fun line => (line.level, line.subpart)) =
        ((report ⟨some .sigabrt, ⟨0, -6, 0, 0, 0, 0⟩, none, 0, 0⟩ []).map
            fun line => (convert line.1, line.2)) ++
          if ascii "0# main\n1# start" = [] then []
          else (convert Signal.sigabrt.detail, ascii "Backtrace: ") ::
            pieces.flatten.map fun piece => (convert Signal.sigabrt.detail, piece) :=
  report_sent plainSplit_documented rfl
    (List.forall₂_map_left_iff.mpr (List.forall₂_same.mpr fun _ _ => ⟨rfl, rfl⟩)) 0 []

end Sent

end LoggerV2
