import LoggerV2.Library.Histories
import LoggerV2.Log.RawTrace

/-!
# Threads that log at the same time

`Log::RawTrace` calls P7 once for every part of a message and takes no lock. Threads that
log share what P7 takes down in every way that keeps each thread's own parts in order
(`logged_iff`), and a message is sure to stay in one piece only if it is one part
(`stays_whole_iff`).
-/

namespace LoggerV2

open Verification

/-- The arguments of one call of `Log::RawTrace`. -/
structure Message (Arg : Type) where
  trace : Nat
  level : Level
  id : UInt16
  handle : ModuleHandle
  loc : CustomSourceLocation
  format : Text
  all : List Arg

section Messages

variable {Arg Thread World : Type} (strSplit : StrSplit)
  (fmtFormat : Text → List Arg → Except Text Text)

/-- The parts of a message; none if `fmt::format` throws. -/
def Message.parts (message : Message Arg) : List TraceManaged :=
  match fmtFormat message.format message.all with
  | .error _ => []
  | .ok text => (strSplit (.char newline) skipEmpty text).flatMap fun part =>
      (strSplit (.byLength kLineWrapLength) skipEmpty part).map
        (traced message.trace message.level message.id message.handle message.loc)

/-- The parts of all messages, in order. -/
def allParts (messages : List (Message Arg)) : List TraceManaged :=
  messages.flatMap (Message.parts strSplit fmtFormat)

/-- A thread that logs its messages one after the other and catches what is thrown. -/
def logAll (messages : List (Message Arg)) : Program TraceManaged (fun _ => Bool) Text Unit :=
  messages.forM fun message => do
    let _ ← (rawTrace strSplit fmtFormat message.trace message.level message.id message.handle
      message.loc message.format message.all).attempt
    pure ()

/-- Each thread is about to log its own messages. -/
def loggers (messages : Thread → List (Message Arg)) (world : World) :
    Pool Thread TraceManaged (fun _ => Bool) Text Unit World :=
  ⟨fun thread => logAll strSplit fmtFormat (messages thread), world, []⟩

variable {strSplit fmtFormat}

/-- The parts of a message that could be formatted. -/
theorem Message.parts_eq {message : Message Arg} {text : Text}
    (formatted : fmtFormat message.format message.all = .ok text) :
    message.parts strSplit fmtFormat = (strSplit (.char newline) skipEmpty text).flatMap fun part =>
      (strSplit (.byLength kLineWrapLength) skipEmpty part).map
        (traced message.trace message.level message.id message.handle message.loc) := by
  rw [parts, formatted]

/-- `Log::RawTrace` formats before it sends: all parts, or none and an exception. -/
theorem sends_rawTrace (message : Message Arg) :
    ∃ result, (rawTrace strSplit fmtFormat message.trace message.level message.id message.handle
      message.loc message.format message.all).Sends (message.parts strSplit fmtFormat) result := by
  rw [rawTrace, Message.parts]
  cases fmtFormat message.format message.all with
  | error thrown => exact ⟨_, .fail thrown⟩
  | ok text =>
    refine ⟨.ok (), .forM (fun part => ?_) _⟩
    rw [List.map_eq_flatMap]
    refine .forM (fun subpart => .perform_bind fun reply => ?_) _
    cases reply <;> exact .done _

/-- A thread sends the parts of its messages, whatever the replies. -/
theorem sends_logAll (messages : List (Message Arg)) :
    (logAll strSplit fmtFormat messages).Sends (allParts strSplit fmtFormat messages) (.ok ()) := by
  refine .forM (fun message => ?_) messages
  obtain ⟨result, sends⟩ := @sends_rawTrace _ strSplit fmtFormat message
  rw [← List.append_nil (message.parts strSplit fmtFormat)]
  exact sends.attempt.bind (.done _)

variable [DecidableEq Thread] {messages : Thread → List (Message Arg)} {world : World}
  {answer : TraceManaged → World → Bool × World} {entries : List (Thread × TraceManaged)}

/-- In every interleaving each thread sends its own parts. -/
theorem follows_loggers {schedule : List Thread}
    {pool : Pool Thread TraceManaged (fun _ => Bool) Text Unit World}
    (run : (Pool.interleavings answer
      (loggers strSplit fmtFormat messages world)).Run schedule pool) :
    pool.Follows (fun thread => allParts strSplit fmtFormat (messages thread)) fun _ => .ok () :=
  Pool.follows_of_run (fun thread => ⟨_, rfl, sends_logAll (messages thread)⟩) run

/-- Whatever P7 replies, the threads can send exactly the lists in which each thread's parts
are in order; a thread that has ended has sent all of them. -/
theorem logged_iff (ended : Thread → Prop) :
    (∃ schedule pool, (Pool.interleavings answer (loggers strSplit fmtFormat messages world)).Run
        schedule pool ∧ pool.requests = entries ∧
        ∀ thread, ended thread → (pool.threads thread).Ended) ↔
      ∀ thread,
        callsOf thread entries <+: allParts strSplit fmtFormat (messages thread) ∧
        (ended thread →
          callsOf thread entries = allParts strSplit fmtFormat (messages thread)) := by
  have histories := @Pool.exists_history_iff _ _ _ _ _ _ _ answer
    (loggers strSplit fmtFormat messages world) _ _ (fun thread => sends_logAll (messages thread))
    rfl entries
  constructor
  · rintro ⟨schedule, pool, run, rfl, all⟩ thread
    exact ⟨histories.mp ⟨schedule, pool, run, rfl⟩ thread,
      fun isEnded => ((follows_loggers run).ended_iff thread).mp (all thread isEnded)⟩
  · intro ordered
    obtain ⟨schedule, pool, run, rfl⟩ := histories.mpr fun thread => (ordered thread).1
    exact ⟨schedule, pool, run, rfl, fun thread isEnded =>
      ((follows_loggers run).ended_iff thread).mpr ((ordered thread).2 isEnded)⟩

section Whole

variable {thread : Thread} {before after : List (Message Arg)} {message : Message Arg}
  {text : Text} {segments : List Text}

/-- Lines that are not empty make one part at most if there is one, of the wrap length. -/
theorem length_parts_le_one_iff (documented : strSplit.Documented)
    (formatted : fmtFormat message.format message.all = .ok text)
    (lines : Segments newline text segments) :
    (message.parts strSplit fmtFormat).length ≤ 1 ↔
      segments.length ≤ 1 ∧ ∀ segment ∈ segments, segment.length ≤ kLineWrapLength := by
  have positive : 0 < kLineWrapLength := by decide
  have lengths : (message.parts strSplit fmtFormat).length =
      (segments.map fun segment => segment.length ⌈/⌉ kLineWrapLength).sum := by
    rw [Message.parts_eq formatted, (documented.segments text).unique lines, List.length_flatMap]
    congr 1
    refine List.map_congr_left fun part _ => ?_
    rw [List.length_map, (documented.pieces part).length_eq positive]
  have fits : ∀ segment : Text, segment.length ⌈/⌉ kLineWrapLength ≤ 1 ↔
      segment.length ≤ kLineWrapLength := by
    intro segment
    rw [ceilDiv_le_iff_le_smul positive, smul_eq_mul, Nat.mul_one]
  have nonzero : ∀ segment ∈ segments, 0 < segment.length ⌈/⌉ kLineWrapLength := by
    intro segment among
    by_contra notPositive
    have empty := (ceilDiv_le_iff_le_smul positive).mp (Nat.le_of_not_lt notPositive)
    exact lines.ne_nil among (List.length_eq_zero_iff.mp (Nat.le_zero.mp empty))
  rw [lengths]
  rcases segments with _ | ⟨first, _ | ⟨second, more⟩⟩
  · simp
  · simp [fits]
  · have one := nonzero first (by simp)
    have two := nonzero second (by simp)
    refine iff_of_false ?_ fun ⟨single, _⟩ => by simp at single
    simp only [List.map_cons, List.sum_cons]
    omega

/-- A message stays in one piece in every interleaving exactly if it is one line that needs no
wrapping, or no other thread has anything to send. -/
theorem stays_whole_iff (documented : strSplit.Documented)
    (formatted : fmtFormat message.format message.all = .ok text)
    (lines : Segments newline text segments)
    (among : messages thread = before ++ message :: after) :
    (∀ schedule pool,
        (Pool.interleavings answer (loggers strSplit fmtFormat messages world)).Run schedule pool →
        allParts strSplit fmtFormat (before ++ [message]) <+: callsOf thread pool.requests →
        Whole thread (allParts strSplit fmtFormat before) (message.parts strSplit fmtFormat)
          pool.requests) ↔
      segments.length ≤ 1 ∧ (∀ segment ∈ segments, segment.length ≤ kLineWrapLength) ∨
        ∀ other, other ≠ thread → allParts strSplit fmtFormat (messages other) = [] := by
  have split : allParts strSplit fmtFormat (messages thread) =
      allParts strSplit fmtFormat before ++ message.parts strSplit fmtFormat ++
        allParts strSplit fmtFormat after := by
    simp [allParts, among]
  have sent : allParts strSplit fmtFormat (before ++ [message]) =
      allParts strSplit fmtFormat before ++ message.parts strSplit fmtFormat := by
    simp [allParts]
  have histories := fun entries => @Pool.exists_history_iff _ _ _ _ _ _ _ answer
    (loggers strSplit fmtFormat messages world) _ _ (fun thread => sends_logAll (messages thread))
    rfl entries
  have torn := @forall_whole_iff _ _ _ thread _ _
    (fun other => allParts strSplit fmtFormat (messages other)) _ split
  rw [← length_parts_le_one_iff documented formatted lines, ← torn, sent]
  constructor
  · intro whole entries ordered sentAll
    obtain ⟨schedule, pool, run, rfl⟩ := (histories entries).mpr ordered
    exact whole schedule pool run sentAll
  · intro whole schedule pool run sentAll
    exact whole _ ((histories _).mp ⟨schedule, pool, run, rfl⟩) sentAll

end Whole

end Messages

/-- A message of two lines, and one that another thread sends between them. -/
theorem stays_whole_lines :
    let format : Text → List Unit → Except Text Text := fun format _ => .ok format
    let message : Text → Message Unit :=
      fun text => ⟨0, .info, 0, ⟨[], none⟩, ⟨ascii "main.cpp", ascii "main", 12, 0⟩, text, []⟩
    let messages : Bool → List (Message Unit) :=
      fun thread => [message (if thread then ascii "first\nsecond" else ascii "other")]
    ∃ schedule pool, (Pool.interleavings (takeDown fun _ _ => true)
        (loggers plainSplit format messages [])).Run schedule pool ∧
      (messages true).flatMap (Message.parts plainSplit format) <+: callsOf true pool.requests ∧
      ¬ Whole true [] ((messages true).flatMap (Message.parts plainSplit format))
        pool.requests := by
  intro format message messages
  have lines : Segments newline (ascii "first\nsecond") [ascii "first", ascii "second"] :=
    @Segments.segment _ newline (ascii "first") (ascii "second") _ (by decide) (by decide)
      (.last (by decide) (by decide))
  have silent : ¬ ∀ other, other ≠ true → allParts plainSplit format (messages other) = [] :=
    fun all => absurd (all false (by decide)) (by decide +kernel)
  have torn := (@stays_whole_iff _ _ _ _ format _ messages [] (takeDown fun _ _ => true) true [] []
    _ _ _ plainSplit_documented rfl lines rfl).mp.mt (by
      rintro (⟨single, -⟩ | all)
      · exact absurd single (by decide)
      · exact silent all)
  push Not at torn
  exact torn

end LoggerV2
