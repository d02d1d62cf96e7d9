import Mathlib.Data.List.Infix
import LoggerV2.Library.Interleaving

/-!
# Threads whose calls do not depend on the replies

A program `Sends` calls if it makes them whatever is replied. The histories of such threads
are the lists in which each thread's calls come in the order of its program, and nothing
else constrains them (`Pool.exists_history_iff`). Calls that follow each other in one thread
follow each other in every history exactly if there is at most one of them or no other
thread makes a call (`forall_whole_iff`).
-/

namespace Verification

variable {Thread Call : Type} {Reply : Call → Type} {Error Value Next World Item : Type}

namespace Program

/-- The program makes these calls, whatever is replied, and ends with this result. -/
inductive Sends : Program Call Reply Error Value → List Call → Except Error Value → Prop where
  | done (value : Value) : Sends (.done value) [] (.ok value)
  | fail (error : Error) : Sends (.fail error) [] (.error error)
  | call {request : Call} {next : Reply request → Program Call Reply Error Value}
      {calls : List Call} {result : Except Error Value}
      (rest : ∀ reply, Sends (next reply) calls result) :
      Sends (.call request next) (request :: calls) result

namespace Sends

variable {program : Program Call Reply Error Value} {calls more : List Call}
  {result : Except Error Value}

/-- A program has ended when it has no call left. -/
theorem ended_iff (sends : program.Sends calls result) : program.Ended ↔ calls = [] := by
  cases sends with
  | done value => exact iff_of_true trivial rfl
  | fail error => exact iff_of_true trivial rfl
  | call rest => exact iff_of_false id (List.cons_ne_nil _ _)

/-- The next call, if there is one. -/
theorem exists_call {request : Call} (sends : program.Sends (request :: calls) result) :
    ∃ next : Reply request → Program Call Reply Error Value, program = .call request next ∧
      ∀ reply, (next reply).Sends calls result := by
  cases sends with
  | call rest => exact ⟨_, rfl, rest⟩

/-- A call comes before the calls of what follows. -/
theorem perform_bind {request : Call} {next : Reply request → Program Call Reply Error Value}
    (rest : ∀ reply, (next reply).Sends calls result) :
    (Program.perform request >>= next).Sends (request :: calls) result :=
  .call rest

/-- The calls of the first program come before those of the second. -/
theorem bind {value : Value} {next : Value → Program Call Reply Error Next}
    {last : Except Error Next} (first : program.Sends calls (.ok value))
    (second : (next value).Sends more last) : (program >>= next).Sends (calls ++ more) last := by
  generalize returned : Except.ok value = result at first
  induction first with
  | done other =>
    cases returned
    exact second
  | fail error => cases returned
  | call _ ih => exact .call fun reply => ih reply returned

/-- Catching an error sends nothing. -/
theorem attempt (sends : program.Sends calls result) :
    program.attempt.Sends calls (.ok result) := by
  induction sends with
  | done value => exact .done _
  | fail error => exact .done _
  | call _ ih => exact .call fun reply => ih reply

/-- One item after the other. -/
theorem forM {body : Item → Program Call Reply Error PUnit} {each : Item → List Call}
    (sends : ∀ item, (body item).Sends (each item) (.ok ⟨⟩)) (items : List Item) :
    (items.forM body).Sends (items.flatMap each) (.ok ⟨⟩) := by
  induction items with
  | nil => exact .done _
  | cons item rest ih => exact (sends item).bind ih

end Sends

end Program

section Own

variable [DecidableEq Thread] {thread : Thread} {entries : List (Thread × Call)}

/-- The calls of one thread, from a list of calls with the threads that made them. -/
def callsOf (thread : Thread) (entries : List (Thread × Call)) : List Call :=
  (entries.filter fun entry => entry.1 = thread).map Prod.snd

theorem callsOf_cons (entry : Thread × Call) :
    callsOf thread (entry :: entries) =
      if entry.1 = thread then entry.2 :: callsOf thread entries else callsOf thread entries := by
  rw [callsOf, List.filter_cons]
  simp only [decide_eq_true_eq]
  split_ifs <;> rfl

theorem callsOf_append (front back : List (Thread × Call)) :
    callsOf thread (front ++ back) = callsOf thread front ++ callsOf thread back := by
  simp [callsOf]

theorem callsOf_singleton (other : Thread) (request : Call) :
    callsOf thread [(other, request)] = if other = thread then [request] else [] := by
  rw [callsOf, List.filter_singleton]
  split_ifs with same <;> simp [same]

end Own

namespace Pool

variable [DecidableEq Thread]

/-- The calls that were made, without the replies. -/
def requests (pool : Pool Thread Call Reply Error Value World) : List (Thread × Call) :=
  pool.history.map fun entry => (entry.1, entry.2.1)

/-- Each thread has made the first of its calls and will send the rest. -/
def Follows (pool : Pool Thread Call Reply Error Value World) (calls : Thread → List Call)
    (results : Thread → Except Error Value) : Prop :=
  ∀ thread, ∃ rest, callsOf thread pool.requests ++ rest = calls thread ∧
    (pool.threads thread).Sends rest (results thread)

variable {answer : (request : Call) → World → Reply request × World}
  {first pool next : Pool Thread Call Reply Error Value World} {thread : Thread}
  {calls : Thread → List Call} {results : Thread → Except Error Value}

/-- A step makes the next call of one thread. -/
theorem Follows.advance (follows : pool.Follows calls results)
    (advanced : pool.advance answer thread = some next) : next.Follows calls results := by
  obtain ⟨request, rest, isCall, rfl⟩ := advance_eq_some_iff.mp advanced
  intro other
  obtain ⟨rest, split, sends⟩ := follows other
  simp only [requests, List.map_append, List.map_cons, List.map_nil, callsOf_append,
    callsOf_singleton] at split ⊢
  by_cases same : thread = other
  · subst same
    rw [isCall] at sends
    cases sends with
    | call after =>
      refine ⟨_, ?_, by simpa using after _⟩
      simpa using split
  · refine ⟨rest, by simpa [same] using split, ?_⟩
    rw [Function.update_of_ne (Ne.symm same)]
    exact sends

/-- A thread that has a call left can make it. -/
theorem Follows.exists_advance (follows : pool.Follows calls results) {request : Call}
    (more : callsOf thread pool.requests ++ [request] <+: calls thread) :
    ∃ next, pool.advance answer thread = some next ∧
      next.requests = pool.requests ++ [(thread, request)] := by
  obtain ⟨rest, split, sends⟩ := follows thread
  obtain ⟨after, whole⟩ := more
  obtain rfl : rest = request :: after := by
    rw [← split, List.append_assoc] at whole
    exact (List.append_cancel_left whole).symm
  obtain ⟨remaining, isCall, -⟩ := sends.exists_call
  refine ⟨_, advance_eq_some_iff.mpr ⟨request, remaining, isCall, rfl⟩, ?_⟩
  simp [requests]

/-- Every interleaving follows the lists. -/
theorem follows_of_run (start : first.Follows calls results) {schedule : List Thread}
    (run : (interleavings answer first).Run schedule pool) : pool.Follows calls results := by
  refine @System.Run.invariant _ _ _ _ _
    (fun pool : Pool Thread Call Reply Error Value World => pool.Follows calls results) ?_ ?_ run
  · rintro _ rfl
    exact start
  · exact fun _ _ _ follows advanced => follows.advance advanced

/-- A thread has ended exactly if all its calls were made. -/
theorem Follows.ended_iff (follows : pool.Follows calls results) (thread : Thread) :
    (pool.threads thread).Ended ↔ callsOf thread pool.requests = calls thread := by
  obtain ⟨rest, split, sends⟩ := follows thread
  rw [sends.ended_iff, ← split, List.self_eq_append_right]

/-- The histories are the lists that keep each thread's calls in order. -/
theorem exists_history_iff
    (sends : ∀ thread, (first.threads thread).Sends (calls thread) (results thread))
    (fresh : first.history = []) {entries : List (Thread × Call)} :
    (∃ schedule pool, (interleavings answer first).Run schedule pool ∧ pool.requests = entries) ↔
      ∀ thread, callsOf thread entries <+: calls thread := by
  have start : first.Follows calls results :=
    fun thread => ⟨calls thread, by simp [requests, fresh, callsOf], sends thread⟩
  constructor
  · rintro ⟨schedule, pool, run, rfl⟩ thread
    obtain ⟨rest, split, -⟩ := follows_of_run start run thread
    exact ⟨rest, split⟩
  · intro ordered
    induction entries using List.reverseRecOn with
    | nil => exact ⟨[], first, .initial rfl, by simp [requests, fresh]⟩
    | append_singleton before entry ih =>
      obtain ⟨thread, request⟩ := entry
      obtain ⟨schedule, pool, run, rfl⟩ := ih fun thread =>
        (callsOf_append before _ ▸ List.prefix_append _ _).trans (ordered thread)
      have more := ordered thread
      rw [callsOf_append, callsOf_singleton, if_pos rfl] at more
      obtain ⟨next, advanced, requests⟩ := (follows_of_run start run).exists_advance more
      exact ⟨_, next, .step run advanced, requests⟩

end Pool

section Whole

variable [DecidableEq Thread]

/-- After the calls `before`, the calls `part` of the thread follow each other. -/
def Whole (thread : Thread) (before part : List Call) (entries : List (Thread × Call)) : Prop :=
  ∃ front back, entries = front ++ part.map (Prod.mk thread) ++ back ∧ callsOf thread front = before

variable {thread : Thread} {before part : List Call} {entries : List (Thread × Call)}

/-- Where the first calls of a thread have been made. -/
theorem exists_split_of_prefix (started : before <+: callsOf thread entries) :
    ∃ front back, entries = front ++ back ∧ callsOf thread front = before := by
  induction entries generalizing before with
  | nil => exact ⟨[], [], rfl, (List.prefix_nil.mp started).symm⟩
  | cons entry rest ih =>
    cases before with
    | nil => exact ⟨[], entry :: rest, rfl, rfl⟩
    | cons request before =>
      rw [callsOf_cons] at started
      by_cases own : entry.1 = thread
      · rw [if_pos own, List.cons_prefix_cons] at started
        obtain ⟨rfl, started⟩ := started
        obtain ⟨front, back, rfl, same⟩ := ih started
        exact ⟨entry :: front, back, rfl, by rw [callsOf_cons, if_pos own, same]⟩
      · rw [if_neg own] at started
        obtain ⟨front, back, rfl, same⟩ := ih started
        exact ⟨entry :: front, back, rfl, by rw [callsOf_cons, if_neg own, same]⟩

/-- Where the next call of a thread is made. -/
theorem exists_split_of_next {request : Call} {calls : List Call}
    (next : callsOf thread entries = request :: calls) :
    ∃ front back, entries = front ++ (thread, request) :: back ∧ callsOf thread front = [] := by
  induction entries with
  | nil => cases next
  | cons entry rest ih =>
    rw [callsOf_cons] at next
    by_cases own : entry.1 = thread
    · rw [if_pos own, List.cons.injEq] at next
      obtain ⟨rfl, -⟩ := next
      exact ⟨[], rest, by rw [← own]; rfl, rfl⟩
    · rw [if_neg own] at next
      obtain ⟨front, back, rfl, same⟩ := ih next
      exact ⟨entry :: front, back, rfl, by rw [callsOf_cons, if_neg own, same]⟩

/-- Entries of one owner are its calls. -/
theorem eq_map_callsOf (alone : ∀ entry ∈ entries, entry.1 = thread) :
    entries = (callsOf thread entries).map (Prod.mk thread) := by
  induction entries with
  | nil => rfl
  | cons entry rest ih =>
    obtain ⟨rfl, others⟩ := List.forall_mem_cons.mp alone
    rw [callsOf_cons, if_pos rfl, List.map_cons, ← ih others]

/-- The calls of one owner are no calls of another. -/
theorem callsOf_map (calls : List Call) (other : Thread) :
    callsOf other (calls.map (Prod.mk thread)) = if thread = other then calls else [] := by
  induction calls with
  | nil => simp [callsOf]
  | cons request rest ih =>
    rw [List.map_cons, callsOf_cons, ih]
    split_ifs <;> rfl

/-- Two calls of a thread with a call of another one between them. -/
theorem not_whole {first second request : Call} {more : List Call} {other : Thread}
    (different : other ≠ thread) : ¬ Whole thread before (first :: second :: more)
      ((before ++ [first]).map (Prod.mk thread) ++
        (other, request) :: (second :: more).map (Prod.mk thread)) := by
  rintro ⟨front, back, same, isBefore⟩
  rw [List.append_assoc] at same
  -- The call of the other thread is not among the calls in question.
  have count : ∀ {entries}, front ++ (first :: second :: more).map (Prod.mk thread) ++ entries =
      (before ++ [first]).map (Prod.mk thread) → False := by
    intro entries cut
    have lengths := congrArg (fun entries => (callsOf thread entries).length) cut
    simp only [callsOf_append, callsOf_map, if_true, isBefore, List.length_append,
      List.length_cons, List.length_nil] at lengths
    omega
  rcases List.append_eq_append_iff.mp same with ⟨skipped, isFront, -⟩ | ⟨rest, cut, tail⟩
  · have lengths := congrArg (fun entries => (callsOf thread entries).length) isFront
    simp only [callsOf_append, callsOf_map, if_true, isBefore, List.length_append,
      List.length_cons, List.length_nil] at lengths
    omega
  · rcases List.append_eq_append_iff.mp tail with ⟨gap, rfl, -⟩ | ⟨gap, isPart, isGap⟩
    · exact count (by rw [List.append_assoc, ← cut])
    · cases gap with
      | nil =>
        rw [List.append_nil] at isPart
        rw [← isPart] at cut
        exact @count [] (by rw [List.append_nil, cut])
      | cons entry gap =>
        obtain ⟨rfl, -⟩ := List.cons.inj isGap
        have among : (other, request) ∈ (first :: second :: more).map (Prod.mk thread) := by
          rw [isPart]
          simp
        obtain ⟨_, -, isOther⟩ := List.mem_map.mp among
        exact different (congrArg Prod.fst isOther).symm

/-- Calls of one thread are never torn apart exactly if there is at most one of them, or no
other thread makes a call. -/
theorem forall_whole_iff {calls : Thread → List Call} {after : List Call}
    (split : calls thread = before ++ part ++ after) :
    (∀ entries : List (Thread × Call), (∀ other, callsOf other entries <+: calls other) →
        before ++ part <+: callsOf thread entries → Whole thread before part entries) ↔
      part.length ≤ 1 ∨ ∀ other, other ≠ thread → calls other = [] := by
  constructor
  · intro whole
    by_contra neither
    obtain ⟨several, others⟩ := not_or.mp neither
    obtain ⟨other, different, sends⟩ : ∃ other, other ≠ thread ∧ calls other ≠ [] := by
      simpa using others
    obtain ⟨request, requests, isSome⟩ := List.exists_cons_of_ne_nil sends
    rcases part with _ | ⟨first, _ | ⟨second, more⟩⟩
    · exact several (Nat.zero_le _)
    · exact several (Nat.le_refl _)
    · refine @not_whole _ _ _ thread before first second request more other different
        (whole _ (fun third => ?_) ?_)
      · simp only [callsOf_append, callsOf_cons, callsOf_map]
        by_cases isThread : thread = third
        · subst isThread
          simp [different, split]
        · by_cases isOther : other = third
          · subst isOther
            simp [isThread, isSome]
          · simp [isThread, isOther]
      · simp [callsOf_append, callsOf_cons, callsOf_map, different]
  · rintro (few | alone) entries ordered ⟨rest, sent⟩
    · obtain ⟨front, back, rfl, isBefore⟩ := exists_split_of_prefix
        (show before <+: callsOf thread entries from
          ⟨part ++ rest, by rw [← sent, List.append_assoc]⟩)
      rw [callsOf_append, isBefore, List.append_assoc] at sent
      have remains := List.append_cancel_left sent
      rcases part with _ | ⟨request, _ | ⟨_, _⟩⟩
      · exact ⟨front, back, by simp, isBefore⟩
      · obtain ⟨skipped, back, rfl, silent⟩ := exists_split_of_next remains.symm
        exact ⟨front ++ skipped, back, by simp, by
          rw [callsOf_append, isBefore, silent, List.append_nil]⟩
      · simp at few
    · have own : ∀ entry ∈ entries, entry.1 = thread := by
        intro entry among
        by_contra different
        have made : entry.2 ∈ callsOf entry.1 entries :=
          List.mem_map.mpr ⟨entry, List.mem_filter.mpr ⟨among, by simp⟩, rfl⟩
        have sent := (ordered entry.1).subset made
        rw [alone _ different] at sent
        cases sent
      refine ⟨before.map (Prod.mk thread), rest.map (Prod.mk thread), ?_, by simp [callsOf_map]⟩
      rw [eq_map_callsOf own, ← sent, List.map_append, List.map_append]

end Whole

end Verification
