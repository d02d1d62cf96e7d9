import LoggerV2.Library.Interleaving

/-!
# The calls a thread makes

`Always` is a program logic over the calls that were made so far, with their replies; it
considers only replies that oblige. `resume` runs a program over calls that were made. In an
interleaving the calls of one thread are those of its own program in their own order, so what
`Always` holds of each program holds of each thread after every step (`Pool.always_advance`).
-/

namespace Verification

variable {Thread Call : Type} {Reply : Call → Type} {Error Value Next World : Type}

/-- A call with its reply. -/
abbrev Entry (Call : Type) (Reply : Call → Type) := (request : Call) × Reply request

namespace Program

/-- What is left of a program after these calls and replies, and the calls that are left over
once it has ended. -/
def resume [DecidableEq Call] : List (Entry Call Reply) → Program Call Reply Error Value →
    Program Call Reply Error Value × List (Entry Call Reply)
  | [], program => (program, [])
  | entry :: rest, done value => (done value, entry :: rest)
  | entry :: rest, fail error => (fail error, entry :: rest)
  | ⟨made, reply⟩ :: rest, call request next =>
    if same : made = request then resume rest (next (same ▸ reply))
    else (call request next, ⟨made, reply⟩ :: rest)

/-- A program goes on with the reply to the call it has made. -/
theorem resume_call [DecidableEq Call] {request : Call} (reply : Reply request)
    (rest : List (Entry Call Reply)) (next : Reply request → Program Call Reply Error Value) :
    resume (⟨request, reply⟩ :: rest) (call request next) = resume rest (next reply) := by
  rw [resume, dif_pos rfl]

/-- All calls are left over by a program that has ended. -/
theorem resume_done [DecidableEq Call] (calls : List (Entry Call Reply)) (value : Value) :
    resume calls (done value : Program Call Reply Error Value) = (done value, calls) := by
  cases calls <;> rfl

/-- However it goes on after the past calls, the program ends as the postcondition says; the
replies all oblige. -/
def Always (obliging : (request : Call) → Reply request → Prop)
    (past : List (Entry Call Reply)) :
    Program Call Reply Error Value → (List (Entry Call Reply) → Except Error Value → Prop) → Prop
  | done value, post => post past (.ok value)
  | fail error, post => post past (.error error)
  | call request next, post =>
    ∀ reply, obliging request reply → Always obliging (past ++ [⟨request, reply⟩]) (next reply) post

namespace Always

variable {obliging : (request : Call) → Reply request → Prop} {past : List (Entry Call Reply)}
  {program : Program Call Reply Error Value}
  {post : List (Entry Call Reply) → Except Error Value → Prop}

/-- A weaker statement about the history. -/
theorem mono {weaker : List (Entry Call Reply) → Except Error Value → Prop}
    (always : Always obliging past program post)
    (implies : ∀ calls result, post calls result → weaker calls result) :
    Always obliging past program weaker := by
  induction program generalizing past with
  | done value => exact implies _ _ always
  | fail error => exact implies _ _ always
  | call request next ih => exact fun reply obliges => ih reply (always reply obliges)

/-- The call and its reply are the next entry. -/
theorem perform_bind {request : Call} {next : Reply request → Program Call Reply Error Value}
    (rest : ∀ reply, obliging request reply →
      Always obliging (past ++ [⟨request, reply⟩]) (next reply) post) :
    Always obliging past (Program.perform request >>= next) post := rest

/-- The second program starts from the history the first leaves. -/
theorem bind {next : Value → Program Call Reply Error Next}
    {last : List (Entry Call Reply) → Except Error Next → Prop}
    (first : Always obliging past program post)
    (second : ∀ value calls, post calls (.ok value) → Always obliging calls (next value) last)
    (thrown : ∀ error calls, post calls (.error error) → last calls (.error error)) :
    Always obliging past (program >>= next) last := by
  induction program generalizing past with
  | done value => exact second value past first
  | fail error => exact thrown error past first
  | call request reply ih => exact fun answer obliges => ih answer (first answer obliges)

/-- The cleanup cannot fail. -/
theorem ensure {cleanup : Program Call Reply Error Unit}
    {last : List (Entry Call Reply) → Except Error Value → Prop}
    (body : Always obliging past program post)
    (cleans : ∀ result calls, post calls result →
      Always obliging calls cleanup fun all cleaned => cleaned.isOk ∧ last all result) :
    Always obliging past (program.ensure cleanup) last := by
  have ends : ∀ {result : Except Error Value} {ended : Program Call Reply Error Value}
      {past : List (Entry Call Reply)}, post past result →
      (∀ calls, last calls result → Always obliging calls ended last) →
      Always obliging past (cleanup.bind fun _ => ended) last := by
    intro result ended past holds ends
    refine bind (cleans result past holds) (fun _ calls met => ends calls met.2) ?_
    rintro error calls ⟨failed, -⟩
    cases failed
  induction program generalizing past with
  | done value => exact ends body fun _ => id
  | fail error => exact ends body fun _ => id
  | call request reply ih => exact fun answer obliges => ih answer (body answer obliges)

end Always

end Program

namespace Pool

variable [DecidableEq Thread]

/-- The calls of one thread. -/
def own (pool : Pool Thread Call Reply Error Value World) (thread : Thread) :
    List (Entry Call Reply) :=
  (pool.history.filter fun entry => entry.1 = thread).map Prod.snd

variable {answer : (request : Call) → World → Reply request × World}
  {pool next : Pool Thread Call Reply Error Value World} {thread : Thread}

/-- Every call is some thread's. -/
theorem mem_history_iff {entry : Entry Call Reply} :
    entry ∈ pool.history.map Prod.snd ↔ ∃ thread, entry ∈ pool.own thread := by
  simp [own]

/-- A step is a call of one thread, and the other threads stay as they are. -/
theorem own_advance (advanced : pool.advance answer thread = some next) :
    ∃ request rest, pool.threads thread = .call request rest ∧
      next.own thread = pool.own thread ++ [⟨request, (answer request pool.world).1⟩] ∧
      next.threads thread = rest (answer request pool.world).1 ∧
      ∀ other, other ≠ thread →
        next.own other = pool.own other ∧ next.threads other = pool.threads other := by
  obtain ⟨request, rest, isCall, rfl⟩ := advance_eq_some_iff.mp advanced
  refine ⟨request, rest, isCall, ?_, Function.update_self _ _ _, fun other different => ⟨?_, ?_⟩⟩
  · simp [own]
  · simp [own, Ne.symm different]
  · exact Function.update_of_ne different _ _

variable {obliging : (request : Call) → Reply request → Prop}
  {post : Thread → List (Entry Call Reply) → Except Error Value → Prop}

/-- A step of one thread goes on with its program. -/
theorem always_advance (obliges : ∀ request world, obliging request (answer request world).1)
    (always : ∀ thread, (pool.threads thread).Always obliging (pool.own thread) (post thread))
    (advanced : pool.advance answer thread = some next) (other : Thread) :
    (next.threads other).Always obliging (next.own other) (post other) := by
  obtain ⟨request, rest, isCall, calls, program, others⟩ := own_advance advanced
  by_cases same : other = thread
  · subst same
    have before := always other
    rw [isCall] at before
    rw [calls, program]
    exact before _ (obliges _ _)
  · obtain ⟨calls, program⟩ := others other same
    rw [calls, program]
    exact always other

end Pool

end Verification
