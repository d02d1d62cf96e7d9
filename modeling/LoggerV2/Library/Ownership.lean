import Mathlib.Algebra.BigOperators.Group.Finset.Piecewise
import LoggerV2.Library.Interleaving

/-!
# Ownership

A call may take resources from its caller and give others back with the reply; resources
form a commutative monoid. `Triple` is the program logic over such contracts, with a rule
for each combinator; `Keeps` also says what the program owns on the way, which is how a frame
stays untouched. Where the world honours the contracts, what all
threads of a pool own together agrees with the world after every step (`Owning.advance`),
whatever the answers are; so the postconditions hold of the threads that have ended.
-/

namespace Verification

variable {Thread Call : Type} {Reply : Call → Type} {Error Value Next World Owned Choice : Type}

/-- What a call may take, and what it gives for each reply. -/
abbrev Contracts (Call : Type) (Reply : Call → Type) (Owned : Type) :=
  (request : Call) → Owned → (Reply request → Owned) → Prop

/-- What code owns when it has ended. -/
abbrev Post (Error Value Owned : Type) := Except Error Value → Owned → Prop

namespace Program

variable [AddCommMonoid Owned]

/-- Every call takes what the program owns at that point, whatever the replies, and what it
owns in the end meets the postcondition. -/
def Triple (contracts : Contracts Call Reply Owned) (owned : Owned) :
    Program Call Reply Error Value → Post Error Value Owned → Prop
  | done value, post => post (.ok value) owned
  | fail error, post => post (.error error) owned
  | call request next, post =>
    ∃ taken frame given, owned = taken + frame ∧ contracts request taken given ∧
      ∀ reply, Triple contracts (given reply + frame) (next reply) post

/-- As `Triple`, and what the program owns before each of its calls meets the condition. -/
def Keeps (contracts : Contracts Call Reply Owned) (condition : Owned → Prop) (owned : Owned) :
    Program Call Reply Error Value → Post Error Value Owned → Prop
  | done value, post => post (.ok value) owned
  | fail error, post => post (.error error) owned
  | call request next, post =>
    condition owned ∧ ∃ taken frame given, owned = taken + frame ∧ contracts request taken given ∧
      ∀ reply, Keeps contracts condition (given reply + frame) (next reply) post

namespace Keeps

variable {contracts : Contracts Call Reply Owned} {condition : Owned → Prop} {owned : Owned}
  {program : Program Call Reply Error Value} {post : Post Error Value Owned}

/-- A program that keeps the condition meets its contract. -/
theorem triple (keeps : Keeps contracts condition owned program post) :
    Triple contracts owned program post := by
  induction program generalizing owned with
  | done value => exact keeps
  | fail error => exact keeps
  | call request next ih =>
    obtain ⟨-, taken, frame, given, split, contract, rest⟩ := keeps
    exact ⟨taken, frame, given, split, contract, fun reply => ih reply (rest reply)⟩

/-- A weaker condition is kept too. -/
theorem mono {weaker : Owned → Prop} (keeps : Keeps contracts condition owned program post)
    (implies : ∀ owned, condition owned → weaker owned) :
    Keeps contracts weaker owned program post := by
  induction program generalizing owned with
  | done value => exact keeps
  | fail error => exact keeps
  | call request next ih =>
    obtain ⟨met, taken, frame, given, split, contract, rest⟩ := keeps
    exact ⟨implies _ met, taken, frame, given, split, contract, fun reply => ih reply (rest reply)⟩

/-- A single call, with what the caller owns besides. -/
theorem perform_bind {request : Call} {next : Reply request → Program Call Reply Error Value}
    {taken : Owned} {given : Reply request → Owned} (contract : contracts request taken given)
    (frame : Owned) (met : condition (taken + frame))
    (rest : ∀ reply, Keeps contracts condition (given reply + frame) (next reply) post) :
    Keeps contracts condition (taken + frame) (Program.perform request >>= next) post :=
  ⟨met, taken, frame, given, rfl, contract, rest⟩

/-- What both programs keep is kept throughout. -/
theorem bind {next : Value → Program Call Reply Error Next} {last : Post Error Next Owned}
    (first : Keeps contracts condition owned program post)
    (second : ∀ value owned, post (.ok value) owned →
      Keeps contracts condition owned (next value) last)
    (thrown : ∀ error owned, post (.error error) owned → last (.error error) owned) :
    Keeps contracts condition owned (program >>= next) last := by
  induction program generalizing owned with
  | done value => exact second value owned first
  | fail error => exact thrown error owned first
  | call request reply ih =>
    obtain ⟨met, taken, frame, given, split, contract, rest⟩ := first
    exact ⟨met, taken, frame, given, split, contract, fun answer => ih answer (rest answer)⟩

end Keeps

namespace Triple

variable {contracts : Contracts Call Reply Owned} {owned : Owned}
  {program : Program Call Reply Error Value} {post : Post Error Value Owned}

/-- What the program does not take, it has all the time. -/
theorem keeps (triple : Triple contracts owned program post) (other : Owned) :
    Keeps contracts (fun all => ∃ own, all = own + other) (owned + other) program
      fun result last => ∃ own, last = own + other ∧ post result own := by
  induction program generalizing owned with
  | done value => exact ⟨owned, rfl, triple⟩
  | fail error => exact ⟨owned, rfl, triple⟩
  | call request next ih =>
    obtain ⟨taken, frame, given, rfl, contract, rest⟩ := triple
    refine ⟨⟨_, rfl⟩, taken, frame + other, given, add_assoc _ _ _, contract, fun reply => ?_⟩
    rw [← add_assoc]
    exact ih reply (rest reply)

/-- What the program does not take, it leaves alone. -/
theorem frame (triple : Triple contracts owned program post) (other : Owned) :
    Triple contracts (owned + other) program fun result last =>
      ∃ own, last = own + other ∧ post result own :=
  (triple.keeps other).triple

/-- A single call, with what the caller owns besides. -/
theorem perform_bind {request : Call} {next : Reply request → Program Call Reply Error Value}
    {taken : Owned} {given : Reply request → Owned} (contract : contracts request taken given)
    (frame : Owned) (rest : ∀ reply, Triple contracts (given reply + frame) (next reply) post) :
    Triple contracts (taken + frame) (Program.perform request >>= next) post :=
  ⟨taken, frame, given, rfl, contract, rest⟩

/-- A single call that takes nothing. -/
theorem free_bind {request : Call} {next : Reply request → Program Call Reply Error Value}
    {given : Reply request → Owned} (contract : contracts request 0 given)
    (rest : ∀ reply, Triple contracts (given reply + owned) (next reply) post) :
    Triple contracts owned (Program.perform request >>= next) post :=
  ⟨0, owned, given, (zero_add owned).symm, contract, rest⟩

/-- The second program starts with what the first leaves. -/
theorem bind {next : Value → Program Call Reply Error Next} {last : Post Error Next Owned}
    (first : Triple contracts owned program post)
    (second : ∀ value owned, post (.ok value) owned → Triple contracts owned (next value) last)
    (thrown : ∀ error owned, post (.error error) owned → last (.error error) owned) :
    Triple contracts owned (program >>= next) last := by
  induction program generalizing owned with
  | done value => exact second value owned first
  | fail error => exact thrown error owned first
  | call request reply ih =>
    obtain ⟨taken, frame, given, split, contract, rest⟩ := first
    exact ⟨taken, frame, given, split, contract, fun answer => ih answer (rest answer)⟩

/-- The cleanup starts with what the body leaves, and cannot fail. -/
theorem ensure {cleanup : Program Call Reply Error Unit} {last : Post Error Value Owned}
    (body : Triple contracts owned program post)
    (cleans : ∀ result owned, post result owned →
      Triple contracts owned cleanup fun cleaned rest => cleaned.isOk ∧ last result rest) :
    Triple contracts owned (program.ensure cleanup) last := by
  have ends : ∀ {owned : Owned} {result : Except Error Value}
      {ended : Program Call Reply Error Value}, post result owned →
      (∀ owned, last result owned → Triple contracts owned ended last) →
      Triple contracts owned (cleanup.bind fun _ => ended) last := by
    intro owned result ended holds ends
    refine bind (cleans result owned holds) (fun _ rest met => ends rest met.2) ?_
    rintro error rest ⟨failed, -⟩
    cases failed
  induction program generalizing owned with
  | done value => exact ends body fun _ => id
  | fail error => exact ends body fun _ => id
  | call request reply ih =>
    obtain ⟨taken, frame, given, split, contract, rest⟩ := body
    exact ⟨taken, frame, given, split, contract, fun answer => ih answer (rest answer)⟩

/-- An error that is caught is a result. -/
theorem attempt {last : Post Error (Except Error Value) Owned}
    (triple : Triple contracts owned program post)
    (caught : ∀ result owned, post result owned → last (.ok result) owned) :
    Triple contracts owned program.attempt last := by
  induction program generalizing owned with
  | done value => exact caught _ _ triple
  | fail error => exact caught _ _ triple
  | call request next ih =>
    obtain ⟨taken, frame, given, split, contract, rest⟩ := triple
    exact ⟨taken, frame, given, split, contract, fun reply => ih reply (rest reply)⟩

/-- A program whose calls take nothing and give nothing. -/
theorem of_only {allowed : Call → Prop} (only : program.Only allowed)
    (free : ∀ request, allowed request → contracts request 0 fun _ => 0) :
    Triple contracts owned program fun _ last => last = owned := by
  induction program with
  | done value => rfl
  | fail error => rfl
  | call request next ih =>
    refine ⟨0, owned, fun _ => 0, (zero_add owned).symm, free request only.1, fun reply => ?_⟩
    rw [zero_add]
    exact ih reply (only.2 reply)

end Triple

end Program

section Honours

variable [AddCommMonoid Owned]

/-- Whenever the world agrees with what is owned before a call, it does so after it; what
the caller does not give away is untouched. -/
def Honours (answer : (request : Call) → World → Reply request × World)
    (contracts : Contracts Call Reply Owned) (agrees : World → Owned → Prop) : Prop :=
  ∀ request taken given, contracts request taken given → ∀ world frame,
    agrees world (taken + frame) →
      agrees (answer request world).2 (given (answer request world).1 + frame)

end Honours

namespace Pool

variable [DecidableEq Thread]

/-- The interleavings in which every step's label also chooses how the call is answered. -/
def interleavingsUnder (answer : Choice → (request : Call) → World → Reply request × World)
    (first : Pool Thread Call Reply Error Value World) :
    System (Pool Thread Call Reply Error Value World) (Thread × Choice) where
  Initial pool := pool = first
  Step pool label next := pool.advance (answer label.2) label.1 = some next

/-- Follow a schedule that says how each call is answered. -/
def followUnder (answer : Choice → (request : Call) → World → Reply request × World)
    (pool : Pool Thread Call Reply Error Value World) :
    List (Thread × Choice) → Option (Pool Thread Call Reply Error Value World)
  | [] => some pool
  | label :: rest => (pool.advance (answer label.2) label.1).bind fun next =>
    followUnder answer next rest

/-- What a computation followed is a run. -/
theorem run_of_followUnder
    {answer : Choice → (request : Call) → World → Reply request × World}
    {first last : Pool Thread Call Reply Error Value World} {schedule : List (Thread × Choice)}
    (followed : first.followUnder answer schedule = some last) :
    (interleavingsUnder answer first).Run schedule last := by
  have performs : ∀ {pool : Pool Thread Call Reply Error Value World},
      pool.followUnder answer schedule = some last →
      (interleavingsUnder answer first).Performs pool schedule last := by
    clear followed
    induction schedule with
    | nil => exact fun followed => Option.some.inj followed
    | cons label rest ih =>
      intro pool followed
      obtain ⟨next, advanced, followed⟩ := Option.bind_eq_some_iff.mp followed
      exact ⟨next, advanced, ih followed⟩
  exact (System.Run.initial rfl).append (performs followed)

variable [AddCommMonoid Owned] [Fintype Thread]

/-- Each thread owns what its program needs, and the world agrees with all of it. -/
structure Owning (contracts : Contracts Call Reply Owned) (agrees : World → Owned → Prop)
    (post : Thread → Post Error Value Owned)
    (pool : Pool Thread Call Reply Error Value World) (owned : Thread → Owned) : Prop where
  triples : ∀ thread, (pool.threads thread).Triple contracts (owned thread) (post thread)
  agrees : agrees pool.world (∑ thread, owned thread)

variable {answer : (request : Call) → World → Reply request × World}
  {contracts : Contracts Call Reply Owned} {agrees : World → Owned → Prop}
  {post : Thread → Post Error Value Owned} {owned : Thread → Owned}
  {pool next : Pool Thread Call Reply Error Value World} {thread : Thread}

/-- One thread's share of all that is owned, after a change. -/
theorem sum_update (owned : Thread → Owned) (thread : Thread) (changed : Owned) :
    ∑ other, Function.update owned thread changed other =
      changed + ∑ other ∈ Finset.univ \ {thread}, owned other :=
  Finset.sum_update_of_mem (Finset.mem_univ thread) owned changed

/-- After a call of one thread the world agrees with what all threads own. -/
theorem agrees_advance (honours : Honours answer contracts agrees)
    (before : agrees pool.world (∑ thread, owned thread)) {request : Call} {taken frame : Owned}
    {given : Reply request → Owned} (split : owned thread = taken + frame)
    (contract : contracts request taken given) :
    agrees (answer request pool.world).2 (∑ other,
      Function.update owned thread (given (answer request pool.world).1 + frame) other) := by
  rw [← Function.update_eq_self thread owned, sum_update, split, add_assoc] at before
  rw [sum_update, add_assoc]
  exact honours request taken given contract _ _ before

/-- A step of one thread changes what that thread owns, and no other. -/
theorem Owning.advance (owning : Owning contracts agrees post pool owned)
    (honours : Honours answer contracts agrees)
    (advanced : pool.advance answer thread = some next) :
    ∃ changed, Owning contracts agrees post next (Function.update owned thread changed) := by
  obtain ⟨request, rest, isCall, rfl⟩ := advance_eq_some_iff.mp advanced
  have triple := owning.triples thread
  rw [isCall] at triple
  obtain ⟨taken, frame, given, split, contract, triples⟩ := triple
  refine ⟨given (answer request pool.world).1 + frame, fun other => ?_, ?_⟩
  · by_cases same : other = thread
    · subst same
      simp only [Function.update_self]
      exact triples _
    · simp only [Function.update_of_ne same]
      exact owning.triples other
  · exact agrees_advance honours owning.agrees split contract

end Pool

end Verification
