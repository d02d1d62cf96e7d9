import Mathlib.Logic.Function.Basic
import LoggerV2.Library.System
import LoggerV2.Library.Program

/-!
# Interleaved programs

A `Pool` is any number of threads, each with a program still to run, that share one world.
One step is one call of one thread. `LeadsTo` says what a thread does when no other thread
interferes: it makes only quiet calls until one call reaches the goal.
-/

namespace Verification

variable {Thread Call : Type} {Reply : Call → Type} {Error Value Next World : Type}

/-- What each thread still has to run, the world, and the calls made so far. -/
structure Pool (Thread Call : Type) (Reply : Call → Type) (Error Value World : Type) where
  threads : Thread → Program Call Reply Error Value
  world : World
  history : List (Thread × (request : Call) × Reply request)

namespace Pool

variable [DecidableEq Thread]

/-- Every thread is about to run the same program. -/
def start (program : Program Call Reply Error Value) (world : World) :
    Pool Thread Call Reply Error Value World :=
  ⟨fun _ => program, world, []⟩

/-- One thread makes its next call, unless it has ended. -/
def advance (answer : (request : Call) → World → Reply request × World)
    (pool : Pool Thread Call Reply Error Value World) (thread : Thread) :
    Option (Pool Thread Call Reply Error Value World) :=
  match pool.threads thread with
  | .done _ => none
  | .fail _ => none
  | .call request next =>
    let (reply, world) := answer request pool.world
    some
      { threads := Function.update pool.threads thread (next reply)
        world
        history := pool.history ++ [(thread, ⟨request, reply⟩)] }

/-- The interleavings that begin with a pool; the labels are the schedule. -/
def interleavings (answer : (request : Call) → World → Reply request × World)
    (first : Pool Thread Call Reply Error Value World) :
    System (Pool Thread Call Reply Error Value World) Thread where
  Initial pool := pool = first
  Step pool thread next := pool.advance answer thread = some next

variable {answer : (request : Call) → World → Reply request × World}
  {pool next : Pool Thread Call Reply Error Value World} {thread : Thread}

/-- Only a thread that has not ended takes a step, and only its program changes. -/
theorem advance_eq_some_iff :
    pool.advance answer thread = some next ↔
      ∃ request rest, pool.threads thread = .call request rest ∧
        next =
          { threads := Function.update pool.threads thread (rest (answer request pool.world).1)
            world := (answer request pool.world).2
            history := pool.history ++ [(thread, ⟨request, (answer request pool.world).1⟩)] } := by
  rw [advance]
  cases pool.threads thread with
  | done value => simp
  | fail error => simp
  | call request rest =>
    constructor
    · intro advanced
      exact ⟨request, rest, rfl, (Option.some.inj advanced).symm⟩
    · rintro ⟨_, _, same, rfl⟩
      cases same
      rfl

/-- Follow a schedule as long as the condition holds before each step. -/
def follow (answer : (request : Call) → World → Reply request × World)
    (condition : Pool Thread Call Reply Error Value World → Thread → Prop)
    [∀ pool thread, Decidable (condition pool thread)]
    (pool : Pool Thread Call Reply Error Value World) :
    List Thread → Option (Pool Thread Call Reply Error Value World)
  | [] => some pool
  | thread :: rest =>
    if condition pool thread then
      (pool.advance answer thread).bind fun next => follow answer condition next rest
    else none

/-- What a computation followed is an execution. -/
theorem performs_of_follow {condition : Pool Thread Call Reply Error Value World → Thread → Prop}
    [∀ pool thread, Decidable (condition pool thread)]
    {first last : Pool Thread Call Reply Error Value World} {schedule : List Thread}
    (followed : pool.follow answer condition schedule = some last) :
    ((interleavings answer first).restrict condition).Performs pool schedule last := by
  induction schedule generalizing pool with
  | nil => exact Option.some.inj followed
  | cons thread rest ih =>
    rw [follow] at followed
    split at followed
    case isTrue met =>
      obtain ⟨next, advanced, followed⟩ := Option.bind_eq_some_iff.mp followed
      exact ⟨next, ⟨met, advanced⟩, ih followed⟩
    case isFalse => cases followed

/-- A schedule that can be followed is an interleaving whose steps meet the condition. -/
theorem run_of_follow {condition : Pool Thread Call Reply Error Value World → Thread → Prop}
    [∀ pool thread, Decidable (condition pool thread)]
    {last : Pool Thread Call Reply Error Value World} {schedule : List Thread}
    (followed : pool.follow answer condition schedule = some last) :
    ((interleavings answer pool).restrict condition).Run schedule last :=
  (System.Run.initial rfl).append (performs_of_follow followed)

end Pool

/-- Left alone, the program makes quiet calls until one call reaches the goal. -/
inductive LeadsTo (answer : (request : Call) → World → Reply request × World)
    (quiet : Call → Prop) (goal : Program Call Reply Error Value → World → Prop) :
    Program Call Reply Error Value → World → Prop where
  | last {request : Call} {next : Reply request → Program Call Reply Error Value} {world : World}
      (reached : goal (next (answer request world).1) (answer request world).2) :
      LeadsTo answer quiet goal (.call request next) world
  | step {request : Call} {next : Reply request → Program Call Reply Error Value} {world : World}
      (isQuiet : quiet request)
      (rest : LeadsTo answer quiet goal (next (answer request world).1) (answer request world).2) :
      LeadsTo answer quiet goal (.call request next) world

namespace LeadsTo

variable {answer : (request : Call) → World → Reply request × World} {quiet : Call → Prop}
  {goal : Program Call Reply Error Value → World → Prop}
  {program : Program Call Reply Error Value} {world : World}

/-- A quiet beginning. -/
theorem bind {first : Program Call Reply Error Next} {value : Next} {middle : World}
    {next : Next → Program Call Reply Error Value} (only : first.Only quiet)
    (ran : first.run answer world = (.ok value, middle))
    (rest : LeadsTo answer quiet goal (next value) middle) :
    LeadsTo answer quiet goal (first >>= next) world := by
  induction first generalizing world with
  | done result =>
    obtain ⟨same, rfl⟩ := Prod.mk.inj ran
    obtain rfl := Except.ok.inj same
    exact rest
  | fail error =>
    obtain ⟨same, -⟩ := Prod.mk.inj ran
    cases same
  | call request reply ih => exact .step only.1 (ih _ (only.2 _) ran)

/-- The cleanup comes after the goal. -/
theorem ensure {later : Program Call Reply Error Value → World → Prop}
    {cleanup : Program Call Reply Error Unit} (leads : LeadsTo answer quiet goal program world)
    (reaches : ∀ program world, goal program world → later (program.ensure cleanup) world) :
    LeadsTo answer quiet later (program.ensure cleanup) world := by
  induction leads with
  | last reached => exact .last (reaches _ _ reached)
  | step isQuiet _ ih => exact .step isQuiet ih

end LeadsTo

end Verification
