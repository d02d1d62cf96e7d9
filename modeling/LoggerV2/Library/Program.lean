/-!
# Programs that make calls

A `Program` is a tree of calls that ends in a value or an error. `ensure` is the
destructor of a local object: it runs on both exits. `run` executes a program against a
world that answers the calls. The tree also serves as the code of a thread
(`Pool`), where other threads' calls fall between two calls of one program.
-/

namespace Verification

/-- A tree of calls that ends in a value or an error. -/
inductive Program (Call : Type) (Reply : Call → Type) (Error Value : Type) where
  | done (value : Value)
  | fail (error : Error)
  | call (request : Call) (next : Reply request → Program Call Reply Error Value)

namespace Program

variable {Call : Type} {Reply : Call → Type} {Error Value Next World : Type}

/-- Go on with the value; an error ends the whole program. -/
def bind : Program Call Reply Error Value → (Value → Program Call Reply Error Next) →
    Program Call Reply Error Next
  | done value, next => next value
  | fail error, _ => fail error
  | call request reply, next => call request fun answer => (reply answer).bind next

instance : Monad (Program Call Reply Error) where
  pure := done
  bind := bind

def perform (request : Call) : Program Call Reply Error (Reply request) :=
  call request done

/-- Run the cleanup when the body ends, with a value or an error. -/
def ensure : Program Call Reply Error Value → Program Call Reply Error Unit →
    Program Call Reply Error Value
  | done value, cleanup => cleanup.bind fun _ => done value
  | fail error, cleanup => cleanup.bind fun _ => fail error
  | call request next, cleanup => call request fun answer => (next answer).ensure cleanup

/-- The body's value or exception, as a value. -/
def attempt : Program Call Reply Error Value → Program Call Reply Error (Except Error Value)
  | done value => done (.ok value)
  | fail error => done (.error error)
  | call request next => call request fun reply => (next reply).attempt

/-- The error a program has ended with. -/
def error? : Program Call Reply Error Value → Option Error
  | fail error => some error
  | _ => none

/-- The error of a program that has failed. -/
theorem error?_eq_some_iff {program : Program Call Reply Error Value} {error : Error} :
    program.error? = some error ↔ program = .fail error := by
  cases program <;> simp [error?]

/-- The value a program has ended with. -/
def value? : Program Call Reply Error Value → Option Value
  | done value => some value
  | _ => none

/-- The value of a program that has ended. -/
theorem value?_eq_some_iff {program : Program Call Reply Error Value} {value : Value} :
    program.value? = some value ↔ program = .done value := by
  cases program <;> simp [value?]

/-- No call is left. -/
def Ended : Program Call Reply Error Value → Prop
  | done _ | fail _ => True
  | call _ _ => False

instance : (program : Program Call Reply Error Value) → Decidable program.Ended
  | done _ | fail _ => isTrue trivial
  | call _ _ => isFalse id

/-- Execute against a world that answers each call. -/
def run (answer : (request : Call) → World → Reply request × World) :
    Program Call Reply Error Value → World → Except Error Value × World
  | done value, world => (.ok value, world)
  | fail error, world => (.error error, world)
  | call request next, world =>
    (next (answer request world).1).run answer (answer request world).2

section Run

variable {answer : (request : Call) → World → Reply request × World} {world : World}

@[simp] theorem run_pure (value : Value) :
    (pure value : Program Call Reply Error Value).run answer world = (.ok value, world) := rfl

/-- The second program runs where the first one ended. -/
theorem run_bind (program : Program Call Reply Error Value)
    (next : Value → Program Call Reply Error Next) (world : World) :
    (program >>= next).run answer world =
      match program.run answer world with
      | (.ok value, middle) => (next value).run answer middle
      | (.error error, middle) => (.error error, middle) := by
  induction program generalizing world with
  | done value => rfl
  | fail error => rfl
  | call request reply ih => exact ih _ _

/-- The cleanup runs however the program ended. -/
theorem run_ensure (program : Program Call Reply Error Value)
    (cleanup : Program Call Reply Error Unit) (world : World) :
    (program.ensure cleanup).run answer world =
      match program.run answer world with
      | (result, middle) =>
        match cleanup.run answer middle with
        | (.ok _, last) => (result, last)
        | (.error error, last) => (.error error, last) := by
  induction program generalizing world with
  | done value =>
    refine (run_bind cleanup (fun _ => done value) world).trans ?_
    simp only [run]
    rcases cleanup.run answer world with ⟨_ | _, last⟩ <;> rfl
  | fail error =>
    refine (run_bind cleanup (fun _ => fail error) world).trans ?_
    simp only [run]
    rcases cleanup.run answer world with ⟨_ | _, last⟩ <;> rfl
  | call request reply ih => exact ih _ _

/-- The reply goes to what follows. -/
theorem run_perform_bind (request : Call)
    (next : Reply request → Program Call Reply Error Next) :
    (perform request >>= next).run answer world =
      (next (answer request world).1).run answer (answer request world).2 := rfl

end Run

/-- Every call the program can make is allowed. -/
def Only (allowed : Call → Prop) : Program Call Reply Error Value → Prop
  | done _ => True
  | fail _ => True
  | call request next => allowed request ∧ ∀ reply, (next reply).Only allowed

namespace Only

variable {allowed : Call → Prop} {program : Program Call Reply Error Value}

theorem pure (value : Value) :
    (Pure.pure value : Program Call Reply Error Value).Only allowed := trivial

theorem fail (error : Error) : (.fail error : Program Call Reply Error Value).Only allowed :=
  trivial

theorem perform {request : Call} (isAllowed : allowed request) :
    (Program.perform request : Program Call Reply Error _).Only allowed :=
  ⟨isAllowed, fun _ => trivial⟩

theorem bind {next : Value → Program Call Reply Error Next} (first : program.Only allowed)
    (second : ∀ value, (next value).Only allowed) : (program >>= next).Only allowed := by
  induction program with
  | done value => exact second value
  | fail error => trivial
  | call request reply ih => exact ⟨first.1, fun answer => ih answer (first.2 answer)⟩

theorem mono {wider : Call → Prop} (only : program.Only allowed)
    (weaker : ∀ request, allowed request → wider request) : program.Only wider := by
  induction program with
  | done value => trivial
  | fail error => trivial
  | call request reply ih => exact ⟨weaker request only.1, fun answer => ih answer (only.2 answer)⟩

/-- What every allowed call keeps, the whole program keeps. -/
theorem run_preserves {answer : (request : Call) → World → Reply request × World}
    {holds : World → Prop} {world : World} (only : program.Only allowed)
    (keeps : ∀ request, allowed request → ∀ world, holds world → holds (answer request world).2)
    (start : holds world) : holds (program.run answer world).2 := by
  induction program generalizing world with
  | done value => exact start
  | fail error => exact start
  | call request reply ih => exact ih _ (only.2 _) (keeps request only.1 world start)

end Only

end Program

end Verification
