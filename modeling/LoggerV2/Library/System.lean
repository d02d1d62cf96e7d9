/-!
# Labelled transition systems

A `System` says which labelled steps each state admits. `Run` retains the label
sequence of a finite execution from an initial state. `restrict` keeps the steps
that meet a condition on the state before them; `confine` keeps the steps that
stay inside a set of states. `restrict_run_iff_confine` exchanges the two when
the condition is exact for that set.
-/

namespace Verification

universe u v w

/-- Initial states and labelled steps. -/
structure System (State : Type u) (Label : Type v) where
  Initial : State → Prop
  Step : State → Label → State → Prop

namespace System

variable {State : Type u} {Label : Type v}

/-- A finite execution, with the labels of its steps in order. -/
inductive Run (system : System State Label) : List Label → State → Prop where
  | initial {state} (valid : system.Initial state) : Run system [] state
  | step {labels state label next} (prior : Run system labels state)
      (transition : system.Step state label next) : Run system (labels ++ [label]) next

/-- Some execution ends in `state`. -/
def Reachable (system : System State Label) (state : State) : Prop :=
  ∃ labels, system.Run labels state

/-- The steps that meet a condition on the state before them. -/
def restrict (system : System State Label) (condition : State → Label → Prop) :
    System State Label where
  Initial := system.Initial
  Step state label next := condition state label ∧ system.Step state label next

/-- The executions all of whose states lie inside a set of states. -/
def confine (system : System State Label) (inside : State → Prop) : System State Label where
  Initial state := system.Initial state ∧ inside state
  Step state label next := system.Step state label next ∧ inside next

variable {system : System State Label} {labels : List Label} {state : State}

/-- An inductive invariant holds at the end of every execution. -/
theorem Run.invariant {holds : State → Prop}
    (initial : ∀ state, system.Initial state → holds state)
    (preserved : ∀ state label next, holds state → system.Step state label next → holds next)
    (run : system.Run labels state) : holds state := by
  induction run with
  | initial valid => exact initial _ valid
  | step _ transition ih => exact preserved _ _ _ ih transition

/-- An execution whose steps all meet a condition is an execution. -/
theorem Run.of_restrict {condition : State → Label → Prop}
    (run : (system.restrict condition).Run labels state) : system.Run labels state := by
  induction run with
  | initial valid => exact .initial valid
  | step _ transition ih => exact .step ih transition.2

/-- A sequence of steps from one state to another. -/
def Performs (system : System State Label) : State → List Label → State → Prop
  | state, [], last => state = last
  | state, label :: rest, last =>
    ∃ next, system.Step state label next ∧ system.Performs next rest last

/-- An execution goes on with any sequence of steps from its end. -/
theorem Run.append {more : List Label} {last : State} (run : system.Run labels state)
    (performs : system.Performs state more last) : system.Run (labels ++ more) last := by
  induction more generalizing labels state with
  | nil =>
    obtain rfl := performs
    rwa [List.append_nil]
  | cons label rest ih =>
    obtain ⟨next, transition, performs⟩ := performs
    have whole := ih (.step run transition) performs
    rwa [List.append_assoc] at whole

/-- What every step keeps, a sequence of steps keeps. -/
theorem Performs.invariant {holds : State → Prop} {last : State}
    (preserved : ∀ state label next, holds state → system.Step state label next → holds next)
    (start : holds state) (performs : system.Performs state labels last) : holds last := by
  induction labels generalizing state with
  | nil => exact performs ▸ start
  | cons label rest ih =>
    obtain ⟨next, transition, performs⟩ := performs
    exact ih (preserved state label next start transition) performs

/-- A relation that every step keeps, with a step of another system for each, carries every
execution over to that system. -/
theorem Run.simulates {Abstract : Type w} {abstract : System Abstract Label}
    {related : State → Abstract → Prop}
    (initial : ∀ state, system.Initial state →
      ∃ other, abstract.Initial other ∧ related state other)
    (steps : ∀ state other label next, related state other → system.Step state label next →
      ∃ last, abstract.Step other label last ∧ related next last)
    (run : system.Run labels state) : ∃ other, abstract.Run labels other ∧ related state other := by
  induction run with
  | initial valid =>
    obtain ⟨other, start, relates⟩ := initial _ valid
    exact ⟨other, .initial start, relates⟩
  | step _ transition ih =>
    obtain ⟨other, run, relates⟩ := ih
    obtain ⟨last, step, relates⟩ := steps _ _ _ _ relates transition
    exact ⟨last, .step run step, relates⟩

/-- When a condition on steps is exact for a set of states, up to an invariant
that every step inside the set keeps, the executions whose steps all meet the
condition are the executions that never leave the set. -/
theorem restrict_run_iff_confine {condition : State → Label → Prop}
    {inside : State → Prop} (holds : State → Prop)
    (initial : ∀ state, system.Initial state → holds state ∧ inside state)
    (preserved : ∀ state label next, holds state → system.Step state label next → holds next)
    (decides : ∀ state label next, holds state → inside state → system.Step state label next →
      (condition state label ↔ inside next)) :
    (system.restrict condition).Run labels state ↔ (system.confine inside).Run labels state := by
  have inside_of_restrict : ∀ {labels state}, (system.restrict condition).Run labels state →
      holds state ∧ inside state := by
    intro labels state run
    induction run with
    | initial valid => exact initial _ valid
    | step _ transition ih =>
      obtain ⟨met, step⟩ := transition
      exact ⟨preserved _ _ _ ih.1 step, (decides _ _ _ ih.1 ih.2 step).mp met⟩
  have inside_of_confine : ∀ {labels state}, (system.confine inside).Run labels state →
      holds state ∧ inside state := by
    intro labels state run
    induction run with
    | initial valid => exact initial _ valid.1
    | step _ transition ih => exact ⟨preserved _ _ _ ih.1 transition.1, transition.2⟩
  constructor
  · intro run
    induction run with
    | initial valid => exact .initial ⟨valid, (initial _ valid).2⟩
    | step prior transition ih =>
      obtain ⟨met, step⟩ := transition
      have here := inside_of_restrict prior
      exact .step ih ⟨step, (decides _ _ _ here.1 here.2 step).mp met⟩
  · intro run
    induction run with
    | initial valid => exact .initial valid.1
    | step prior transition ih =>
      obtain ⟨step, within⟩ := transition
      have here := inside_of_confine prior
      exact .step ih ⟨(decides _ _ _ here.1 here.2 step).mpr within, step⟩

end System

end Verification
