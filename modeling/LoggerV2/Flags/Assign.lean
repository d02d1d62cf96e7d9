import LoggerV2.Library.System
import LoggerV2.Flags.Accept

/-!
# Flag assignments

An assignment runs the parser of its flag against the current store and commits the
value only when the parser returns true. `flagSystem` is the set of runs of such
assignments from the defaults; `processArguments` is one command line, which fails as
a whole when a parser returns false.
-/

namespace LoggerV2.Flags

open Verification

/-- One `--flag=text`. -/
structure Assignment where
  flag : FlagName
  text : Text
deriving DecidableEq, Repr

namespace Store

/-- Parse an assignment and store the value, if the parser returns true. -/
def assign? (absl : Absl) (store : Store) (assignment : Assignment) : Option Store :=
  match abslParseFlag absl store assignment.flag assignment.text with
  | .ok value => some (store.set assignment.flag value)
  | .error _ => none

/-- A rejected assignment leaves the store as it was. -/
def assign (absl : Absl) (store : Store) (assignment : Assignment) : Store :=
  (store.assign? absl assignment).getD store

/-- One command line, left to right; `none` when some parser returns false. -/
def processArguments (absl : Absl) : Store → List Assignment → Option Store
  | store, [] => some store
  | store, assignment :: rest =>
    (store.assign? absl assignment).bind fun next => processArguments absl next rest

end Store

/-- Runs of assignments from the defaults. -/
def flagSystem (absl : Absl) : System Store Assignment where
  Initial store := store = Store.default
  Step store assignment next := next = store.assign absl assignment

variable {absl : Absl} {store next : Store}

/-- An accepted assignment changes one flag, to a value its parser accepts. -/
theorem assign?_eq_some_iff {assignment : Assignment} :
    store.assign? absl assignment = some next ↔
      ∃ value, decode absl assignment.flag assignment.text = .ok value ∧
        Accepts store assignment.flag value ∧ next = store.set assignment.flag value := by
  rw [Store.assign?]
  cases result : abslParseFlag absl store assignment.flag assignment.text with
  | ok value =>
    obtain ⟨decoded, accepted⟩ := abslParseFlag_eq_ok_iff.mp result
    simp only [Option.some.injEq]
    constructor
    · rintro rfl
      exact ⟨value, decoded, accepted, rfl⟩
    · rintro ⟨other, otherDecoded, -, rfl⟩
      rw [decoded] at otherDecoded
      cases otherDecoded
      rfl
  | error message =>
    simp only [reduceCtorEq, false_iff]
    rintro ⟨value, decoded, accepted, -⟩
    rw [abslParseFlag_eq_ok_iff.mpr ⟨decoded, accepted⟩] at result
    cases result

/-- A step either keeps the store or commits an accepted value. -/
theorem assign_cases (absl : Absl) (store : Store) (assignment : Assignment) :
    store.assign absl assignment = store ∧ store.assign? absl assignment = none ∨
      ∃ value, decode absl assignment.flag assignment.text = .ok value ∧
        Accepts store assignment.flag value ∧
        store.assign absl assignment = store.set assignment.flag value := by
  cases result : store.assign? absl assignment with
  | none => exact .inl ⟨by simp [Store.assign, result], rfl⟩
  | some next =>
    obtain ⟨value, decoded, accepted, rfl⟩ := assign?_eq_some_iff.mp result
    exact .inr ⟨value, decoded, accepted, by simp [Store.assign, result]⟩

/-- The two flags whose parsers end in `return false` keep their defaults. -/
def Frozen (store : Store) : Prop :=
  store .logPort = kLogPortDefault ∧ store .logPacketSize = kLogPacketSizeDefault

/-- At first both have their defaults. -/
theorem frozen_default : Frozen Store.default := ⟨rfl, rfl⟩

/-- A port or packet size that a parser accepts is the default. -/
theorem Accepts.eq_default {flag : FlagName} {value : flag.Value}
    (accepted : Accepts store flag value) (frozen : flag = .logPort ∨ flag = .logPacketSize) :
    value = Store.default flag := by
  rcases accepted with isDefault | ⟨-, inRange⟩
  · exact eq_default_of_isDefault isDefault
  · rcases frozen with rfl | rfl <;> exact inRange.elim

/-- An accepted value of either is its default. -/
theorem Frozen.set {flag : FlagName} {value : flag.Value} (frozen : Frozen store)
    (accepted : Accepts store flag value) : Frozen (store.set flag value) := by
  constructor
  · by_cases here : flag = .logPort
    · subst here
      exact (Store.set_self _ _ _).trans (accepted.eq_default (.inl rfl))
    · rw [Store.set_other _ _ (Ne.symm here)]
      exact frozen.1
  · by_cases here : flag = .logPacketSize
    · subst here
      exact (Store.set_self _ _ _).trans (accepted.eq_default (.inr rfl))
    · rw [Store.set_other _ _ (Ne.symm here)]
      exact frozen.2

/-- No assignment changes them. -/
theorem Frozen.assign {assignment : Assignment} (frozen : Frozen store) :
    Frozen (store.assign absl assignment) := by
  rcases assign_cases absl store assignment with ⟨same, -⟩ | ⟨value, -, accepted, committed⟩
  · rwa [same]
  · rw [committed]
    exact frozen.set accepted

/-- Every reachable store still has the default port and packet size. -/
theorem frozen_of_reachable (reachable : (flagSystem absl).Reachable store) : Frozen store := by
  obtain ⟨labels, run⟩ := reachable
  refine run.invariant ?_ ?_
  · rintro _ rfl
    exact frozen_default
  · rintro state label next frozen rfl
    exact frozen.assign

end LoggerV2.Flags
