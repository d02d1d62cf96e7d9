import LoggerV2.Handles.Process

/-!
# Reference-count safety

The defaulted copies and moves duplicate a pointer without a reference. A run in which
every such operation finds a reference to spare keeps, for each live handle, a reference
of its own (`Safe`), and then no object's count falls below its live handles.
-/

namespace LoggerV2

open Verification Verification.RefCount

/-- The object has a reference that no live handle and no live channel accounts for. -/
def Spare (process : Process) (object : Nat) : Prop :=
  process.liveHandles object + process.world.registry.holders object <
    process.world.registry.count object

/-- A handle may take over a null pointer, or one to an object with a spare reference. -/
def MayTake (process : Process) (pointer : Option Nat) : Prop :=
  ∀ object ∈ pointer, Spare process object

/-- A copy or a move takes over only what it may, unless the target has that pointer
already. -/
def Guarded (process : Process) : Op → Prop
  | .copyConstruct source | .moveConstruct source =>
    ∀ handle ∈ process.handle? source, MayTake process handle.pointer
  | .copyAssign target source | .moveAssign target source =>
    ∀ old ∈ process.handle? target, ∀ new ∈ process.handle? source,
      old.pointer = new.pointer ∨ MayTake process new.pointer
  | _ => True

instance (process : Process) (object : Nat) : Decidable (Spare process object) :=
  inferInstanceAs (Decidable (_ < _))

instance (process : Process) (pointer : Option Nat) : Decidable (MayTake process pointer) :=
  inferInstanceAs (Decidable (∀ object ∈ pointer, Spare process object))

instance (process : Process) : (op : Op) → Decidable (Guarded process op)
  | .copyConstruct source | .moveConstruct source =>
    inferInstanceAs (Decidable (∀ handle ∈ process.handle? source, _))
  | .copyAssign target source | .moveAssign target source =>
    inferInstanceAs (Decidable
      (∀ old ∈ process.handle? target, ∀ new ∈ process.handle? source, _))
  | .default _ | .named _ _ _ | .swap _ _ | .destroy _ => isTrue trivial

/-- The registry is balanced, and every live handle has a reference of its own. -/
def Safe (process : Process) : Prop :=
  ∃ refs, Balanced process.world.registry refs ∧
    ∀ object, process.liveHandles object ≤ refs.count object

variable {process next : Process} {object : Nat}

/-- At first there is nothing to release. -/
theorem safe_initial (flags : Flags.Store) : Safe (Process.initial flags) :=
  ⟨[], balanced_empty, fun _ => Nat.le_refl 0⟩

/-- A safe process has at least as many references as handles, and released nothing too
often. -/
theorem Safe.counts (safe : Safe process) :
    (∀ object, process.liveHandles object ≤ process.world.registry.count object) ∧
      process.world.registry.overReleased = false := by
  obtain ⟨refs, balanced, covered⟩ := safe
  refine ⟨fun object => ?_, balanced.sound⟩
  have counted := balanced.counts object
  have here := covered object
  omega

/-- One more handle at an object with a spare reference. -/
theorem Safe.add (safe : Safe process) {handle : Handle} (may : MayTake process handle.pointer) :
    Safe (process.add handle) := by
  obtain ⟨refs, balanced, covered⟩ := safe
  refine ⟨refs, balanced, fun object => ?_⟩
  have here := covered object
  rw [liveHandles_add]
  split_ifs with points
  · have spare := may object points
    have counted := balanced.counts object
    rw [Spare] at spare
    omega
  · omega

/-- An assignment that takes over what it may keeps the counts. -/
theorem Safe.assign (safe : Safe process) {target source : Nat}
    (may : ∀ old ∈ process.handle? target, ∀ new ∈ process.handle? source,
      old.pointer = new.pointer ∨ MayTake process new.pointer) :
    Safe (process.assign target source) := by
  rw [Process.assign]
  cases foundTarget : process.handle? target with
  | none => exact safe
  | some old =>
    cases foundSource : process.handle? source with
    | none => exact safe
    | some new =>
      obtain ⟨refs, balanced, covered⟩ := safe
      refine ⟨refs, balanced, fun object => ?_⟩
      have here := covered object
      have moved := @liveHandles_put process object target old foundTarget
        (some { old with pointer := new.pointer })
      simp only [Option.any_some, decide_eq_true_eq] at moved
      dsimp only
      rcases may old foundTarget new foundSource with same | may
      · rw [same] at moved
        omega
      · by_cases points : new.pointer = some object
        · have spare := may object points
          have counted := balanced.counts object
          rw [Spare] at spare
          rw [if_pos points] at moved
          omega
        · rw [if_neg points] at moved
          omega

/-- A destructor gives up the reference of its handle. -/
theorem Safe.destroy (safe : Safe process) (index : Nat) :
    Safe (process.apply (.destroy index)) := by
  rw [Process.apply]
  cases found : process.handle? index with
  | none => exact safe
  | some handle =>
    obtain ⟨kind, pointer⟩ := handle
    obtain ⟨refs, balanced, covered⟩ := safe
    have moved := fun object => @liveHandles_put process object index _ found none
    cases pointer with
    | none =>
      refine ⟨refs, balanced, fun object => ?_⟩
      have here := covered object
      have moved := moved object
      simp at moved
      exact moved ▸ here
    | some held =>
      have member : held ∈ refs := by
        have here := covered held
        have moved := moved held
        simp at moved
        exact List.count_pos_iff.mp (by omega)
      refine ⟨refs.erase held, (balanced.perm (List.perm_cons_erase member)).release,
        fun object => ?_⟩
      have here := covered object
      have moved := moved object
      rw [List.count_erase]
      by_cases same : held = object
      · simp [same] at moved ⊢
        change (process.put index none).liveHandles object ≤ _
        omega
      · simp [same] at moved ⊢
        change (process.put index none).liveHandles object ≤ _
        omega

/-- `swap` exchanges two pointers, so every object has as many handles as before. -/
theorem liveHandles_swap (first second : Nat) :
    (process.apply (.swap first second)).liveHandles object = process.liveHandles object := by
  rw [Process.apply]
  cases foundFirst : process.handle? first with
  | none => rfl
  | some one =>
    cases foundSecond : process.handle? second with
    | none => rfl
    | some two =>
      have moved := @liveHandles_put process object first one foundFirst
        (some { one with pointer := two.pointer })
      dsimp only
      obtain ⟨handle, still, pointer⟩ := exists_handle?_put foundFirst foundSecond
      have back := @liveHandles_put _ object second handle still
        (some { two with pointer := one.pointer })
      simp only [Option.any_some, decide_eq_true_eq, pointer] at moved back
      omega

/-- A constructor by name leaves a safe process safe, also when it throws. -/
theorem Safe.named (safe : Safe process) (kind : Kind) (name : Text)
    (granted : P7Call → Bool) : Safe (process.apply (.named kind name granted)) := by
  obtain ⟨refs, balanced, covered⟩ := safe
  obtain ⟨leaked, owns⟩ := @owns_construct granted process.world refs kind name balanced
  rw [Process.apply]
  rcases ended : (construct kind name).run (World.answer granted) process.world
    with ⟨error | object, world⟩ <;> rw [ended] at owns <;> dsimp only at owns ⊢
  · refine ⟨leaked ++ refs, owns, fun object => ?_⟩
    have here := covered object
    rw [List.count_append]
    exact Nat.le_add_left_of_le here
  · refine ⟨object :: (leaked ++ refs), owns, fun other => ?_⟩
    have here := covered other
    rw [liveHandles_add, List.count_cons, List.count_append]
    by_cases same : object = other
    · simp [same]
      change process.liveHandles other ≤ _
      omega
    · simp [same]
      change process.liveHandles other ≤ _
      omega

/-- Every guarded operation keeps a process safe. -/
theorem Safe.apply (safe : Safe process) {op : Op} (guarded : Guarded process op) :
    Safe (process.apply op) := by
  have duplicate : ∀ {source}, (∀ handle ∈ process.handle? source,
      MayTake process handle.pointer) → Safe (process.duplicate source) := by
    intro source may
    rw [Process.duplicate]
    cases found : process.handle? source with
    | none => exact safe
    | some handle => exact safe.add (may handle found)
  cases op with
  | default kind => exact safe.add fun object null => by cases null
  | named kind name granted => exact safe.named kind name granted
  | copyConstruct source => exact duplicate guarded
  | moveConstruct source => exact duplicate guarded
  | copyAssign target source => exact safe.assign guarded
  | moveAssign target source => exact safe.assign guarded
  | swap first second =>
    obtain ⟨refs, balanced, covered⟩ := safe
    refine ⟨refs, ?_, fun object => ?_⟩
    · rw [Process.apply]
      split <;> exact balanced
    · rw [liveHandles_swap]
      exact covered object
  | destroy index => exact safe.destroy index

/-- In a run whose copies and moves all find a reference to spare, every object's count is
at least its live handles, and nothing is released too often. -/
theorem counts_of_guarded_run {flags : Flags.Store} {ops : List Op}
    (run : ((handleSystem flags).restrict Guarded).Run ops process) :
    (∀ object, process.liveHandles object ≤ process.world.registry.count object) ∧
      process.world.registry.overReleased = false := by
  have safe : Safe process := by
    refine run.invariant ?_ ?_
    · rintro _ rfl
      exact safe_initial flags
    · rintro state op _ safe ⟨guarded, -, rfl⟩
      exact safe.apply guarded
  exact safe.counts

/-- A telemetry object's own reference can be lent to one copy. -/
theorem counts_telemetry_copy :
    ∃ process, ((handleSystem Flags.Store.default).restrict Guarded).Run
        [.named .telemetry (ascii "load") allGranted, .copyConstruct 0, .destroy 0] process ∧
      (∀ object, process.liveHandles object ≤ process.world.registry.count object) ∧
        process.world.registry.overReleased = false := by
  suffices run : ∃ process, ((handleSystem Flags.Store.default).restrict Guarded).Run
      [.named .telemetry (ascii "load") allGranted, .copyConstruct 0, .destroy 0] process by
    obtain ⟨process, run⟩ := run
    exact ⟨process, run, counts_of_guarded_run run⟩
  refine ⟨_, (System.Run.initial rfl).append ⟨_, ⟨?_, ?_, rfl⟩, _, ⟨?_, ?_, rfl⟩, _,
    ⟨?_, ?_, rfl⟩, rfl⟩⟩
  all_goals decide +kernel

/-- A client that is copied is released twice. -/
theorem client_copy_over_released :
    ∃ process, (handleSystem Flags.Store.default).Run
        [.named .client (ascii "main") allGranted, .copyConstruct 0, .destroy 0, .destroy 1]
        process ∧
      process.world.registry.overReleased = true := by
  refine ⟨_, (System.Run.initial rfl).append ⟨_, ⟨?_, rfl⟩, _, ⟨?_, rfl⟩, _, ⟨?_, rfl⟩, _,
    ⟨?_, rfl⟩, rfl⟩, ?_⟩
  all_goals decide +kernel

end LoggerV2
