import LoggerV2.Handles.Safety
import LoggerV2.Client.Granted

/-!
# Runs without copies and moves

When P7 refuses nothing and no handle is copied or moved, the handlers that are registered
tell how many clients were ever created (`Orderly`).
-/

namespace LoggerV2

open Verification Verification.RefCount

/-- The operation is no copy and no move, and nothing it asks for is refused. -/
def Plain : Op → Prop
  | .default _ | .swap _ _ | .destroy _ => True
  | .named _ _ granted => granted = allGranted
  | .copyConstruct _ | .moveConstruct _ | .copyAssign _ _ | .moveAssign _ _ => False

/-- Runs of plain operations. -/
def plainSystem (flags : Flags.Store) : System Process Op :=
  (handleSystem flags).restrict fun _ op => Plain op

/-- Each client registered the exit handler once, and the first one the signal handlers. -/
structure Orderly (world : World) : Prop where
  channels : MainChannels world.registry
  registered : world.atexit = world.registry.clients
  handled : 0 < world.registry.clients → ∀ signal, signal ∈ world.handlers

variable {flags : Flags.Store} {ops : List Op} {process : Process} {world : World}

/-- Without copies and moves there is nothing to guard. -/
theorem Plain.guarded {op : Op} (plain : Plain op) (process : Process) : Guarded process op := by
  cases op <;> trivial

/-- At first there are no clients. -/
theorem orderly_initial (flags : Flags.Store) : Orderly (World.initial flags) :=
  ⟨fun _ member => by simp [World.initial, Heap.empty, Heap.bones] at member, rfl,
    fun positive => absurd positive (Nat.lt_irrefl 0)⟩

/-- A construction by name registers a handler exactly when it creates a client. -/
theorem Orderly.built {refs : List Nat} {finds : Prop} [Decidable finds] {object : Nat}
    {kept : List Nat} {last : World} (orderly : Orderly world)
    (built : Built world refs finds object kept last) : Orderly last := by
  obtain ⟨registry, rest⟩ := built.rest
  have clients := built.clients
  by_cases found : finds
  · rw [if_pos found] at rest clients
    refine ⟨built.channels orderly.channels, ?_, fun positive => ?_⟩
    · rw [clients, rest]
      exact orderly.registered
    · rw [rest]
      exact orderly.handled (by simpa [clients] using positive)
  · rw [if_neg found] at rest clients
    refine ⟨built.channels orderly.channels, ?_, fun _ signal => ?_⟩
    · rw [clients, rest]
      exact congrArg (· + 1) orderly.registered
    · rw [rest]
      exact List.mem_append_left _ (List.mem_reverse.mpr (mem_handledSignals signal))

/-- Giving a reference back creates no object. -/
theorem Orderly.release (orderly : Orderly world) (object : Nat) :
    Orderly { world with registry := world.registry.release object } := by
  have clients : Registry.clients (world.registry.release object) = world.registry.clients := by
    rw [Registry.clients, bones_release, Registry.clients]
  refine ⟨orderly.channels.of_bones (bones_release _ _), ?_, fun positive => ?_⟩
  · rw [clients]
    exact orderly.registered
  · exact orderly.handled (clients ▸ positive)

/-- Every plain operation keeps the handlers in step with the clients. -/
theorem Orderly.apply (orderly : Orderly process.world) (safe : Safe process) {op : Op}
    (plain : Plain op) : Orderly (process.apply op).world := by
  cases op with
  | default kind => exact orderly
  | named kind name granted =>
    obtain rfl : granted = allGranted := plain
    obtain ⟨refs, balanced, -⟩ := safe
    obtain ⟨object, kept, last, ran, built, -⟩ := exists_built kind name balanced orderly.channels
    rw [Process.apply, ran]
    exact orderly.built built
  | swap first second =>
    rw [Process.apply]
    split <;> exact orderly
  | destroy index =>
    rw [Process.apply]
    cases process.handle? index with
    | none => exact orderly
    | some handle =>
      obtain ⟨kind, pointer⟩ := handle
      cases pointer with
      | none => exact orderly
      | some object => exact orderly.release object
  | copyConstruct | moveConstruct | copyAssign | moveAssign => exact plain.elim

/-- What every plain run ends in. -/
theorem orderly_of_plain_run (run : (plainSystem flags).Run ops process) :
    Orderly process.world ∧ ∃ refs, Balanced process.world.registry refs := by
  have both : Orderly process.world ∧ Safe process := by
    refine @System.Run.invariant _ _ _ _ _ (fun state => Orderly state.world ∧ Safe state) ?_ ?_ run
    · rintro _ rfl
      exact ⟨orderly_initial flags, safe_initial flags⟩
    · rintro state op _ ⟨orderly, safe⟩ ⟨plain, -, rfl⟩
      exact ⟨orderly.apply safe plain, safe.apply (plain.guarded state)⟩
  obtain ⟨orderly, refs, balanced, -⟩ := both
  exact ⟨orderly, refs, balanced⟩

end LoggerV2
