import LoggerV2.Exit.Termination

/-!
# How often a signal is reported

Every registration of the exit handler reports the stored signal, and each client that
was ever created left one. A signal is therefore reported once exactly if the run created
one client.
-/

namespace LoggerV2

open Verification Verification.RefCount

/-- After the signal, exit processing ends with the report of the signal logged, once. -/
def ReportedOnce (world : World) (delivery : Delivery) : Prop :=
  ∃ start ∈ world.beginExit (some delivery), ∃ fuel, ∃ last ∈ exitLoop fuel start,
    last.messages = start.messages ++ report start.atexitData start.atexitData.backtrace

variable {world : World} {refs : List Nat} {delivery : Delivery}

/-- The handler of a signal stores that signal, with or without a stack trace. -/
theorem handle_sig (data : SignalLogData) (delivery : Delivery) :
    (data.handle delivery).sig = some delivery.signal := by
  rw [SignalLogData.handle]
  dsimp only
  split <;> rfl

/-- A nonempty list that is repeated is itself only once. -/
theorem flatten_replicate_eq_self_iff {α : Type} {lines : List α} (nonempty : lines ≠ [])
    {count : Nat} :
    (List.replicate count lines).flatten = lines ↔ count = 1 := by
  constructor
  · intro same
    have lengths : count * lines.length = lines.length := by
      simpa [List.length_flatten, List.map_replicate, List.sum_replicate_nat] using
        congrArg List.length same
    have positive : 0 < lines.length := List.length_pos_iff.mpr nonempty
    exact Nat.eq_of_mul_eq_mul_right positive (by rw [lengths, Nat.one_mul])
  · rintro rfl
    simp

/-- While the client `"main"` is alive, a handled signal is reported as often as the exit
handler is registered. -/
theorem reportedOnce_iff (balanced : Balanced world.registry refs)
    (channels : MainChannels world.registry) (shared : MainShared world)
    (handled : delivery.signal ∈ world.handlers) :
    ReportedOnce world delivery ↔ world.atexit = 1 := by
  let start : World := { world with atexitData := world.atexitData.handle delivery }
  have begins : world.beginExit (some delivery) = some start := by
    rw [World.beginExit, if_pos handled]
  have lines := report_ne_nil (handle_sig world.atexitData delivery)
    (world.atexitData.handle delivery).backtrace
  constructor
  · rintro ⟨_, isStart, fuel, last, ended, once⟩
    obtain rfl : start = _ := Option.some.inj (begins.symm.trans isStart)
    -- Any amount of fuel that suffices ends in the same world.
    obtain ⟨other, endedToo, messages⟩ := @exitLoop_of_shared start refs (max fuel world.atexit)
      balanced channels shared (Nat.le_max_right _ _)
    have same := (exitLoop_of_le ended (Nat.le_max_left fuel world.atexit)).symm.trans endedToo
    obtain rfl := Option.some.inj same
    exact (flatten_replicate_eq_self_iff lines).mp
      (List.append_cancel_left (messages.symm.trans once))
  · intro single
    obtain ⟨last, ended, messages⟩ := @exitLoop_of_shared start refs world.atexit balanced channels
      shared (Nat.le_refl _)
    refine ⟨start, begins, _, last, ended, messages.trans ?_⟩
    exact congrArg (start.messages ++ ·) ((flatten_replicate_eq_self_iff lines).mpr single)

/-- A client that is alive was created. -/
theorem clients_pos_of_found {registry : Registry} {name : Text} {client : Nat}
    (found : registry.findShared .client name = some client) : 0 < registry.clients := by
  obtain ⟨cell, isCell, -, tag⟩ := findShared_eq_some found
  refine List.countP_pos_iff.mpr ⟨(cell.tag, cell.holds), ?_, by simp [tag]⟩
  exact List.mem_map.mpr ⟨cell, List.mem_of_getElem? isCell, rfl⟩

/-- If the client `"main"` is alive, a client was created. -/
theorem clients_pos_of_shared (shared : MainShared world) : 0 < world.registry.clients := by
  obtain ⟨client, found⟩ := Option.isSome_iff_exists.mp shared
  exact clients_pos_of_found found

variable {flags : Flags.Store} {ops : List Op} {process : Process}

/-- After a run without copies and moves that leaves the client `"main"` alive, a signal is
reported once exactly if the run created one client. -/
theorem reported_once_iff (run : (plainSystem flags).Run ops process)
    (shared : MainShared process.world) (delivery : Delivery) :
    ReportedOnce process.world delivery ↔ process.world.registry.clients = 1 := by
  obtain ⟨orderly, refs, balanced⟩ := orderly_of_plain_run run
  have handled := orderly.handled (clients_pos_of_shared shared) delivery.signal
  rw [← orderly.registered]
  exact reportedOnce_iff balanced orderly.channels shared handled

/-- Two logs and a telemetry object share the one client. -/
theorem reported_once_channels :
    ∃ process, (plainSystem Flags.Store.default).Run
        [.named .trace (ascii "load") allGranted, .named .telemetry (ascii "load") allGranted,
          .named .trace (ascii "main") allGranted, .destroy 0] process ∧
      ∀ delivery, ReportedOnce process.world delivery := by
  suffices run : ∃ process, (plainSystem Flags.Store.default).Run
      [.named .trace (ascii "load") allGranted, .named .telemetry (ascii "load") allGranted,
        .named .trace (ascii "main") allGranted, .destroy 0] process ∧
      MainShared process.world ∧ process.world.registry.clients = 1 by
    obtain ⟨process, run, shared, single⟩ := run
    exact ⟨process, run, fun delivery => (reported_once_iff run shared delivery).mpr single⟩
  refine ⟨_, (System.Run.initial rfl).append ⟨_, ⟨rfl, ?_, rfl⟩, _, ⟨rfl, ?_, rfl⟩, _,
    ⟨rfl, ?_, rfl⟩, _, ⟨trivial, ?_, rfl⟩, rfl⟩, ?_⟩
  all_goals decide +kernel

/-- With a second client alive under another name, no signal is reported just once. -/
theorem reported_twice :
    ∃ process, (plainSystem Flags.Store.default).Run
        [.named .client (ascii "main") allGranted, .named .client (ascii "other") allGranted]
        process ∧
      MainShared process.world ∧ ∀ delivery, ¬ ReportedOnce process.world delivery := by
  suffices run : ∃ process, (plainSystem Flags.Store.default).Run
      [.named .client (ascii "main") allGranted, .named .client (ascii "other") allGranted]
      process ∧ MainShared process.world ∧ process.world.atexit = 2 by
    obtain ⟨process, run, shared, two⟩ := run
    obtain ⟨orderly, refs, balanced⟩ := orderly_of_plain_run run
    refine ⟨process, run, shared, fun delivery once => ?_⟩
    have handled := orderly.handled (clients_pos_of_shared shared) delivery.signal
    have single := (reportedOnce_iff balanced orderly.channels shared handled).mp once
    omega
  refine ⟨_, (System.Run.initial rfl).append ⟨_, ⟨rfl, ?_, rfl⟩, _, ⟨rfl, ?_, rfl⟩, rfl⟩, ?_⟩
  all_goals decide +kernel

end LoggerV2
