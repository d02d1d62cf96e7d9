import LoggerV2.Exit.Handler
import LoggerV2.Handles.Plain

/-!
# Exit processing

One call of the exit handler gives back every reference it takes, so it changes no
look-up (`run_exitHandler`). It registers itself again exactly when the client `"main"`
is not alive, and then exit processing never ends (`exitLoop_of_not_shared`); otherwise
every registration is used once (`exitLoop_of_shared`).
-/

namespace LoggerV2

open Verification Verification.RefCount

variable {world : World} {refs : List Nat}

/-- The client `"main"` is alive and shared. -/
def MainShared (world : World) : Prop :=
  (world.registry.findShared .client mainName).isSome

instance (world : World) : Decidable (MainShared world) :=
  inferInstanceAs (Decidable (_ = true))

/-- What one call of the exit handler leaves behind. -/
structure Handled (world : World) (refs : List Nat) (last : World) : Prop where
  balanced : Balanced last.registry refs
  channels : MainChannels last.registry
  look : MainShared last ↔ MainShared world
  atexit : last.atexit = if MainShared world then world.atexit else world.atexit + 1
  data : MainShared world → last.atexitData = world.atexitData
  messages : MainShared world → last.messages =
    world.messages ++ report world.atexitData world.atexitData.backtrace

/-- The exit handler does not throw while nothing is refused. -/
theorem run_exitHandler (balanced : Balanced world.registry refs)
    (channels : MainChannels world.registry) :
    ∃ last, exitHandler.run (World.answer allGranted) world = (.ok (), last) ∧
      Handled world refs last := by
  obtain ⟨log, kept, middle, constructed, built, nothing⟩ :=
    exists_built .trace (ascii "main") balanced channels
  obtain rfl := nothing (by decide)
  have finds : FindsClient world.registry .trace (ascii "main") ↔ MainShared world := Iff.rfl
  obtain ⟨registry, rest⟩ := built.rest
  have owns := built.balanced
  have released : Balanced (middle.registry.release log) refs := owns.release
  have grown : world.registry.bones <+: (middle.registry.release log).bones := by
    rw [bones_release]
    exact built.grown
  have counts := balanced.count_eq released grown
  refine ⟨_, run_exitHandler_of_constructed constructed, ⟨released, ?_, ?_, ?_, ?_, ?_⟩⟩
  · exact (built.channels channels).of_bones (bones_release _ _)
  · rw [MainShared, MainShared]
    refine iff_of_eq (congrArg (fun found => Option.isSome found = true) ?_)
    exact findLive_eq_of_alive grown fun object => by rw [counts object]
  · rw [rest]
    by_cases shared : MainShared world
    · rw [if_pos (finds.mpr shared), if_pos shared]
    · rw [if_neg (mt finds.mp shared), if_neg shared]
      rfl
  · intro shared
    rw [rest, if_pos (finds.mpr shared)]
  · intro shared
    rw [rest, if_pos (finds.mpr shared)]
    simp only [World.messages, List.map_append, List.map_map]
    exact congrArg (World.messages world ++ ·) (List.map_id _)

/-- More fuel does not change how exit processing ended. -/
theorem exitLoop_of_le {fuel more : Nat} {last : World} (ended : exitLoop fuel world = some last)
    (enough : fuel ≤ more) : exitLoop more world = some last := by
  induction fuel generalizing world more with
  | zero =>
    by_cases empty : world.atexit = 0
    · cases more <;> simpa [exitLoop, empty] using ended
    · simp [exitLoop, empty] at ended
  | succ fuel ih =>
    obtain ⟨more, rfl⟩ := Nat.exists_eq_add_of_lt (Nat.lt_of_succ_le enough)
    by_cases empty : world.atexit = 0
    · simpa [exitLoop, empty] using ended
    · rw [exitLoop, if_neg empty] at ended ⊢
      rcases ran : exitHandler.run (World.answer allGranted)
        { world with atexit := world.atexit - 1 } with ⟨error | _, next⟩ <;> rw [ran] at ended
      · exact ended
      · exact ih ended (Nat.le_add_right _ _)

/-- While the client `"main"` is alive, exit processing calls each registered handler once,
and each of them logs the report. -/
theorem exitLoop_of_shared {fuel : Nat} (balanced : Balanced world.registry refs)
    (channels : MainChannels world.registry) (shared : MainShared world)
    (enough : world.atexit ≤ fuel) :
    ∃ last, exitLoop fuel world = some last ∧ last.messages = world.messages ++
      (List.replicate world.atexit
        (report world.atexitData world.atexitData.backtrace)).flatten := by
  induction fuel generalizing world with
  | zero =>
    have empty : world.atexit = 0 := Nat.le_zero.mp enough
    exact ⟨world, by rw [exitLoop, if_pos empty], by simp [empty]⟩
  | succ fuel ih =>
    by_cases empty : world.atexit = 0
    · exact ⟨world, by rw [exitLoop, if_pos empty], by simp [empty]⟩
    · let popped : World := { world with atexit := world.atexit - 1 }
      obtain ⟨next, ran, handled⟩ := @run_exitHandler popped refs balanced channels
      have fewer : next.atexit = world.atexit - 1 := handled.atexit.trans (if_pos shared)
      obtain ⟨last, ended, messages⟩ := ih handled.balanced handled.channels
        (handled.look.mpr shared) (by omega)
      refine ⟨last, ?_, ?_⟩
      · rw [exitLoop, if_neg empty, ran]
        exact ended
      · obtain ⟨handlers, count⟩ := Nat.exists_eq_succ_of_ne_zero empty
        rw [messages, handled.messages shared, handled.data shared, fewer, count]
        simp [List.replicate_succ, popped, World.messages]

/-- Without the client `"main"`, each handler that is called registers another one. -/
theorem exitLoop_of_not_shared (balanced : Balanced world.registry refs)
    (channels : MainChannels world.registry) (absent : ¬ MainShared world)
    (pending : world.atexit ≠ 0) (fuel : Nat) : exitLoop fuel world = none := by
  induction fuel generalizing world with
  | zero => rw [exitLoop, if_neg pending]
  | succ fuel ih =>
    obtain ⟨next, ran, handled⟩ := @run_exitHandler { world with atexit := world.atexit - 1 } refs
      balanced channels
    have again : next.atexit = world.atexit - 1 + 1 := handled.atexit.trans (if_neg absent)
    rw [exitLoop, if_neg pending, ran]
    exact ih handled.balanced handled.channels (mt handled.look.mp absent) (by omega)

/-- Exit processing ends if there is nothing to call, or the client `"main"` is alive. -/
theorem terminates_iff (balanced : Balanced world.registry refs)
    (channels : MainChannels world.registry) :
    Terminates world ↔ world.atexit = 0 ∨ MainShared world := by
  constructor
  · rintro ⟨fuel, ended⟩
    by_contra neither
    obtain ⟨pending, absent⟩ := not_or.mp neither
    rw [exitLoop_of_not_shared balanced channels absent pending] at ended
    cases ended
  · rintro (empty | shared)
    · exact ⟨0, by rw [exitLoop, if_pos empty, Option.isSome_some]⟩
    · obtain ⟨last, ended, -⟩ := exitLoop_of_shared balanced channels shared (Nat.le_refl _)
      exact ⟨_, by rw [ended, Option.isSome_some]⟩

/-- A signal changes the signal data only. -/
theorem eq_of_beginExit {start : World} {cause : Option Delivery}
    (begins : world.beginExit cause = some start) :
    ∃ data, start = { world with atexitData := data } := by
  cases cause with
  | none =>
    cases begins
    exact ⟨_, rfl⟩
  | some delivery =>
    rw [World.beginExit] at begins
    split at begins
    · cases begins
      exact ⟨_, rfl⟩
    · cases begins

variable {flags : Flags.Store} {ops : List Op} {process : Process}

/-- After a run without copies and moves, exit processing ends exactly if no client was ever
created or the client `"main"` is still alive. -/
theorem exit_terminates_iff (run : (plainSystem flags).Run ops process)
    {cause : Option Delivery} {start : World}
    (begins : process.world.beginExit cause = some start) :
    Terminates start ↔ process.world.registry.clients = 0 ∨ MainShared process.world := by
  obtain ⟨orderly, refs, balanced⟩ := orderly_of_plain_run run
  obtain ⟨data, rfl⟩ := eq_of_beginExit begins
  rw [← orderly.registered]
  exact terminates_iff balanced orderly.channels

/-- A log that is alive keeps the client `"main"` alive. -/
theorem exit_terminates_log :
    ∃ process, (plainSystem Flags.Store.default).Run [.named .trace (ascii "load") allGranted]
        process ∧ Terminates process.world := by
  suffices run : ∃ process, (plainSystem Flags.Store.default).Run
      [.named .trace (ascii "load") allGranted] process ∧ MainShared process.world by
    obtain ⟨process, run, shared⟩ := run
    exact ⟨process, run, (@exit_terminates_iff _ _ _ run none _ rfl).mpr (.inr shared)⟩
  refine ⟨_, (System.Run.initial rfl).append ⟨_, ⟨rfl, ?_, rfl⟩, rfl⟩, ?_⟩
  all_goals decide +kernel

/-- A client that is released before exit leaves a handler that registers itself forever. -/
theorem exit_of_released_client :
    ∃ process, (plainSystem Flags.Store.default).Run
        [.named .client (ascii "main") allGranted, .destroy 0] process ∧
      ¬ Terminates process.world := by
  suffices run : ∃ process, (plainSystem Flags.Store.default).Run
      [.named .client (ascii "main") allGranted, .destroy 0] process ∧
        ¬ (process.world.atexit = 0 ∨ MainShared process.world) by
    obtain ⟨process, run, neither⟩ := run
    obtain ⟨orderly, refs, balanced⟩ := orderly_of_plain_run run
    exact ⟨process, run, mt (terminates_iff balanced orderly.channels).mp neither⟩
  refine ⟨_, (System.Run.initial rfl).append ⟨_, ⟨rfl, ?_, rfl⟩, _, ⟨trivial, ?_, rfl⟩, rfl⟩, ?_⟩
  all_goals decide +kernel

end LoggerV2
