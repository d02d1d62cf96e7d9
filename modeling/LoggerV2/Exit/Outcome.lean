import LoggerV2.Client.Outcome
import LoggerV2.Exit.Report
import LoggerV2.Handles.Names

/-!
# What exit processing does

After a run without copies and moves, the operations alone say whether exit processing ends
(`exit_terminates_named_iff`). When it does, it has logged the report once for every client
that was created, to the trace shared as `"main"`, and changed no count
(`exit_restores`).
-/

namespace LoggerV2

open Verification Verification.RefCount

variable {flags : Flags.Store} {ops : List Op} {process : Process} {world : World}
  {refs : List Nat}

/-- The operation constructs by name. -/
def Op.IsNamed : Op → Prop
  | .named _ _ _ => True
  | _ => False

instance : (op : Op) → Decidable op.IsNamed
  | .named _ _ _ => isTrue trivial
  | .default _ | .copyConstruct _ | .moveConstruct _ | .copyAssign _ _ | .moveAssign _ _
  | .swap _ _ | .destroy _ => isFalse id

/-- What operations come to, by name. -/
def Names.after (ops : List Op) : Names := ops.foldl Names.apply .initial

/-- The run over names only applies the operations. -/
theorem after_of_run {names : Names} (run : nameSystem.Run ops names) :
    names = Names.after ops := by
  induction run with
  | initial valid => exact valid
  | step _ transition ih =>
    obtain ⟨-, rfl⟩ := transition
    rw [Names.after, List.foldl_append, ih]
    rfl

/-- A client was created exactly if something was constructed by name. -/
theorem clients_pos_iff (run : (plainSystem flags).Run ops process) :
    0 < process.world.registry.clients ↔ ∃ op ∈ ops, op.IsNamed := by
  induction run with
  | initial valid =>
    obtain rfl := valid
    simp [Process.initial, World.initial, Heap.empty, Registry.clients, Heap.bones]
  | @step ops process op next prior transition ih =>
    obtain ⟨orderly, refs, balanced⟩ := orderly_of_plain_run prior
    obtain ⟨plain, valid, rfl⟩ := transition
    have others : ¬ op.IsNamed → (0 < process.world.registry.clients ↔
        ∃ other ∈ ops ++ [op], other.IsNamed) := by
      intro other
      simp [ih, other]
    cases op with
    | named kind name granted =>
      obtain rfl : granted = allGranted := plain
      refine iff_of_true ?_ ⟨_, List.mem_append_right _ List.mem_cons_self, trivial⟩
      obtain ⟨object, kept, last, ran, built, -⟩ := exists_built kind name balanced orderly.channels
      rw [Process.apply, ran]
      have clients := built.clients
      change 0 < last.registry.clients
      by_cases finds : FindsClient process.world.registry kind name
      · obtain ⟨client, found⟩ := Option.isSome_iff_exists.mp finds
        have positive := clients_pos_of_found found
        omega
      · rw [if_neg finds] at clients
        omega
    | default kind => exact others id
    | swap first second =>
      rw [Process.apply]
      split <;> exact others id
    | destroy index =>
      refine Iff.trans ?_ (others id)
      rw [Process.apply]
      cases process.handle? index with
      | none => rfl
      | some handle =>
        obtain ⟨kind, pointer⟩ := handle
        cases pointer with
        | none => rfl
        | some object =>
          change 0 < Registry.clients (process.world.registry.release object) ↔ _
          rw [Registry.clients, bones_release, Registry.clients]
    | copyConstruct | moveConstruct | copyAssign | moveAssign => exact plain.elim

/-- After a run without copies and moves, exit processing ends exactly if nothing was
constructed by name, or a client `"main"` or a log is still held, or a telemetry object was
ever constructed. -/
theorem exit_terminates_named_iff (run : (plainSystem flags).Run ops process)
    {cause : Option Delivery} {start : World}
    (begins : process.world.beginExit cause = some start) :
    Terminates start ↔
      (∀ op ∈ ops, ¬ op.IsNamed) ∨ (Names.after ops).InUse .client mainName := by
  obtain ⟨orderly, refs, balanced⟩ := orderly_of_plain_run run
  obtain ⟨names, named, shows⟩ : ∃ names, nameSystem.Run ops names ∧
      (MainShared process.world ↔ names.InUse .client mainName) := by
    obtain ⟨names, named, slots, kept, realizes⟩ := exists_realizes run
    exact ⟨names, named, realizes.shared_iff orderly.channels⟩
  obtain ⟨data, rfl⟩ := eq_of_beginExit begins
  have unregistered : process.world.atexit = 0 ↔ ∀ op ∈ ops, ¬ op.IsNamed := by
    rw [orderly.registered, ← Nat.le_zero, ← Nat.not_lt, clients_pos_iff run]
    simp
  have terminates := @terminates_iff { process.world with atexitData := data } refs balanced
    orderly.channels
  rw [← after_of_run named, ← shows, ← unregistered]
  exact terminates

/-- A telemetry object keeps its client, so exit processing ends though no handle is left. -/
theorem exit_terminates_named_telemetry :
    ∃ process, (plainSystem Flags.Store.default).Run
        [.named .telemetry (ascii "load") allGranted, .destroy 0] process ∧
      Terminates process.world := by
  suffices run : ∃ process, (plainSystem Flags.Store.default).Run
      [.named .telemetry (ascii "load") allGranted, .destroy 0] process by
    obtain ⟨process, run⟩ := run
    exact ⟨process, run, (@exit_terminates_named_iff _ _ _ run none _ rfl).mpr
      (.inr (by decide +kernel))⟩
  refine ⟨_, (System.Run.initial rfl).append ⟨_, ⟨rfl, ?_, rfl⟩, _, ⟨trivial, ?_, rfl⟩, rfl⟩⟩
  all_goals decide +kernel

section Restores

/-- Without a registered handler there is nothing to do. -/
theorem exitLoop_of_unregistered {fuel : Nat} (unregistered : world.atexit = 0) :
    exitLoop fuel world = some world := by
  cases fuel <;> rw [exitLoop, if_pos unregistered]

/-- The lines belong to traces that are shared as `"main"`. -/
def ToMain (registry : Registry) (lines : List TraceLine) : Prop :=
  ∀ line ∈ lines, registry.tag? line.object = some ⟨.trace, some mainName⟩

/-- Creating objects does not change where lines went. -/
theorem ToMain.grown {registry next : Registry} {lines : List TraceLine}
    (toMain : ToMain registry lines) (grown : registry.bones <+: next.bones) : ToMain next lines :=
  fun line isLine => tag?_grown (toMain line isLine) grown

/-- What exit processing changed: objects were created and lines were logged to the trace
`"main"`. -/
structure Restored (world : World) (refs : List Nat) (last : World) : Prop where
  balanced : Balanced last.registry refs
  grown : world.registry.bones <+: last.registry.bones
  traced : ∃ lines, last.traced = world.traced ++ lines ∧ ToMain last.registry lines

theorem Restored.refl (balanced : Balanced world.registry refs) : Restored world refs world :=
  ⟨balanced, List.prefix_refl _, [], by simp, fun _ isLine => by cases isLine⟩

theorem Restored.trans {middle last : World} (first : Restored world refs middle)
    (second : Restored middle refs last) : Restored world refs last := by
  obtain ⟨before, tracedBefore, toMainBefore⟩ := first.traced
  obtain ⟨after, tracedAfter, toMainAfter⟩ := second.traced
  refine ⟨second.balanced, first.grown.trans second.grown, before ++ after, ?_, ?_⟩
  · rw [tracedAfter, tracedBefore, List.append_assoc]
  · intro line isLine
    rcases List.mem_append.mp isLine with old | new
    · exact toMainBefore.grown second.grown line old
    · exact toMainAfter line new

/-- One call of the exit handler gives back what it takes. -/
theorem restored_exitHandler (balanced : Balanced world.registry refs)
    (channels : MainChannels world.registry) {last : World}
    (ran : exitHandler.run (World.answer allGranted) world = (.ok (), last)) :
    Restored world refs last := by
  obtain ⟨log, kept, middle, constructed, built, nothing⟩ :=
    exists_built .trace (ascii "main") balanced channels
  obtain rfl := nothing (by decide)
  have makes := construct_makes allGranted world .trace (ascii "main")
  rw [constructed] at makes
  have isMain : middle.registry.tag? log = some ⟨.trace, some mainName⟩ := makes.tagged log rfl
  obtain ⟨registry, rest⟩ := built.rest
  have sameTraced : middle.traced = world.traced := by
    rw [rest]
    by_cases finds : FindsClient world.registry .trace (ascii "main")
    · rw [if_pos finds]
    · rw [if_neg finds]
      rfl
  obtain rfl := congrArg Prod.snd (ran.symm.trans (run_exitHandler_of_constructed constructed))
  have owns := built.balanced
  refine ⟨owns.release, ?_, _, congrArg (· ++ _) sameTraced, ?_⟩
  · rw [bones_release]
    exact built.grown
  · intro line isLine
    obtain ⟨entry, -, rfl⟩ := List.mem_map.mp isLine
    exact (tag?_of_bones (bones_release _ _)).trans isMain

/-- So does every number of calls. -/
theorem restored_exitLoop {fuel : Nat} {last : World} (balanced : Balanced world.registry refs)
    (channels : MainChannels world.registry) (ended : exitLoop fuel world = some last) :
    Restored world refs last := by
  induction fuel generalizing world with
  | zero =>
    rw [exitLoop] at ended
    split_ifs at ended
    cases ended
    exact .refl balanced
  | succ fuel ih =>
    rw [exitLoop] at ended
    split_ifs at ended
    · cases ended
      exact .refl balanced
    · let popped : World := { world with atexit := world.atexit - 1 }
      obtain ⟨next, ran, handled⟩ := @run_exitHandler popped refs balanced channels
      rw [ran] at ended
      obtain ⟨owns, grown, traced⟩ := @restored_exitHandler popped refs balanced channels next ran
      have called : Restored world refs next := ⟨owns, grown, traced⟩
      exact called.trans (ih handled.balanced handled.channels ended)

end Restores

/-- When exit processing ends after a run without copies and moves, every object has the
references it had before, and one report for every client that was ever created was logged,
to the trace `"main"` and nowhere else. -/
theorem exit_restores (run : (plainSystem flags).Run ops process) {cause : Option Delivery}
    {start last : World} {fuel : Nat} (begins : process.world.beginExit cause = some start)
    (ended : exitLoop fuel start = some last) :
    (∀ object, last.registry.count object = process.world.registry.count object) ∧
      ∃ lines, last.traced = process.world.traced ++ lines ∧
        (∀ line ∈ lines, last.registry.tag? line.object = some ⟨.trace, some mainName⟩) ∧
        lines.map (fun line => (line.level, line.message)) =
          (List.replicate process.world.registry.clients
            (report start.atexitData start.atexitData.backtrace)).flatten := by
  obtain ⟨orderly, refs, balanced⟩ := orderly_of_plain_run run
  obtain ⟨data, rfl⟩ := eq_of_beginExit begins
  let start : World := { process.world with atexitData := data }
  have restored := @restored_exitLoop start refs fuel last balanced orderly.channels ended
  obtain ⟨lines, traced, toMain⟩ := restored.traced
  refine ⟨balanced.count_eq restored.balanced restored.grown, lines, traced, toMain, ?_⟩
  have messages : last.messages = start.messages ++ (List.replicate process.world.registry.clients
      (report data data.backtrace)).flatten := by
    rw [← orderly.registered]
    rcases (@terminates_iff start refs balanced orderly.channels).mp ⟨fuel, by rw [ended]; rfl⟩
      with unregistered | shared
    · obtain rfl := Option.some.inj ((exitLoop_of_unregistered unregistered).symm.trans ended)
      rw [show process.world.atexit = 0 from unregistered]
      simp
    · obtain ⟨other, endedToo, messages⟩ := @exitLoop_of_shared start refs
        (max fuel process.world.atexit) balanced orderly.channels shared (Nat.le_max_right _ _)
      have same := (exitLoop_of_le ended (Nat.le_max_left fuel process.world.atexit)).symm.trans
        endedToo
      obtain rfl := Option.some.inj same
      exact messages
  rw [World.messages, traced, List.map_append] at messages
  exact List.append_cancel_left messages

/-- An invalid access with a log and a second client alive: the handlers of both clients
report it, to the trace `"main"`. -/
theorem exit_restores_segfault :
    ∃ process start last, (plainSystem Flags.Store.default).Run
        [.named .trace (ascii "load") allGranted, .named .client (ascii "other") allGranted]
        process ∧
      process.world.beginExit (some ⟨.sigsegv, ⟨0, 1, 16, 0, 0, 0⟩, 1, ascii "#0 main"⟩) =
        some start ∧
      exitLoop 2 start = some last ∧
      (∀ object, last.registry.count object = process.world.registry.count object) ∧
      ∃ lines, last.traced = process.world.traced ++ lines ∧
        (∀ line ∈ lines, last.registry.tag? line.object = some ⟨.trace, some mainName⟩) ∧
        lines.map (fun line => (line.level, line.message)) = (List.replicate 2
          [(Level.critical, ascii "Segmentation fault!"),
            (.error, ascii "siginfo->si_addr  = 0x10"), (.error, ascii "siginfo->si_errno = 0"),
            (.error, ascii "siginfo->si_code  = 1"),
            (.error, ascii "Backtrace: \n#0 main")]).flatten := by
  suffices run : ∃ process, (plainSystem Flags.Store.default).Run
      [.named .trace (ascii "load") allGranted, .named .client (ascii "other") allGranted]
      process ∧ process.world.registry.clients = 2 ∧ ∃ start,
        process.world.beginExit (some ⟨.sigsegv, ⟨0, 1, 16, 0, 0, 0⟩, 1, ascii "#0 main"⟩) =
          some start ∧ (exitLoop 2 start).isSome ∧
        report start.atexitData start.atexitData.backtrace =
          [(Level.critical, ascii "Segmentation fault!"),
            (.error, ascii "siginfo->si_addr  = 0x10"), (.error, ascii "siginfo->si_errno = 0"),
            (.error, ascii "siginfo->si_code  = 1"),
            (.error, ascii "Backtrace: \n#0 main")] by
    obtain ⟨process, run, two, start, begins, ends, reported⟩ := run
    obtain ⟨last, ended⟩ := Option.isSome_iff_exists.mp ends
    have restored := exit_restores run begins ended
    rw [two, reported] at restored
    exact ⟨process, start, last, run, begins, ended, restored⟩
  refine ⟨_, (System.Run.initial rfl).append ⟨_, ⟨rfl, ?_, rfl⟩, _, ⟨rfl, ?_, rfl⟩, rfl⟩, ?_, _,
    if_pos ?_, ?_, ?_⟩
  all_goals decide +kernel

end LoggerV2
