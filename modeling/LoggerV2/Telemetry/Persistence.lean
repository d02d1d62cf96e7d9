import LoggerV2.Telemetry.Quiet
import LoggerV2.Handles.Safety

/-!
# Telemetry objects persist

A telemetry object keeps the reference that its constructor adds. In a run without copies
and moves, whose telemetry objects are created and shared when asked for, its count stays
one above the handles at it (`Persisting`), so it is found under its name ever after.
-/

namespace LoggerV2

open Verification Verification.RefCount

/-- Every telemetry object is shared under a name of its own and has, beside its handles,
one reference more. -/
structure Persisting (process : Process) : Prop where
  holds : HoldsOthers process.world.registry
  kinds : ∀ handle, some handle ∈ process.handles → ∀ object ∈ handle.pointer,
    ∃ shared, process.world.registry.tag? object = some ⟨handle.kind, shared⟩
  counts : ∀ object shared, process.world.registry.tag? object = some ⟨.telemetry, shared⟩ →
    shared.isSome ∧ process.world.registry.count object = 1 + process.liveHandles object
  unique : ∀ first second name,
    process.world.registry.tag? first = some ⟨.telemetry, some name⟩ →
    process.world.registry.tag? second = some ⟨.telemetry, some name⟩ → first = second

variable {granted : P7Call → Bool} {process : Process} {object client : Nat}
  {shared : Option Text}

/-- At first there are no telemetry objects. -/
theorem persisting_initial (flags : Flags.Store) : Persisting (Process.initial flags) := by
  have empty : ∀ object, (World.initial flags).registry.tag? object = none := fun _ => rfl
  refine ⟨fun bone member => ?_, fun handle member => ?_, fun object shared found => ?_,
    fun first second name found => ?_⟩
  · cases member
  · cases member
  · cases (empty object).symm.trans found
  · cases (empty first).symm.trans found

/-- Handles point at objects of the registry. -/
theorem Persisting.pointed (persisting : Persisting process) {handle : Handle}
    (member : some handle ∈ process.handles) (points : object ∈ handle.pointer) :
    object < process.world.registry.cells.length := by
  obtain ⟨shared, tag⟩ := persisting.kinds handle member object points
  by_contra beyond
  rw [tag?_of_length_le (Nat.le_of_not_lt beyond)] at tag
  cases tag

/-- No handle points at what was not created. -/
theorem Persisting.liveHandles_eq_zero (persisting : Persisting process)
    (beyond : process.world.registry.cells.length ≤ object) : process.liveHandles object = 0 := by
  refine List.countP_eq_zero.mpr fun slot member points => ?_
  obtain ⟨handle, rfl, points⟩ := (Option.any_eq_true _ _).mp points
  exact Nat.not_lt.mpr beyond (persisting.pointed member (by simpa using points))

/-- A telemetry object is found under its name. -/
theorem Persisting.findShared (persisting : Persisting process) {name : Text}
    (found : process.world.registry.tag? object = some ⟨.telemetry, some name⟩) :
    process.world.registry.findShared .telemetry name = some object := by
  obtain ⟨-, count⟩ := persisting.counts object _ found
  have alive : 0 < process.world.registry.count object := by omega
  obtain ⟨cell, isCell⟩ := exists_cell alive
  rw [count_of_found isCell] at alive
  have tag : cell.tag = ⟨.telemetry, some name⟩ :=
    Option.some.inj ((tag?_eq isCell).symm.trans found)
  have isFound : (process.world.registry.findShared .telemetry name).isSome :=
    findLive_isSome isCell alive (by simp [tag])
  obtain ⟨other, isOther⟩ := Option.isSome_iff_exists.mp isFound
  rw [isOther, persisting.unique other object name (tag?_of_findShared isOther) found]

/-- What happens beside the telemetry objects. -/
theorem Persisting.quiet (persisting : Persisting process) {world : World}
    (quiet : Quiet process.world.registry world.registry) :
    Persisting { process with world := world } := by
  refine ⟨quiet.holds, fun handle member object points => ?_, fun object shared found => ?_,
    fun first second name foundFirst foundSecond => ?_⟩
  · obtain ⟨shared, tag⟩ := persisting.kinds handle member object points
    exact ⟨shared, tag?_grown tag quiet.grown⟩
  · obtain ⟨before, count⟩ := quiet.telemetry object shared found
    obtain ⟨isShared, counted⟩ := persisting.counts object shared before
    exact ⟨isShared, count.trans counted⟩
  · exact persisting.unique first second name (quiet.telemetry _ _ foundFirst).1
      (quiet.telemetry _ _ foundSecond).1

/-- A step that creates no object, by the handles it leaves and how the telemetry objects'
counts move with them. -/
theorem Persisting.of_bones (persisting : Persisting process) {next : Process}
    (bones : next.world.registry.bones = process.world.registry.bones)
    (kinds : ∀ handle, some handle ∈ next.handles → ∀ object ∈ handle.pointer,
      ∃ shared, process.world.registry.tag? object = some ⟨handle.kind, shared⟩)
    (counts : ∀ object shared, process.world.registry.tag? object = some ⟨.telemetry, shared⟩ →
      next.world.registry.count object + process.liveHandles object =
        process.world.registry.count object + next.liveHandles object) :
    Persisting next := by
  have same : ∀ object, next.world.registry.tag? object = process.world.registry.tag? object :=
    fun object => tag?_of_bones bones
  refine ⟨persisting.holds.of_bones bones, fun handle member object points => ?_,
    fun object shared found => ?_, fun first second name foundFirst foundSecond => ?_⟩
  · rw [same]
    exact kinds handle member object points
  · rw [same] at found
    obtain ⟨isShared, counted⟩ := persisting.counts object shared found
    have moved := counts object shared found
    exact ⟨isShared, by omega⟩
  · rw [same] at foundFirst foundSecond
    exact persisting.unique first second name foundFirst foundSecond

/-- One more handle that points at no telemetry object. -/
theorem Persisting.add (persisting : Persisting process) {handle : Handle}
    (tags : ∀ object ∈ handle.pointer, handle.kind ≠ .telemetry ∧
      ∃ shared, process.world.registry.tag? object = some ⟨handle.kind, shared⟩) :
    Persisting (process.add handle) := by
  refine persisting.of_bones rfl (fun other member object points => ?_)
    fun object shared found => ?_
  · rcases List.mem_append.mp member with old | new
    · exact persisting.kinds other old object points
    · obtain rfl := Option.some.inj (List.mem_singleton.mp new)
      exact (tags object points).2
  · have apart : handle.pointer ≠ some object := by
      intro points
      obtain ⟨isOther, tag⟩ := tags object points
      exact OtherKind.ne ⟨_, tag.choose_spec, isOther⟩ found rfl
    rw [liveHandles_add, if_neg apart]
    rfl

/-- One more handle at a telemetry object, with a reference of its own. -/
theorem Persisting.take (persisting : Persisting process) {world : World}
    (tag : process.world.registry.tag? object = some ⟨.telemetry, shared⟩)
    (taken : world.registry = process.world.registry.addRef object) :
    Persisting ({ process with world := world }.add ⟨.telemetry, some object⟩) := by
  have bones : world.registry.bones = process.world.registry.bones := by
    rw [taken, bones_addRef]
  have alive : 0 < process.world.registry.count object := by
    have counted := (persisting.counts object shared tag).2
    omega
  refine persisting.of_bones bones (fun handle member other points => ?_) fun other _ _ => ?_
  · rcases List.mem_append.mp member with old | new
    · exact persisting.kinds handle old other points
    · obtain rfl := Option.some.inj (List.mem_singleton.mp new)
      obtain rfl := Option.some.inj points
      exact ⟨shared, tag⟩
  · have count : world.registry.count other =
        process.world.registry.count other + if other = object then 1 else 0 := by
      rw [taken, count_addRef alive]
    have live : ({ process with world := world } : Process).liveHandles other =
        process.liveHandles other := rfl
    rw [liveHandles_add, live]
    refine (congrArg (· + process.liveHandles other) count).trans ?_
    simp only [Option.some.injEq, eq_comm]
    omega

/-- A new telemetry object, under a name that is not shared, before it has a handle. -/
theorem Persisting.create (persisting : Persisting process) {world : World} {name : Text}
    (absent : process.world.registry.findShared .telemetry name = none)
    (other : OtherKind process.world.registry client)
    (alive : 0 < process.world.registry.count client)
    (created : world.registry =
      process.world.registry.alloc ⟨.telemetry, some name⟩ (some client)) :
    Persisting { process with world := world } := by
  have tags : ∀ object, world.registry.tag? object =
      if object = process.world.registry.cells.length then some ⟨.telemetry, some name⟩
      else process.world.registry.tag? object := by
    intro object
    rw [created, tag?_alloc]
  have holds : HoldsOthers world.registry := by
    rw [created]
    exact persisting.holds.alloc (by simpa using other)
  -- No telemetry object had the name, as it would be found under it.
  have fresh : ∀ object, process.world.registry.tag? object ≠ some ⟨.telemetry, some name⟩ := by
    intro object found
    rw [persisting.findShared found] at absent
    cases absent
  refine ⟨holds, fun handle member object points => ?_, fun object shared found => ?_,
    fun first second shared foundFirst foundSecond => ?_⟩
  · obtain ⟨shared, tag⟩ := persisting.kinds handle member object points
    have older := Nat.ne_of_lt (persisting.pointed member points)
    refine ⟨shared, (tags object).trans ?_⟩
    rw [if_neg older, tag]
  · have counts : world.registry.count object =
        if object = process.world.registry.cells.length then 1
        else process.world.registry.count object + if some client = some object then 1 else 0 := by
      rw [created, count_alloc (by simpa using alive)]
    have found := (tags object).symm.trans found
    by_cases isNew : object = process.world.registry.cells.length
    · rw [if_pos isNew] at counts found
      cases found
      have unpointed := persisting.liveHandles_eq_zero (Nat.le_of_eq isNew.symm)
      exact ⟨rfl, counts.trans (congrArg (1 + ·) unpointed).symm⟩
    · rw [if_neg isNew] at counts found
      obtain ⟨isShared, counted⟩ := persisting.counts object shared found
      have apart : client ≠ object := (other.ne found).symm
      refine ⟨isShared, counts.trans ?_⟩
      rw [counted, if_neg (by simpa using apart)]
      rfl
  · have foundFirst := (tags first).symm.trans foundFirst
    have foundSecond := (tags second).symm.trans foundSecond
    split_ifs at foundFirst foundSecond with isFirst isSecond isSecond
    · rw [isFirst, isSecond]
    · cases foundFirst
      exact absurd foundSecond (fresh second)
    · cases foundSecond
      exact absurd foundFirst (fresh first)
    · exact persisting.unique first second shared foundFirst foundSecond

/-- A handle is destroyed, and with it the reference it had on a telemetry object. -/
theorem Persisting.drop (persisting : Persisting process) {world : World} {index : Nat}
    {handle : Handle} (isHandle : process.handle? index = some handle)
    (bones : world.registry.bones = process.world.registry.bones)
    (given : ∀ object shared, process.world.registry.tag? object = some ⟨.telemetry, shared⟩ →
      world.registry.count object + (if handle.pointer = some object then 1 else 0) =
        process.world.registry.count object) :
    Persisting ({ process with world := world }.put index none) := by
  refine persisting.of_bones bones (fun other member object points => ?_)
    fun object shared found => ?_
  · rcases List.mem_or_eq_of_mem_set member with old | new
    · exact persisting.kinds other old object points
    · cases new
  · have less := given object shared found
    have moved := @liveHandles_put process object index handle isHandle none
    change world.registry.count object + _ = _ + (process.put index none).liveHandles object
    simp only [Option.any_none, Bool.false_eq_true, if_false] at moved
    omega

/-- A live handle has a slot. -/
theorem mem_handles {index : Nat} {handle : Handle} (found : process.handle? index = some handle) :
    some handle ∈ process.handles := by
  rw [Process.handle?, Option.join_eq_some_iff] at found
  exact List.mem_of_getElem? found

/-- A destructor takes the reference of its handle and leaves the object's own. -/
theorem Persisting.destroy (persisting : Persisting process) (index : Nat) :
    Persisting (process.apply (.destroy index)) := by
  rw [Process.apply]
  cases found : process.handle? index with
  | none => exact persisting
  | some handle =>
    obtain ⟨kind, pointer⟩ := handle
    cases pointer with
    | none => exact persisting.drop found rfl fun _ _ _ => rfl
    | some object =>
      refine persisting.drop found (bones_release _ _) fun telemetry shared isTelemetry => ?_
      change Heap.count (process.world.registry.release object) telemetry + _ = _
      by_cases here : telemetry = object
      · subst here
        have counted := (persisting.counts telemetry shared isTelemetry).2
        have moved := @liveHandles_put process telemetry index _ found none
        simp only [Option.any_none, Bool.false_eq_true, if_false, if_true] at moved
        rw [count_release (by omega), if_pos rfl, if_pos rfl]
        omega
      · have apart : some object ≠ some telemetry := fun same => here (Option.some.inj same).symm
        rw [count_release_unheld (persisting.holds.unheld isTelemetry) here, if_neg apart]
        rfl

/-- A swap exchanges pointers. -/
theorem Persisting.swap (persisting : Persisting process) {first second : Nat}
    (valid : process.Valid (.swap first second)) :
    Persisting (process.apply (.swap first second)) := by
  have world : (process.apply (.swap first second)).world = process.world := by
    rw [Process.apply]
    split <;> rfl
  refine persisting.of_bones (by rw [world]) (fun handle member object points => ?_)
    fun object shared found => by rw [world, liveHandles_swap]
  obtain ⟨one, foundFirst, two, foundSecond, sameKind, -⟩ := valid
  rw [Process.apply, foundFirst, foundSecond] at member
  rcases List.mem_or_eq_of_mem_set member with member | isSecond
  · rcases List.mem_or_eq_of_mem_set member with old | isFirst
    · exact persisting.kinds handle old object points
    · obtain rfl := Option.some.inj isFirst
      obtain ⟨shared, tag⟩ := persisting.kinds two (mem_handles foundSecond) object points
      exact ⟨shared, by rw [tag, sameKind]⟩
  · obtain rfl := Option.some.inj isSecond
    obtain ⟨shared, tag⟩ := persisting.kinds one (mem_handles foundFirst) object points
    exact ⟨shared, by rw [tag, sameKind]⟩

/-- A constructor by name through what it returns and the registry it leaves. -/
theorem exists_apply_named (process : Process) (kind : Kind) (name : Text)
    (granted : P7Call → Bool) :
    ∃ world : World,
      (outcome ((construct kind name).run (World.answer granted) process.world)).2 =
        world.registry ∧
      process.apply (.named kind name granted) =
        match (outcome ((construct kind name).run (World.answer granted) process.world)).1 with
        | some object => { process with world := world }.add ⟨kind, some object⟩
        | none => { process with world := world } := by
  rw [Process.apply]
  rcases (construct kind name).run (World.answer granted) process.world with ⟨_ | _, world⟩
  · exact ⟨world, rfl, rfl⟩
  · exact ⟨world, rfl, rfl⟩

/-- A constructor by name of a client or a trace. -/
theorem Persisting.named_quiet (persisting : Persisting process) {kind : Kind} {name : Text}
    (isOther : kind ≠ .telemetry)
    (quiet : Quiet process.world.registry
      (outcome ((construct kind name).run (World.answer granted) process.world)).2) :
    Persisting (process.apply (.named kind name granted)) := by
  obtain ⟨world, same, applied⟩ := exists_apply_named process kind name granted
  have tagged := (construct_makes granted process.world kind name).tagged
  rw [same] at quiet tagged
  rw [applied]
  rcases made : (outcome ((construct kind name).run (World.answer granted) process.world)).1
    with _ | object
  · exact persisting.quiet quiet
  · exact (persisting.quiet quiet).add fun other points =>
      ⟨isOther, some (cStr name), tagged other (made ▸ points)⟩

/-- Every call to create or to share a telemetry object is granted. -/
def TelemetryGranted (granted : P7Call → Bool) : Prop :=
  (∀ client name, granted (.createChannel .telemetry client name) = true) ∧
    ∀ object name, granted (.share .telemetry object name) = true

/-- A construction of a telemetry object, found or new. -/
theorem Persisting.named_telemetry (persisting : Persisting process) (name : Text)
    (grants : TelemetryGranted granted) :
    Persisting (process.apply (.named .telemetry name granted)) := by
  obtain ⟨world, same, applied⟩ := exists_apply_named process .telemetry name granted
  have ends := channel_ends granted .telemetry Heap.addRef process.world name
  rw [construct, Telemetry.outcome_construct, Telemetry.outcome] at same applied
  rw [applied]
  generalize channelOutcome granted .telemetry Heap.addRef process.world name = made at same ends
  cases ends with
  | found isFound => exact persisting.take (tag?_of_findShared isFound) same.symm
  | clientless _ main => exact persisting.quiet (same ▸ main.quiet persisting.holds)
  | uncreated _ _ refused =>
    rw [grants.1] at refused
    cases refused
  | unshared _ _ _ refused =>
    rw [grants.2] at refused
    cases refused
  | @shared client middle absent main =>
    -- The local client, the new object, its reference and the handle's, and the client back.
    have hasClient : Persisting { process with world := { world with registry := middle } } :=
      persisting.quiet (main.quiet persisting.holds)
    have hasObject : Persisting { process with world := { world with
        registry := middle.alloc ⟨.telemetry, some (cStr name)⟩ (some client) } } :=
      hasClient.create (main.alive.2 .telemetry (by decide) _ absent) main.other main.alive.1 rfl
    have tag : Registry.tag? (middle.alloc ⟨.telemetry, some (cStr name)⟩ (some client))
        middle.cells.length = some ⟨.telemetry, some (cStr name)⟩ := by
      rw [tag?_alloc, if_pos rfl]
    have hasHandle : Persisting ({ process with world := { world with
        registry := (middle.alloc ⟨.telemetry, some (cStr name)⟩ (some client)).addRef
          middle.cells.length } }.add ⟨.telemetry, some middle.cells.length⟩) :=
      hasObject.take tag rfl
    have grown : middle.bones <+: ((middle.alloc ⟨.telemetry, some (cStr name)⟩
        (some client)).addRef middle.cells.length).bones := by
      simp
    exact hasHandle.quiet (same ▸ .release hasHandle.holds (main.other.grown grown))

/-- The operation is no copy and no move, and is refused no telemetry object. -/
def Uncopied : Op → Prop
  | .default _ | .swap _ _ | .destroy _ => True
  | .named _ _ granted => TelemetryGranted granted
  | .copyConstruct _ | .moveConstruct _ | .copyAssign _ _ | .moveAssign _ _ => False

/-- Runs without copies and moves in which P7 refuses no telemetry object. -/
def uncopiedSystem (flags : Flags.Store) : System Process Op :=
  (handleSystem flags).restrict fun _ op => Uncopied op

/-- Every operation but copies and moves. -/
theorem Persisting.step {flags : Flags.Store} {op : Op} {last : Process}
    (persisting : Persisting process) (step : (uncopiedSystem flags).Step process op last) :
    Persisting last := by
  obtain ⟨uncopied, valid, rfl⟩ := step
  cases op with
  | default kind => exact persisting.add (by simp)
  | named kind name granted =>
    cases kind with
    | client =>
      refine persisting.named_quiet (by decide) ?_
      rw [construct, Client.outcome_construct]
      exact (Client.ends granted _ name).quiet persisting.holds
    | trace =>
      refine persisting.named_quiet (by decide) ?_
      rw [construct, Log.outcome_construct]
      exact (channel_ends granted .trace _ _ name).quiet persisting.holds
    | telemetry => exact persisting.named_telemetry name uncopied
  | swap first second => exact persisting.swap valid
  | destroy index => exact persisting.destroy index
  | copyConstruct | moveConstruct | copyAssign | moveAssign => exact uncopied.elim

/-- Every run without copies and moves. -/
theorem Persisting.of_run {flags : Flags.Store} {ops : List Op}
    (run : (uncopiedSystem flags).Run ops process) : Persisting process := by
  refine run.invariant ?_ ?_
  · rintro _ rfl
    exact persisting_initial flags
  · exact fun _ _ _ persisting step => persisting.step step

/-- No operation changes an object's tag or what it holds. -/
theorem grown_apply (process : Process) (op : Op) :
    process.world.registry.bones <+: (process.apply op).world.registry.bones := by
  cases op with
  | default kind => exact List.prefix_refl _
  | named kind name granted =>
    have grown := (construct_makes granted process.world kind name).grown
    obtain ⟨world, same, applied⟩ := exists_apply_named process kind name granted
    rw [same] at grown
    rw [applied]
    split <;> exact grown
  | copyConstruct source | moveConstruct source =>
    rw [Process.apply, Process.duplicate]
    split <;> exact List.prefix_refl _
  | copyAssign target source | moveAssign target source =>
    rw [Process.apply, Process.assign]
    split <;> exact List.prefix_refl _
  | swap first second =>
    rw [Process.apply]
    split <;> exact List.prefix_refl _
  | destroy index =>
    rw [Process.apply]
    cases process.handle? index with
    | none => exact List.prefix_refl _
    | some handle =>
      obtain ⟨kind, pointer⟩ := handle
      cases pointer with
      | none => exact List.prefix_refl _
      | some object =>
        refine ⟨[], ?_⟩
        rw [List.append_nil]
        exact (bones_release _ object).symm

/-- Whatever `Telemetry(name)` once returned, in a run without copies and moves in which P7
refuses no telemetry object: it is alive ever after, with one reference more than handles,
it is what the constructor returns for the name, and no other object ever had the name. -/
theorem telemetry_persists {flags : Flags.Store} {before after : List Op} {last : Process}
    {name : Text} {world : World} (run : (uncopiedSystem flags).Run before process)
    (grants : TelemetryGranted granted)
    (constructed : (construct .telemetry name).run (World.answer granted) process.world =
      (.ok object, world))
    (goesOn : (uncopiedSystem flags).Performs (process.apply (.named .telemetry name granted))
      after last) :
    last.world.registry.count object = 1 + last.liveHandles object ∧
      (∀ granted again, cStr again = cStr name →
        ((construct .telemetry again).run (World.answer granted) last.world).1 = .ok object) ∧
      ∀ other shared, last.world.registry.tag? other = some ⟨.telemetry, shared⟩ →
        ∃ owned, shared = some owned ∧ (owned = cStr name → other = object) := by
  have step : (uncopiedSystem flags).Step process (.named .telemetry name granted)
      (process.apply (.named .telemetry name granted)) := ⟨grants, trivial, rfl⟩
  have persisting : Persisting last :=
    goesOn.invariant (fun _ _ _ persisting step => persisting.step step)
      ((Persisting.of_run run).step step)
  have tag : last.world.registry.tag? object = some ⟨.telemetry, some (cStr name)⟩ := by
    have returned := (construct_makes granted process.world .telemetry name).tagged
    rw [constructed] at returned
    refine @System.Performs.invariant _ _ _ _ _ (fun state =>
      state.world.registry.tag? object = some ⟨.telemetry, some (cStr name)⟩) _ ?_ ?_ goesOn
    · rintro state op _ found ⟨-, -, rfl⟩
      exact tag?_grown found (grown_apply state op)
    · rw [Process.apply, constructed]
      exact returned object rfl
  refine ⟨(persisting.counts object _ tag).2, fun granted again same => ?_,
    fun other shared found => ?_⟩
  · have found := persisting.findShared tag
    rw [← same] at found
    rw [construct, Telemetry.construct, constructChannel, run_p7_bind, answer_getShared_some found]
    rfl
  · obtain ⟨owned, rfl⟩ := Option.isSome_iff_exists.mp (persisting.counts other shared found).1
    refine ⟨owned, rfl, ?_⟩
    rintro rfl
    exact persisting.unique other object _ found tag

/-- Both handles are swapped and destroyed; the second name still leads to its object. -/
theorem telemetry_persists_unhandled :
    ∃ process last : Process,
      (uncopiedSystem Flags.Store.default).Run [.named .telemetry (ascii "temperature") allGranted]
        process ∧
      (uncopiedSystem Flags.Store.default).Performs
        (process.apply (.named .telemetry (ascii "load") allGranted))
        [.swap 0 1, .destroy 0, .default .telemetry, .destroy 1] last ∧
      last.world.registry.count 2 = 1 + last.liveHandles 2 ∧
      (∀ granted again, cStr again = cStr (ascii "load") →
        ((construct .telemetry again).run (World.answer granted) last.world).1 = .ok 2) ∧
      ∀ other shared, last.world.registry.tag? other = some ⟨.telemetry, shared⟩ →
        ∃ owned, shared = some owned ∧ (owned = cStr (ascii "load") → other = 2) := by
  let process := (Process.initial Flags.Store.default).apply
    (.named .telemetry (ascii "temperature") allGranted)
  have grants : TelemetryGranted allGranted := ⟨fun _ _ => rfl, fun _ _ => rfl⟩
  have run : (uncopiedSystem Flags.Store.default).Run
      [.named .telemetry (ascii "temperature") allGranted] process :=
    (System.Run.initial rfl).step ⟨grants, trivial, rfl⟩
  have constructed := @eq_of_returned _ ((construct .telemetry (ascii "load")).run
    (World.answer allGranted) process.world) 2 (by decide +kernel)
  have goesOn : ∃ last, (uncopiedSystem Flags.Store.default).Performs
      (process.apply (.named .telemetry (ascii "load") allGranted))
      [.swap 0 1, .destroy 0, .default .telemetry, .destroy 1] last := by
    refine ⟨_, _, ⟨trivial, ?_, rfl⟩, _, ⟨trivial, ?_, rfl⟩, _, ⟨trivial, trivial, rfl⟩, _,
      ⟨trivial, ?_, rfl⟩, rfl⟩
    all_goals decide +kernel
  obtain ⟨last, goesOn⟩ := goesOn
  exact ⟨process, last, run, goesOn, telemetry_persists run grants constructed goesOn⟩

end LoggerV2
