import LoggerV2.Telemetry.Denotation
import LoggerV2.Handles.Safety

/-!
# How long channel handles live

A `TelemetryChannelHandle` keeps the address of a `Telemetry`, which counts no reference
for it. Here programs copy and drop channel handles and use handles of every class, with
their copies, moves and destructors. `Outlived` is the exact condition on a step under
which every channel handle stays usable.
-/

namespace LoggerV2

open Verification Verification.RefCount

/-- What a program does with handles of all classes and with channel handles. -/
inductive LifetimeOp where
  | handles (op : Op)
  | counters (op : CounterOp)
  | copyChannel (source : Nat)
  | assignChannel (target source : Nat)
  | dropChannel (channel : Nat)

/-- The `Telemetry` whose member function is called. -/
def CounterOp.telemetry? : CounterOp → Option Nat
  | .create this _ _ _ | .find this _ _ | .addTelemetry this _ _ _ => some this
  | _ => none

namespace LifetimeOp

/-- The handles that an operation is given exist, and are of its kind. -/
def Valid (counters : Counters) : LifetimeOp → Prop
  | .handles op => counters.process.Valid op
  | .counters op =>
    counters.Valid op ∧ ∀ this ∈ op.telemetry?,
      ∃ handle ∈ counters.process.handle? this, handle.kind = .telemetry
  | .copyChannel channel | .dropChannel channel => (counters.channels[channel]?).isSome
  | .assignChannel target source =>
    (counters.channels[target]?).isSome ∧ (counters.channels[source]?).isSome

def apply (counters : Counters) : LifetimeOp → Counters
  | .handles op => { counters with process := counters.process.apply op }
  | .counters op => counters.apply op
  | .copyChannel source =>
    { counters with channels := counters.channels ++ counters.channels[source]?.toList }
  | .assignChannel target source =>
    { counters with
      channels := counters.channels[source]?.elim counters.channels (counters.channels.set target) }
  | .dropChannel channel => { counters with channels := counters.channels.eraseIdx channel }

/-- Copies and moves of handles that count find a reference to spare. -/
def Guarded (counters : Counters) : LifetimeOp → Prop
  | .handles op => LoggerV2.Guarded counters.process op
  | _ => True

instance (counters : Counters) : (op : LifetimeOp) → Decidable (op.Valid counters)
  | .handles op => inferInstanceAs (Decidable (counters.process.Valid op))
  | .counters op =>
    inferInstanceAs (Decidable (counters.Valid op ∧ ∀ this ∈ op.telemetry?,
      ∃ handle ∈ counters.process.handle? this, handle.kind = .telemetry))
  | .copyChannel channel | .dropChannel channel =>
    inferInstanceAs (Decidable ((counters.channels[channel]?).isSome = true))
  | .assignChannel _ _ => inferInstanceAs (Decidable (_ ∧ _))

instance (counters : Counters) : (op : LifetimeOp) → Decidable (op.Guarded counters)
  | .handles op => inferInstanceAs (Decidable (LoggerV2.Guarded counters.process op))
  | .counters _ | .copyChannel _ | .assignChannel _ _ | .dropChannel _ => isTrue trivial

end LifetimeOp

/-- Runs of operations on handles of every class and on channel handles. -/
def lifetimeSystem (flags : Flags.Store) : System Counters LifetimeOp where
  Initial counters := counters = Counters.initial flags
  Step counters op next := (op.Guarded counters ∧ op.Valid counters) ∧ next = op.apply counters

/-- Every channel handle leads through its `Telemetry` to the counter it was obtained for,
on an object that is alive and whose client is alive; every sample went there. -/
structure Usable (counters : Counters) : Prop where
  denoting : Denoting counters
  alive : ∀ channel ∈ counters.channels,
    ∃ cell, counters.process.world.registry.cells[channel.origin.object]? = some cell ∧
      0 < cell.count ∧ ∀ client ∈ cell.holds, 0 < counters.process.world.registry.count client

/-- The `Telemetry` at the address may be given this pointer: it has it already, or no
channel handle came from it. -/
def Spares (counters : Counters) (address : Nat) (pointer : Option Nat) : Prop :=
  pointer = counters.process.object? address ∨
    ∀ channel ∈ counters.channels, channel.handle.telemetry ≠ some address

/-- A `Telemetry` is destroyed or assigned to only if no channel handle came from it or its
pointer stays. -/
def Outlived (counters : Counters) : LifetimeOp → Prop
  | .handles (.destroy index) => Spares counters index none
  | .handles (.copyAssign target source) | .handles (.moveAssign target source) =>
    Spares counters target (counters.process.object? source)
  | .handles (.swap first second) => Undisturbed counters (.swapTelemetry first second)
  | .counters op => Undisturbed counters op
  | _ => True

instance (counters : Counters) (address : Nat) (pointer : Option Nat) :
    Decidable (Spares counters address pointer) :=
  inferInstanceAs (Decidable (_ ∨ ∀ channel ∈ counters.channels, _ ≠ some address))

instance (counters : Counters) : (op : CounterOp) → Decidable (Undisturbed counters op)
  | .swapTelemetry _ _ =>
    inferInstanceAs (Decidable (_ ∨ ∀ channel ∈ counters.channels, _ ∧ _))
  | .addTelemetry _ channel _ _ =>
    inferInstanceAs (Decidable (∀ given ∈ counters.channels[channel]?, _ = _))
  | .construct _ _ | .create _ _ _ _ | .find _ _ _ | .swapHandles _ _ | .addHandle _ _ _ =>
    isTrue trivial

instance (counters : Counters) : (op : LifetimeOp) → Decidable (Outlived counters op)
  | .handles (.destroy index) => inferInstanceAs (Decidable (Spares counters index none))
  | .handles (.copyAssign target source) | .handles (.moveAssign target source) =>
    inferInstanceAs (Decidable (Spares counters target (counters.process.object? source)))
  | .handles (.swap first second) =>
    inferInstanceAs (Decidable (Undisturbed counters (.swapTelemetry first second)))
  | .counters op => inferInstanceAs (Decidable (Undisturbed counters op))
  | .handles (.default _) | .handles (.named _ _ _) | .handles (.copyConstruct _)
  | .handles (.moveConstruct _) | .copyChannel _ | .assignChannel _ _ | .dropChannel _ =>
    isTrue trivial

section Objects

variable {process : Process} {index object : Nat}

/-- A new handle leaves the others where they are. -/
theorem object?_add (handle : Handle) (found : process.object? index = some object) :
    (process.add handle).object? index = some object := by
  have before : index ≠ process.handles.length := by
    rintro rfl
    simp [Process.object?, Process.handle?] at found
  rw [Process.object?, handle?_add, if_neg before]
  exact found

/-- Only the slot's own object changes. -/
theorem object?_put {old : Handle} (found : process.handle? index = some old)
    (slot : Option Handle) (other : Nat) :
    (process.put index slot).object? other =
      if other = index then slot.bind Handle.pointer else process.object? other := by
  rw [Process.object?, handle?_put found]
  split_ifs <;> rfl

/-- A destroyed handle has no object. -/
theorem object?_destroy (valid : process.Valid (.destroy index)) (other : Nat) :
    (process.apply (.destroy index)).object? other =
      if other = index then none else process.object? other := by
  obtain ⟨handle, found⟩ := Option.isSome_iff_exists.mp valid
  rw [Process.apply, found]
  exact object?_put found none other

/-- The target has the object of the source. -/
theorem object?_assign {target source : Nat} (valid : process.Valid (.copyAssign target source))
    (other : Nat) :
    (process.assign target source).object? other =
      if other = target then process.object? source else process.object? other := by
  obtain ⟨old, foundTarget, new, foundSource, -⟩ := valid
  rw [Process.assign, foundTarget, foundSource]
  dsimp only
  rw [object?_put foundTarget, Option.bind_some, Process.object?.eq_def process source, foundSource,
    Option.bind_some]

/-- What a live handle points at is alive, and so is the object that this one holds. -/
theorem Safe.alive (safe : Safe process) (found : process.object? index = some object) :
    ∃ cell, process.world.registry.cells[object]? = some cell ∧ 0 < cell.count ∧
      ∀ held ∈ cell.holds, 0 < process.world.registry.count held := by
  obtain ⟨handle, isHandle, points⟩ := Option.bind_eq_some_iff.mp found
  obtain ⟨refs, balanced, covered⟩ := safe
  rw [Process.handle?, Option.join_eq_some_iff] at isHandle
  have handled : 0 < process.liveHandles object :=
    List.countP_pos_iff.mpr ⟨_, List.mem_of_getElem? isHandle, by simp [points]⟩
  have member : object ∈ refs := List.count_pos_iff.mp (handled.trans_le (covered object))
  obtain ⟨cell, isCell⟩ := exists_cell (balanced.alive_of_mem member)
  have alive := balanced.alive_of_mem member
  rw [count_of_found isCell] at alive
  exact ⟨cell, isCell, alive, fun held holds => balanced.alive_of_held isCell alive holds⟩

end Objects

variable {counters : Counters} {process : Process}

/-- Where the guarded copies keep the counts right, handles that denote are usable. -/
theorem usable_iff (safe : Safe counters.process) : Usable counters ↔ Denoting counters := by
  refine ⟨Usable.denoting, fun denoting => ⟨denoting, fun channel member => ?_⟩⟩
  obtain ⟨leads, -⟩ := denotes_eq_some_iff.mp (denoting.handles channel member)
  obtain ⟨address, -, found⟩ := Option.bind_eq_some_iff.mp leads
  exact safe.alive found

/-- The handles go on as they are, whatever else happens to the process. -/
theorem Denoting.keep (denoting : Denoting counters)
    (kept : ∀ index object, counters.process.object? index = some object →
      process.object? index = some object) : Denoting { counters with process := process } := by
  refine ⟨fun channel member => ?_, denoting.samples⟩
  obtain ⟨leads, id⟩ := denotes_eq_some_iff.mp (denoting.handles channel member)
  obtain ⟨address, isAddress, found⟩ := Option.bind_eq_some_iff.mp leads
  exact denotes_eq_some_iff.mpr
    ⟨Option.bind_eq_some_iff.mpr ⟨address, isAddress, kept address _ found⟩, id⟩

/-- One `Telemetry` is given another pointer, or is destroyed. -/
theorem Denoting.replace_iff (denoting : Denoting counters) {address : Nat} {pointer : Option Nat}
    (replaced : ∀ other, process.object? other =
      if other = address then pointer else counters.process.object? other) :
    Spares counters address pointer ↔ Denoting { counters with process := process } := by
  constructor
  · rintro (same | unused)
    · refine denoting.keep fun index object found => ?_
      rw [replaced]
      split_ifs with here
      · rw [same, ← here, found]
      · exact found
    · refine ⟨fun channel member => ?_, denoting.samples⟩
      obtain ⟨leads, id⟩ := denotes_eq_some_iff.mp (denoting.handles channel member)
      obtain ⟨other, isOther, found⟩ := Option.bind_eq_some_iff.mp leads
      have elsewhere : other ≠ address := by
        rintro rfl
        exact unused channel member isOther
      refine denotes_eq_some_iff.mpr ⟨Option.bind_eq_some_iff.mpr ⟨other, isOther, ?_⟩, id⟩
      rw [replaced, if_neg elsewhere, found]
  · intro after
    by_contra spoiled
    obtain ⟨different, used⟩ := not_or.mp spoiled
    refine used fun channel member isAddress => different ?_
    obtain ⟨before, -⟩ := denotes_eq_some_iff.mp (denoting.handles channel member)
    obtain ⟨later, -⟩ := denotes_eq_some_iff.mp (after.handles channel member)
    rw [isAddress, Option.bind_some] at before later
    rw [replaced, if_pos rfl] at later
    exact later.trans before.symm

/-- Copies of channel handles, and fewer of them. -/
theorem Denoting.subset (denoting : Denoting counters) {channels : List Channel}
    (among : ∀ channel ∈ channels, channel ∈ counters.channels) :
    Denoting { counters with channels := channels } :=
  ⟨fun channel member => denoting.handles channel (among channel member), denoting.samples⟩

/-- One step of the handles, from a state in which every channel handle denotes its counter. -/
theorem Denoting.handles_iff (denoting : Denoting counters) {op : Op}
    (valid : counters.process.Valid op) :
    Outlived counters (.handles op) ↔
      Denoting { counters with process := counters.process.apply op } := by
  have duplicate : ∀ source, Denoting { counters with
      process := counters.process.duplicate source } := by
    intro source
    refine denoting.keep fun index object found => ?_
    rw [Process.duplicate]
    split
    · exact found
    · exact object?_add _ found
  cases op with
  | default kind =>
    exact iff_of_true trivial (denoting.keep fun _ _ found => object?_add _ found)
  | named kind name granted =>
    exact iff_of_true trivial (denoting.keep fun _ _ found => object?_named found)
  | copyConstruct source => exact iff_of_true trivial (duplicate source)
  | moveConstruct source => exact iff_of_true trivial (duplicate source)
  | copyAssign target source => exact denoting.replace_iff (object?_assign valid)
  | moveAssign target source =>
    obtain ⟨old, foundTarget, new, foundSource, same, -⟩ := valid
    exact denoting.replace_iff (object?_assign ⟨old, foundTarget, new, foundSource, same⟩)
  | swap first second => exact denoting.swapTelemetry_iff valid
  | destroy index => exact denoting.replace_iff (object?_destroy valid)

/-- One step from a state in which every channel handle denotes its counter. -/
theorem Denoting.lifetime_iff (denoting : Denoting counters) {op : LifetimeOp}
    (valid : op.Valid counters) : Outlived counters op ↔ Denoting (op.apply counters) := by
  cases op with
  | handles op => exact denoting.handles_iff valid
  | counters op => exact denoting.step_iff valid.1
  | copyChannel source =>
    refine iff_of_true trivial (denoting.subset fun channel member => ?_)
    rcases List.mem_append.mp member with old | copied
    · exact old
    · exact List.mem_of_getElem? (Option.mem_toList.mp copied)
  | assignChannel target source =>
    refine iff_of_true trivial (denoting.subset fun channel member => ?_)
    obtain ⟨given, found⟩ := Option.isSome_iff_exists.mp valid.2
    rw [found] at member
    rcases List.mem_or_eq_of_mem_set member with old | rfl
    · exact old
    · exact List.mem_of_getElem? found
  | dropChannel channel =>
    exact iff_of_true trivial (denoting.subset fun _ member => List.mem_of_mem_eraseIdx member)

/-- Operations on channel handles change no count; those on handles are guarded. -/
theorem Safe.lifetime (safe : Safe counters.process) {op : LifetimeOp}
    (guarded : op.Guarded counters) : Safe (op.apply counters).process := by
  have obtained : ∀ object ended, (counters.obtain object ended).process = counters.process := by
    rintro object ⟨_ | _ | _, _⟩ <;> rfl
  cases op with
  | handles op => exact safe.apply guarded
  | copyChannel | assignChannel | dropChannel => exact safe
  | counters op =>
    rw [LifetimeOp.apply]
    cases op with
    | construct name granted => exact safe.named .telemetry name granted
    | swapTelemetry first second => exact @Safe.apply _ safe (.swap first second) trivial
    | create | find =>
      rw [Counters.apply]
      split
      · exact safe
      · exact obtained _ _ ▸ safe
    | swapHandles | addHandle | addTelemetry =>
      rw [Counters.apply]
      split <;> exact safe

/-- The runs in which no channel handle outlives its `Telemetry` are the runs in which, at
every state, each channel handle is usable and each sample went to its counter. -/
theorem outlived_run_iff_usable {flags : Flags.Store} {ops : List LifetimeOp} :
    ((lifetimeSystem flags).restrict Outlived).Run ops counters ↔
      ((lifetimeSystem flags).confine Usable).Run ops counters := by
  refine System.restrict_run_iff_confine (fun counters => Safe counters.process) ?_ ?_ ?_
  · rintro _ rfl
    refine ⟨safe_initial flags, (usable_iff (safe_initial flags)).mpr ⟨?_, rfl⟩⟩
    exact fun _ member => (List.not_mem_nil member).elim
  · rintro state op _ safe ⟨⟨guarded, -⟩, rfl⟩
    exact safe.lifetime guarded
  · rintro state op _ safe usable ⟨⟨guarded, valid⟩, rfl⟩
    rw [usable_iff (safe.lifetime guarded)]
    exact usable.denoting.lifetime_iff valid

/-- A `Telemetry` lends its spare reference to a copy, and the two are swapped and one is
destroyed while a channel handle is out; the other is destroyed once the handle is dropped. -/
theorem outlived_run_iff_usable_lent :
    ∃ counters, ((lifetimeSystem Flags.Store.default).confine Usable).Run
        [.handles (.named .telemetry (ascii "load") allGranted),
          .counters (.create 0 (ascii "cpu") ⟨0, 0, 1, 1, true⟩ acceptingReplies),
          .handles (.copyConstruct 0), .handles (.swap 0 1), .handles (.destroy 1),
          .counters (.addHandle 0 1 acceptingReplies), .dropChannel 0, .handles (.destroy 0)]
        counters ∧
      counters.samples = [⟨⟨1, 1⟩, 1⟩] := by
  suffices run : ∃ counters, ((lifetimeSystem Flags.Store.default).restrict Outlived).Run
      [.handles (.named .telemetry (ascii "load") allGranted),
        .counters (.create 0 (ascii "cpu") ⟨0, 0, 1, 1, true⟩ acceptingReplies),
        .handles (.copyConstruct 0), .handles (.swap 0 1), .handles (.destroy 1),
        .counters (.addHandle 0 1 acceptingReplies), .dropChannel 0, .handles (.destroy 0)]
      counters ∧ counters.samples = [⟨⟨1, 1⟩, 1⟩] by
    obtain ⟨counters, run, samples⟩ := run
    exact ⟨counters, outlived_run_iff_usable.mp run, samples⟩
  refine ⟨_, (System.Run.initial rfl).append ⟨_, ⟨?_, ⟨?_, ?_⟩, rfl⟩, _, ⟨?_, ⟨?_, ?_⟩, rfl⟩, _,
    ⟨?_, ⟨?_, ?_⟩, rfl⟩, _, ⟨?_, ⟨?_, ?_⟩, rfl⟩, _, ⟨?_, ⟨?_, ?_⟩, rfl⟩, _, ⟨?_, ⟨?_, ?_⟩, rfl⟩, _,
    ⟨?_, ⟨?_, ?_⟩, rfl⟩, _, ⟨?_, ⟨?_, ?_⟩, rfl⟩, rfl⟩, ?_⟩
  all_goals decide +kernel

end LoggerV2
