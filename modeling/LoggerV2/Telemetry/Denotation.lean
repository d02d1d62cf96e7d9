import LoggerV2.Telemetry.Channels

/-!
# Where samples go

A channel handle finds its P7 object through the address of a `Telemetry`, so `swap` of two
`Telemetry` objects can send its samples elsewhere, and `Telemetry::Add` never looks where
the handle came from. `Undisturbed` is the exact condition on a step under which every
handle keeps denoting its counter.
-/

namespace LoggerV2

open Verification

/-- The counter a handle leads to, given the `telemetry_` at each address. -/
def ChannelHandle.denotes (objects : Nat → Option Nat) (handle : ChannelHandle) :
    Option Counter :=
  (handle.telemetry.bind objects).map fun object => ⟨object, handle.id⟩

/-- Every handle leads to the counter it was obtained for, and every sample went to the
counter of its handle. -/
structure Denoting (counters : Counters) : Prop where
  handles : ∀ channel ∈ counters.channels,
    channel.handle.denotes counters.process.object? = some channel.origin
  samples : counters.samples = counters.intended

/-- Two `Telemetry` objects are swapped only if they have one P7 object, or no handle came
from either; a sample is given only to the P7 object of the handle's `Telemetry`. -/
def Undisturbed (counters : Counters) : CounterOp → Prop
  | .swapTelemetry first second =>
    counters.process.object? first = counters.process.object? second ∨
      ∀ channel ∈ counters.channels,
        channel.handle.telemetry ≠ some first ∧ channel.handle.telemetry ≠ some second
  | .addTelemetry this channel _ _ =>
    ∀ given ∈ counters.channels[channel]?,
      given.handle.telemetry.bind counters.process.object? = counters.process.object? this
  | _ => True

variable {counters : Counters}

/-- A handle that denotes a counter leads to its object, and has its id. -/
theorem denotes_eq_some_iff {objects : Nat → Option Nat} {handle : ChannelHandle}
    {counter : Counter} :
    handle.denotes objects = some counter ↔
      handle.telemetry.bind objects = some counter.object ∧ handle.id = counter.id := by
  rw [ChannelHandle.denotes, Option.map_eq_some_iff]
  constructor
  · rintro ⟨object, leads, rfl⟩
    exact ⟨leads, rfl⟩
  · rintro ⟨leads, id⟩
    exact ⟨counter.object, leads, by rw [id]⟩

/-- `Create` and `Find` return handles to the counter that P7 found. -/
theorem Denoting.obtain (denoting : Denoting counters) {this object : Nat}
    (found : counters.process.object? this = some object) {reply : Option UInt16} {name : Text} :
    Denoting (counters.obtain object
      (.ok (reply.map fun id => ⟨name, id, some this⟩), counters.samples)) := by
  cases reply with
  | none => exact ⟨denoting.handles, denoting.samples⟩
  | some id =>
    refine ⟨fun channel member => ?_, denoting.samples⟩
    rcases List.mem_append.mp member with old | new
    · exact denoting.handles channel old
    · obtain rfl := List.mem_singleton.mp new
      exact denotes_eq_some_iff.mpr ⟨found, rfl⟩

/-- What `Create` and `Find` do when P7 replies. -/
theorem run_create {this object : Nat} {name : Text} {settings : CounterSettings}
    {replies : (call : CounterCall) → call.Reply} (samples : List Sample) :
    (Telemetry.create this object name settings).run (answerCounter replies) samples =
      (.ok ((replies (.create object (cStr name) settings)).map
        fun id => ⟨name, id, some this⟩), samples) := by
  rw [Telemetry.create, counterCall, Program.run_perform_bind, answerCounter]
  dsimp only
  cases replies (.create object (cStr name) settings) <;> rfl

/-- `Find` returns a handle that comes from the `Telemetry` it was called on. -/
theorem run_find {this object : Nat} {name : Text}
    {replies : (call : CounterCall) → call.Reply} (samples : List Sample) :
    (Telemetry.find this object name).run (answerCounter replies) samples =
      (.ok ((replies (.find object (cStr name))).map fun id => ⟨name, id, some this⟩),
        samples) := by
  rw [Telemetry.find, counterCall, Program.run_perform_bind, answerCounter]
  dsimp only
  cases replies (.find object (cStr name)) <;> rfl

/-- A `Telemetry` construction leaves every handle's object where it was. -/
theorem Denoting.construct (denoting : Denoting counters) (name : Text)
    (granted : P7Call → Bool) : Denoting (counters.apply (.construct name granted)) := by
  refine ⟨fun channel member => ?_, denoting.samples⟩
  obtain ⟨leads, id⟩ := denotes_eq_some_iff.mp (denoting.handles channel member)
  obtain ⟨address, isAddress, found⟩ := Option.bind_eq_some_iff.mp leads
  refine denotes_eq_some_iff.mpr ⟨?_, id⟩
  exact Option.bind_eq_some_iff.mpr ⟨address, isAddress, object?_named found⟩

/-- `swap` of two handles moves each with the counter it was obtained for. -/
theorem Denoting.swapHandles (denoting : Denoting counters) (first second : Nat) :
    Denoting (counters.apply (.swapHandles first second)) := by
  rw [Counters.apply]
  cases foundFirst : counters.channels[first]? with
  | none => exact denoting
  | some one =>
    cases foundSecond : counters.channels[second]? with
    | none => exact denoting
    | some two =>
      refine ⟨fun channel member => ?_, denoting.samples⟩
      rcases List.mem_or_eq_of_mem_set member with member | rfl
      · rcases List.mem_or_eq_of_mem_set member with member | rfl
        · exact denoting.handles channel member
        · exact denoting.handles two (List.mem_of_getElem? foundSecond)
      · exact denoting.handles one (List.mem_of_getElem? foundFirst)

/-- `TelemetryChannelHandle::Add` records on the counter that the handle denotes. -/
theorem Denoting.addHandle (denoting : Denoting counters) (channel : Nat) (value : Double)
    (replies : (call : CounterCall) → call.Reply) :
    Denoting (counters.apply (.addHandle channel value replies)) := by
  rw [Counters.apply]
  cases found : counters.channels[channel]? with
  | none => exact denoting
  | some given =>
    obtain ⟨leads, id⟩ :=
      denotes_eq_some_iff.mp (denoting.handles given (List.mem_of_getElem? found))
    refine ⟨denoting.handles, ?_⟩
    change ((given.handle.add counters.process.object? value).run (answerCounter replies)
      counters.samples).2 = counters.intended ++ [⟨given.origin, value⟩]
    rw [ChannelHandle.add, leads, ← denoting.samples]
    dsimp only
    rw [Telemetry.add, counterCall, id]
    rfl

/-- `Telemetry::Add` records on the handle's counter exactly if it is given a handle of its
own P7 object. -/
theorem Denoting.addTelemetry_iff (denoting : Denoting counters) {this channel : Nat}
    {value : Double} {replies : (call : CounterCall) → call.Reply}
    (valid : counters.Valid (.addTelemetry this channel value replies)) :
    Undisturbed counters (.addTelemetry this channel value replies) ↔
      Denoting (counters.apply (.addTelemetry this channel value replies)) := by
  obtain ⟨object, found⟩ := Option.isSome_iff_exists.mp valid.1
  obtain ⟨given, isGiven⟩ := Option.isSome_iff_exists.mp valid.2
  obtain ⟨leads, id⟩ :=
    denotes_eq_some_iff.mp (denoting.handles given (List.mem_of_getElem? isGiven))
  have undisturbed : Undisturbed counters (.addTelemetry this channel value replies) ↔
      given.origin.object = object := by
    simp [Undisturbed, isGiven, leads, found]
  rw [undisturbed, Counters.apply, found, isGiven]
  constructor
  · rintro rfl
    refine ⟨denoting.handles, ?_⟩
    change counters.samples ++ [⟨⟨given.origin.object, given.handle.id⟩, value⟩] =
      counters.intended ++ [⟨given.origin, value⟩]
    rw [denoting.samples, id]
  · intro after
    have same : counters.samples ++ [⟨⟨object, given.handle.id⟩, value⟩] =
        counters.intended ++ [⟨given.origin, value⟩] := after.samples
    rw [denoting.samples] at same
    have last := List.append_cancel_left same
    simp only [List.cons.injEq, Sample.mk.injEq, and_true] at last
    rw [← last]

/-- `swap` of two `Telemetry` objects is harmless exactly if they have one P7 object, or no
handle came from either. -/
theorem Denoting.swapTelemetry_iff (denoting : Denoting counters) {first second : Nat}
    (valid : counters.Valid (.swapTelemetry first second)) :
    Undisturbed counters (.swapTelemetry first second) ↔
      Denoting (counters.apply (.swapTelemetry first second)) := by
  have swapped := fun index => @object?_swap counters.process index first second valid
  constructor
  · intro undisturbed
    refine ⟨fun channel member => ?_, denoting.samples⟩
    obtain ⟨leads, id⟩ := denotes_eq_some_iff.mp (denoting.handles channel member)
    obtain ⟨address, isAddress, found⟩ := Option.bind_eq_some_iff.mp leads
    refine denotes_eq_some_iff.mpr ⟨Option.bind_eq_some_iff.mpr ⟨address, isAddress, ?_⟩, id⟩
    refine (swapped address).trans ?_
    rcases undisturbed with same | unused
    · split_ifs with isSecond isFirst
      · rw [same, ← isSecond, found]
      · rw [← same, ← isFirst, found]
      · exact found
    · obtain ⟨notFirst, notSecond⟩ := unused channel member
      have elsewhere : address ≠ second ∧ address ≠ first := by
        constructor <;> rintro rfl
        · exact notSecond isAddress
        · exact notFirst isAddress
      rw [if_neg elsewhere.1, if_neg elsewhere.2, found]
  · intro after
    by_contra disturbed
    obtain ⟨different, used⟩ := not_or.mp disturbed
    refine used fun channel member => ?_
    obtain ⟨before, -⟩ := denotes_eq_some_iff.mp (denoting.handles channel member)
    obtain ⟨later, -⟩ := denotes_eq_some_iff.mp (after.handles channel member)
    constructor
    · intro isAddress
      rw [isAddress, Option.bind_some] at before later
      have moved := (swapped first).symm.trans later
      rw [if_pos rfl] at moved
      split_ifs at moved with same
      · exact different (by rw [same])
      · exact different (before.trans moved.symm)
    · intro isAddress
      rw [isAddress, Option.bind_some] at before later
      have moved := (swapped second).symm.trans later
      rw [if_pos rfl] at moved
      exact different (moved.trans before.symm)

/-- One step from a state in which every handle denotes its counter. -/
theorem Denoting.step_iff (denoting : Denoting counters) {op : CounterOp}
    (valid : counters.Valid op) : Undisturbed counters op ↔ Denoting (counters.apply op) := by
  cases op with
  | construct name granted => exact iff_of_true trivial (denoting.construct name granted)
  | create this name settings replies =>
    obtain ⟨object, found⟩ := Option.isSome_iff_exists.mp valid
    refine iff_of_true trivial ?_
    rw [Counters.apply, found]
    dsimp only
    rw [run_create]
    exact denoting.obtain found
  | find this name replies =>
    obtain ⟨object, found⟩ := Option.isSome_iff_exists.mp valid
    refine iff_of_true trivial ?_
    rw [Counters.apply, found]
    dsimp only
    rw [run_find]
    exact denoting.obtain found
  | swapTelemetry first second => exact denoting.swapTelemetry_iff valid
  | swapHandles first second => exact iff_of_true trivial (denoting.swapHandles first second)
  | addHandle channel value replies =>
    exact iff_of_true trivial (denoting.addHandle channel value replies)
  | addTelemetry this channel value replies => exact denoting.addTelemetry_iff valid

/-- The runs whose steps all meet the condition are the runs in which, at every state, each
handle denotes the counter it was obtained for and each sample went there. -/
theorem undisturbed_run_iff_denoting {flags : Flags.Store} {ops : List CounterOp} :
    ((counterSystem flags).restrict Undisturbed).Run ops counters ↔
      ((counterSystem flags).confine Denoting).Run ops counters := by
  refine System.restrict_run_iff_confine (fun _ => True) ?_ ?_ ?_
  · rintro _ rfl
    exact ⟨trivial, ⟨fun _ member => (List.not_mem_nil member).elim, rfl⟩⟩
  · exact fun _ _ _ _ _ => trivial
  · rintro state op _ - denoting ⟨valid, rfl⟩
    exact denoting.step_iff valid

/-- P7 replies of a telemetry object that accepts everything. -/
def acceptingReplies : (call : CounterCall) → call.Reply
  | .create _ _ _ => some 1
  | .find _ _ => some 1
  | .add _ _ => true

/-- After a swap of the two `Telemetry` objects, a handle of the first adds to the other. -/
theorem swap_misdirects :
    ∃ counters, (counterSystem Flags.Store.default).Run
        [.construct (ascii "load") allGranted, .construct (ascii "heat") allGranted,
          .create 0 (ascii "cpu") ⟨0, 0, 1, 1, true⟩ acceptingReplies, .swapTelemetry 0 1,
          .addHandle 0 1 acceptingReplies] counters ∧
      ¬ Denoting counters ∧ counters.samples ≠ counters.intended := by
  suffices run : ∃ counters, (counterSystem Flags.Store.default).Run
      [.construct (ascii "load") allGranted, .construct (ascii "heat") allGranted,
        .create 0 (ascii "cpu") ⟨0, 0, 1, 1, true⟩ acceptingReplies, .swapTelemetry 0 1,
        .addHandle 0 1 acceptingReplies] counters ∧ counters.samples ≠ counters.intended by
    obtain ⟨counters, run, different⟩ := run
    exact ⟨counters, run, fun denoting => different denoting.samples, different⟩
  refine ⟨_, (System.Run.initial rfl).append ⟨_, ⟨?_, rfl⟩, _, ⟨?_, rfl⟩, _, ⟨?_, rfl⟩, _,
    ⟨?_, rfl⟩, _, ⟨?_, rfl⟩, rfl⟩, ?_⟩
  all_goals decide +kernel

end LoggerV2
