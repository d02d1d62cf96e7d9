import LoggerV2.Handles.Process

/-!
# Telemetry channels

A `TelemetryChannelHandle` keeps the id of a counter and the address of the `Telemetry`
object it came from. Beside the code's own state, `Counters` keeps what the property is
about and no code reads: the pair that each handle was obtained for, and the samples as
they were meant.
-/

namespace LoggerV2

open Verification

/-- A `double`, by its bits; no code here computes with one. -/
abbrev Double := UInt64

/-- What the viewer shows of a counter. -/
structure CounterSettings where
  min : Double
  alarmMin : Double
  max : Double
  alarmMax : Double
  enabled : Bool
deriving DecidableEq, Repr

/-- A P7 telemetry object and one of its counters. -/
structure Counter where
  object : Nat
  id : UInt16
deriving DecidableEq, Repr

/-- A value that P7 was given for a counter. -/
structure Sample where
  counter : Counter
  value : Double
deriving DecidableEq, Repr

/-- The calls of a P7 telemetry object. -/
inductive CounterCall where
  | create (object : Nat) (name : Text) (settings : CounterSettings)
  | find (object : Nat) (name : Text)
  | add (counter : Counter) (value : Double)

/-- `Create` and `Find` reply with the id they store, or fail. -/
@[reducible] def CounterCall.Reply : CounterCall → Type
  | .create _ _ _ => Option UInt16
  | .find _ _ => Option UInt16
  | .add _ _ => Bool

/-- A program that makes such calls. -/
abbrev CounterProgram := Program CounterCall CounterCall.Reply Text

/-- A program that makes one call. -/
def counterCall (request : CounterCall) : CounterProgram request.Reply := Program.perform request

/-- P7 replies as it likes; only `Add` records something. -/
def answerCounter (replies : (call : CounterCall) → call.Reply) :
    (call : CounterCall) → List Sample → call.Reply × List Sample
  | .create object name settings, samples => (replies (.create object name settings), samples)
  | .find object name, samples => (replies (.find object name), samples)
  | .add counter value, samples => (replies (.add counter value), samples ++ [⟨counter, value⟩])

/-- `telemetry` is the address of a `Telemetry`, or null. -/
structure ChannelHandle where
  name : Text
  id : UInt16
  telemetry : Option Nat
deriving DecidableEq, Repr

/-- `TelemetryChannelHandle::swap`, as the two handles afterwards. -/
def ChannelHandle.swap (handle other : ChannelHandle) : ChannelHandle × ChannelHandle :=
  (⟨other.name, other.id, other.telemetry⟩, ⟨handle.name, handle.id, handle.telemetry⟩)

section Members

/-! The members of a `Telemetry` at the address `this`, whose `telemetry_` is `object`. -/

variable (this object : Nat)

def Telemetry.create (name : Text) (settings : CounterSettings) :
    CounterProgram (Option ChannelHandle) := do
  match ← counterCall (.create object (cStr name) settings) with
  | some id => pure (some ⟨name, id, some this⟩)
  | none => pure none

def Telemetry.find (name : Text) : CounterProgram (Option ChannelHandle) := do
  match ← counterCall (.find object (cStr name)) with
  | some id => pure (some ⟨name, id, some this⟩)
  | none => pure none

/-- `Telemetry::Add`. Only the id of the handle counts. -/
def Telemetry.add (handle : ChannelHandle) (value : Double) : CounterProgram Bool :=
  counterCall (.add ⟨object, handle.id⟩ value)

end Members

/-- `TelemetryChannelHandle::Add`; `objects` is the `telemetry_` at each address. -/
def ChannelHandle.add (objects : Nat → Option Nat) (handle : ChannelHandle) (value : Double) :
    CounterProgram Bool :=
  match handle.telemetry.bind objects with
  | some object => Telemetry.add object handle value
  | none => pure false

/-- The pointer of a live handle, unless it is null. -/
def Process.object? (process : Process) (index : Nat) : Option Nat :=
  (process.handle? index).bind Handle.pointer

/-- A channel handle, and the counter it was obtained for. -/
structure Channel where
  handle : ChannelHandle
  origin : Counter
deriving DecidableEq, Repr

/-- `Telemetry` objects, channel handles and the samples P7 was given. -/
structure Counters where
  process : Process
  channels : List Channel
  samples : List Sample
  /-- The samples on the counters that their handles were obtained for. -/
  intended : List Sample

/-- What a program does with telemetry and channel handles, by their numbers. -/
inductive CounterOp where
  | construct (name : Text) (granted : P7Call → Bool)
  | create (this : Nat) (name : Text) (settings : CounterSettings)
      (replies : (call : CounterCall) → call.Reply)
  | find (this : Nat) (name : Text) (replies : (call : CounterCall) → call.Reply)
  | swapTelemetry (first second : Nat)
  | swapHandles (first second : Nat)
  | addHandle (channel : Nat) (value : Double) (replies : (call : CounterCall) → call.Reply)
  | addTelemetry (this channel : Nat) (value : Double)
      (replies : (call : CounterCall) → call.Reply)

namespace Counters

def initial (flags : Flags.Store) : Counters := ⟨.initial flags, [], [], []⟩

/-- The objects that an operation is given exist. -/
def Valid (counters : Counters) : CounterOp → Prop
  | .construct _ _ => True
  | .create this _ _ _ | .find this _ _ => (counters.process.object? this).isSome
  | .swapTelemetry first second => counters.process.Valid (.swap first second)
  | .swapHandles first second =>
    (counters.channels[first]?).isSome ∧ (counters.channels[second]?).isSome
  | .addHandle channel _ _ => (counters.channels[channel]?).isSome
  | .addTelemetry this channel _ _ =>
    (counters.process.object? this).isSome ∧ (counters.channels[channel]?).isSome

instance (counters : Counters) : (op : CounterOp) → Decidable (counters.Valid op)
  | .construct _ _ => isTrue trivial
  | .create this _ _ _ | .find this _ _ =>
    inferInstanceAs (Decidable ((counters.process.object? this).isSome = true))
  | .swapTelemetry first second =>
    inferInstanceAs (Decidable (counters.process.Valid (.swap first second)))
  | .swapHandles _ _ | .addTelemetry _ _ _ _ => inferInstanceAs (Decidable (_ ∧ _))
  | .addHandle channel _ _ =>
    inferInstanceAs (Decidable ((counters.channels[channel]?).isSome = true))

/-- Keep the handle that `Create` or `Find` returned. -/
def obtain (counters : Counters) (object : Nat) :
    Except Text (Option ChannelHandle) × List Sample → Counters
  | (.ok (some handle), samples) =>
    { counters with
      samples
      channels := counters.channels ++ [⟨handle, ⟨object, handle.id⟩⟩] }
  | (_, samples) => { counters with samples }

/-- A value was added through the channel. -/
def add (counters : Counters) (channel : Channel) (value : Double)
    (ended : Except Text Bool × List Sample) : Counters :=
  { counters with
    samples := ended.2
    intended := counters.intended ++ [⟨channel.origin, value⟩] }

def apply (counters : Counters) : CounterOp → Counters
  | .construct name granted =>
    { counters with process := counters.process.apply (.named .telemetry name granted) }
  | .create this name settings replies =>
    match counters.process.object? this with
    | none => counters
    | some object =>
      counters.obtain object
        ((Telemetry.create this object name settings).run (answerCounter replies) counters.samples)
  | .find this name replies =>
    match counters.process.object? this with
    | none => counters
    | some object =>
      counters.obtain object
        ((Telemetry.find this object name).run (answerCounter replies) counters.samples)
  | .swapTelemetry first second =>
    { counters with process := counters.process.apply (.swap first second) }
  | .swapHandles first second =>
    match counters.channels[first]?, counters.channels[second]? with
    | some one, some two =>
      let swapped := one.handle.swap two.handle
      { counters with
        channels :=
          (counters.channels.set first ⟨swapped.1, two.origin⟩).set second
            ⟨swapped.2, one.origin⟩ }
    | _, _ => counters
  | .addHandle channel value replies =>
    match counters.channels[channel]? with
    | none => counters
    | some channel =>
      counters.add channel value
        ((channel.handle.add counters.process.object? value).run (answerCounter replies)
          counters.samples)
  | .addTelemetry this channel value replies =>
    match counters.process.object? this, counters.channels[channel]? with
    | some object, some channel =>
      counters.add channel value
        ((Telemetry.add object channel.handle value).run (answerCounter replies) counters.samples)
    | _, _ => counters

end Counters

/-- Runs of operations on `Telemetry` objects and channel handles. -/
def counterSystem (flags : Flags.Store) : System Counters CounterOp where
  Initial counters := counters = Counters.initial flags
  Step counters op next := counters.Valid op ∧ next = counters.apply op

section Objects

variable {process : Process} {index : Nat}

/-- A constructor by name changes no handle that exists. -/
theorem object?_named {kind : Kind} {name : Text} {granted : P7Call → Bool} {object : Nat}
    (found : process.object? index = some object) :
    (process.apply (.named kind name granted)).object? index = some object := by
  obtain ⟨handle, isHandle, pointer⟩ := Option.bind_eq_some_iff.mp found
  have before : index ≠ process.handles.length := by
    rintro rfl
    simp [Process.handle?] at isHandle
  have still : ∀ (world : World) (fresh : Handle),
      ({ process with world := world }.add fresh).object? index = some object := by
    intro world fresh
    rw [Process.object?, handle?_add, if_neg before]
    exact found
  rw [Process.apply]
  split
  · exact still _ _
  · exact found

/-- `swap` exchanges what two addresses hold. -/
theorem object?_swap {first second : Nat} (valid : process.Valid (.swap first second)) :
    (process.apply (.swap first second)).object? index =
      if index = second then process.object? first
      else if index = first then process.object? second else process.object? index := by
  obtain ⟨one, foundFirst, two, foundSecond, -⟩ := valid
  have here : process.object? first = one.pointer := by
    rw [Process.object?, foundFirst, Option.bind_some]
  have there : process.object? second = two.pointer := by
    rw [Process.object?, foundSecond, Option.bind_some]
  rw [Process.apply, foundFirst, foundSecond, here, there]
  dsimp only
  obtain ⟨handle, still, -⟩ := exists_handle?_put foundFirst foundSecond
  rw [Process.object?, handle?_put still, handle?_put foundFirst]
  split_ifs
  · rfl
  · rfl
  · rfl

end Objects

end LoggerV2
