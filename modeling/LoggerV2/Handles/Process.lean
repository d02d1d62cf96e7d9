import LoggerV2.Library.System
import LoggerV2.Client.Accounts

/-!
# Processes that use the handle classes

A process holds any number of `Client`, `Log` and `Telemetry` handles. An operation is
one special member function: the constructor by name, which may fail, the defaulted
copies and moves, which copy the pointer, `swap` and the destructor.
-/

namespace LoggerV2

open Verification Verification.RefCount

/-- A `Client`, `Log` or `Telemetry`: a pointer to an object of its kind, or null. -/
structure Handle where
  kind : Kind
  pointer : Option Nat
deriving DecidableEq, Repr

/-- The handles by number; `none` once a handle is destroyed. -/
structure Process where
  world : World
  handles : List (Option Handle)

/-- What a program does with handles, by their numbers. -/
inductive Op where
  | default (kind : Kind)
  | named (kind : Kind) (name : Text) (granted : P7Call → Bool)
  | copyConstruct (source : Nat)
  | moveConstruct (source : Nat)
  | copyAssign (target source : Nat)
  | moveAssign (target source : Nat)
  | swap (first second : Nat)
  | destroy (handle : Nat)

namespace Process

/-- No handles, and nothing created yet. -/
def initial (flags : Flags.Store) : Process := ⟨.initial flags, []⟩

def handle? (process : Process) (index : Nat) : Option Handle := process.handles[index]?.join

/-- A new handle gets the next number. -/
def add (process : Process) (handle : Handle) : Process :=
  { process with handles := process.handles ++ [some handle] }

def put (process : Process) (index : Nat) (slot : Option Handle) : Process :=
  { process with handles := process.handles.set index slot }

/-- How many live handles point at the object. -/
def liveHandles (process : Process) (object : Nat) : Nat :=
  process.handles.countP fun slot => slot.any fun handle => handle.pointer = some object

/-- The operation is declared for the kind of its handles, which are alive. `Log` declares
no moves, `Client` no `swap`. -/
def Valid (process : Process) : Op → Prop
  | .default _ => True
  | .named _ _ _ => True
  | .copyConstruct source => (process.handle? source).isSome
  | .moveConstruct source => ∃ handle ∈ process.handle? source, handle.kind ≠ .trace
  | .copyAssign target source =>
    ∃ old ∈ process.handle? target, ∃ new ∈ process.handle? source, old.kind = new.kind
  | .moveAssign target source =>
    ∃ old ∈ process.handle? target, ∃ new ∈ process.handle? source,
      old.kind = new.kind ∧ old.kind ≠ .trace
  | .swap first second =>
    ∃ one ∈ process.handle? first, ∃ two ∈ process.handle? second,
      one.kind = two.kind ∧ one.kind ≠ .client
  | .destroy handle => (process.handle? handle).isSome

instance (process : Process) : (op : Op) → Decidable (process.Valid op)
  | .default _ | .named _ _ _ => isTrue trivial
  | .copyConstruct source => inferInstanceAs (Decidable ((process.handle? source).isSome))
  | .moveConstruct source =>
    inferInstanceAs (Decidable (∃ handle ∈ process.handle? source, _))
  | .copyAssign target source | .moveAssign target source =>
    inferInstanceAs (Decidable
      (∃ old ∈ process.handle? target, ∃ new ∈ process.handle? source, _))
  | .swap first second =>
    inferInstanceAs (Decidable
      (∃ one ∈ process.handle? first, ∃ two ∈ process.handle? second, _))
  | .destroy handle => inferInstanceAs (Decidable ((process.handle? handle).isSome))

/-- A defaulted constructor copies the pointer, and leaves the source as it is. -/
def duplicate (process : Process) (source : Nat) : Process :=
  match process.handle? source with
  | none => process
  | some handle => process.add handle

/-- A defaulted assignment copies the pointer over the target's. -/
def assign (process : Process) (target source : Nat) : Process :=
  match process.handle? target, process.handle? source with
  | some old, some new => process.put target (some { old with pointer := new.pointer })
  | _, _ => process

/-- What an operation does. An exception leaves the handles as they are. -/
def apply (process : Process) : Op → Process
  | .default kind => process.add ⟨kind, none⟩
  | .named kind name granted =>
    match (construct kind name).run (World.answer granted) process.world with
    | (.ok object, world) => { process with world := world }.add ⟨kind, some object⟩
    | (.error _, world) => { process with world := world }
  | .copyConstruct source => process.duplicate source
  | .moveConstruct source => process.duplicate source
  | .copyAssign target source => process.assign target source
  | .moveAssign target source => process.assign target source
  | .swap first second =>
    match process.handle? first, process.handle? second with
    | some one, some two =>
      (process.put first (some { one with pointer := two.pointer })).put second
        (some { two with pointer := one.pointer })
    | _, _ => process
  | .destroy index =>
    match process.handle? index with
    | none => process
    | some handle =>
      { process with
        world := ((destruct handle.pointer).run (World.answer allGranted) process.world).2 }.put
          index none

end Process

/-- Runs of operations, from a process without handles. -/
def handleSystem (flags : Flags.Store) : System Process Op where
  Initial process := process = Process.initial flags
  Step process op next := process.Valid op ∧ next = process.apply op

section Slots

variable {process : Process} {object index : Nat}

/-- Only the new number finds the new handle. -/
theorem handle?_add (handle : Handle) :
    (process.add handle).handle? index =
      if index = process.handles.length then some handle else process.handle? index := by
  rw [Process.handle?, Process.add]
  split_ifs with last
  · rw [last, List.getElem?_concat_length, Option.join_some]
  · rcases Nat.lt_or_gt_of_ne last with before | beyond
    · rw [List.getElem?_append_left before, Process.handle?]
    · have longer : (process.handles ++ [some handle]).length ≤ index := by
        rw [List.length_append, List.length_singleton]
        omega
      rw [List.getElem?_eq_none longer, Process.handle?,
        List.getElem?_eq_none (Nat.le_of_lt beyond)]

/-- The new handle counts for the object it points at. -/
theorem liveHandles_add (handle : Handle) :
    (process.add handle).liveHandles object =
      process.liveHandles object + if handle.pointer = some object then 1 else 0 := by
  rw [Process.liveHandles, Process.add, List.countP_append, List.countP_singleton]
  simp only [Option.any_some, decide_eq_true_eq]
  rfl

/-- Only the number of the slot finds something else. -/
theorem handle?_put {other : Nat} {old : Handle} (found : process.handle? index = some old)
    (slot : Option Handle) :
    (process.put index slot).handle? other =
      if other = index then slot else process.handle? other := by
  have isSlot : process.handles[index]? = some (some old) := by
    simpa [Process.handle?, Option.join_eq_some_iff] using found
  have bound := (List.getElem?_eq_some_iff.mp isSlot).1
  rw [Process.handle?, Process.put]
  by_cases same : other = index
  · rw [same, if_pos rfl, List.getElem?_set_self bound, Option.join_some]
  · rw [if_neg same, List.getElem?_set_ne (Ne.symm same), Process.handle?]

/-- Whether or not `second` is `first`, its slot has the pointer of `two` afterwards. -/
theorem exists_handle?_put {first second : Nat} {one two : Handle}
    (foundFirst : process.handle? first = some one)
    (foundSecond : process.handle? second = some two) :
    ∃ handle, (process.put first (some { one with pointer := two.pointer })).handle? second =
      some handle ∧ handle.pointer = two.pointer := by
  rw [handle?_put foundFirst]
  split_ifs
  · exact ⟨_, rfl, rfl⟩
  · exact ⟨two, foundSecond, rfl⟩

/-- The change in one slot, written without subtraction. -/
theorem liveHandles_put {old : Handle} (found : process.handle? index = some old)
    (slot : Option Handle) :
    (process.put index slot).liveHandles object +
        (if old.pointer = some object then 1 else 0) =
      process.liveHandles object +
        if slot.any fun handle => handle.pointer = some object then 1 else 0 := by
  have isSlot : process.handles[index]? = some (some old) := by
    simpa [Process.handle?, Option.join_eq_some_iff] using found
  obtain ⟨bound, here⟩ := List.getElem?_eq_some_iff.mp isSlot
  have atLeast : (if old.pointer = some object then 1 else 0) ≤ process.liveHandles object := by
    split_ifs with points
    · exact List.countP_pos_iff.mpr ⟨_, List.mem_of_getElem? isSlot, by simp [points]⟩
    · exact Nat.zero_le _
  simp only [Process.liveHandles, Process.put, List.countP_set bound, here, Option.any_some,
    decide_eq_true_eq] at atLeast ⊢
  omega

end Slots

end LoggerV2
