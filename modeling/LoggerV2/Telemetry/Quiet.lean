import LoggerV2.Client.Outcome

/-!
# What a constructor does to telemetry objects

`Client(name)` and `Log(name)` leave every telemetry object as it was (`Quiet`), whatever
is refused: they count only clients and traces, and no object holds a telemetry object.
-/

namespace LoggerV2

open Verification Verification.RefCount

/-- An object that is a client or a trace. -/
def OtherKind (registry : Registry) (object : Nat) : Prop :=
  ∃ tag, registry.tag? object = some tag ∧ tag.kind ≠ .telemetry

/-- No telemetry object is held by another object. -/
def HoldsOthers (registry : Registry) : Prop :=
  ∀ bone ∈ registry.bones, ∀ held ∈ bone.2, OtherKind registry held

/-- Whatever happened did not touch the telemetry objects. -/
structure Quiet (registry next : Registry) : Prop where
  grown : registry.bones <+: next.bones
  telemetry : ∀ object shared, next.tag? object = some ⟨.telemetry, shared⟩ →
    registry.tag? object = some ⟨.telemetry, shared⟩ ∧ next.count object = registry.count object
  holds : HoldsOthers next

variable {registry next last : Registry} {object client : Nat} {shared : Option Text}

/-- What is no telemetry object stays that. -/
theorem OtherKind.grown (other : OtherKind registry object)
    (grown : registry.bones <+: next.bones) : OtherKind next object := by
  obtain ⟨tag, found, different⟩ := other
  exact ⟨tag, tag?_grown found grown, different⟩

/-- A telemetry object is no client and no trace. -/
theorem OtherKind.ne (other : OtherKind registry client)
    (telemetry : registry.tag? object = some ⟨.telemetry, shared⟩) : object ≠ client := by
  rintro rfl
  obtain ⟨tag, found, different⟩ := other
  rw [telemetry] at found
  exact different (Option.some.inj found ▸ rfl)

/-- Counts do not matter. -/
theorem HoldsOthers.of_bones (holds : HoldsOthers registry)
    (same : next.bones = registry.bones) : HoldsOthers next := by
  intro bone member held isHeld
  rw [same] at member
  exact (holds bone member held isHeld).grown (by simp [same])

/-- Nothing holds a telemetry object. -/
theorem HoldsOthers.unheld (holds : HoldsOthers registry)
    (telemetry : registry.tag? object = some ⟨.telemetry, shared⟩) : Unheld registry object := by
  intro cell member isHeld
  have bone : (cell.tag, cell.holds) ∈ registry.bones := List.mem_map.mpr ⟨cell, member, rfl⟩
  exact (holds _ bone object isHeld).ne telemetry rfl

/-- A new object may hold a client. -/
theorem HoldsOthers.alloc (holds : HoldsOthers registry) {tag : P7Tag} {held : Option Nat}
    (others : ∀ client ∈ held, OtherKind registry client) :
    HoldsOthers (registry.alloc tag held) := by
  have grown : registry.bones <+: (registry.alloc tag held).bones := ⟨_, (bones_alloc _ _ _).symm⟩
  intro bone member client isHeld
  rw [bones_alloc] at member
  rcases List.mem_append.mp member with old | new
  · exact (holds bone old client isHeld).grown grown
  · obtain rfl := List.mem_singleton.mp new
    exact (others client isHeld).grown grown

namespace Quiet

theorem refl (holds : HoldsOthers registry) : Quiet registry registry :=
  ⟨List.prefix_refl _, fun _ _ found => ⟨found, rfl⟩, holds⟩

theorem trans (first : Quiet registry next) (second : Quiet next last) : Quiet registry last := by
  refine ⟨first.grown.trans second.grown, fun object shared found => ?_, second.holds⟩
  obtain ⟨middle, count⟩ := second.telemetry object shared found
  obtain ⟨before, same⟩ := first.telemetry object shared middle
  exact ⟨before, count.trans same⟩

/-- A step that creates nothing and counts only other objects. -/
theorem of_bones (holds : HoldsOthers registry) (same : next.bones = registry.bones)
    (count : ∀ object shared, registry.tag? object = some ⟨.telemetry, shared⟩ →
      next.count object = registry.count object) : Quiet registry next := by
  refine ⟨by simp [same], fun object shared found => ?_, holds.of_bones same⟩
  rw [tag?_of_bones same] at found
  exact ⟨found, count object shared found⟩

/-- Taking a reference to a client or a trace. -/
theorem addRef (holds : HoldsOthers registry) (alive : 0 < registry.count client)
    (other : OtherKind registry client) : Quiet registry (registry.addRef client) := by
  refine of_bones holds (bones_addRef _ _) fun object shared found => ?_
  rw [count_addRef alive, if_neg (other.ne found), Nat.add_zero]

/-- Releasing a client or a trace, whatever it cascades to. -/
theorem release (holds : HoldsOthers registry) (other : OtherKind registry client) :
    Quiet registry (registry.release client) :=
  of_bones holds (bones_release _ _) fun _ _ found =>
    count_release_unheld (holds.unheld found) (other.ne found)

/-- Creating a client or a trace. -/
theorem alloc (holds : HoldsOthers registry) {tag : P7Tag} {held : Option Nat}
    (isOther : tag.kind ≠ .telemetry) (alive : ∀ client ∈ held, 0 < registry.count client)
    (others : ∀ client ∈ held, OtherKind registry client) :
    Quiet registry (registry.alloc tag held) := by
  refine ⟨⟨_, (bones_alloc _ _ _).symm⟩, fun object shared found => ?_, holds.alloc others⟩
  rw [tag?_alloc] at found
  split_ifs at found with fresh
  · exact absurd (Option.some.inj found ▸ rfl) isOther
  · have apart : held ≠ some object := by
      rintro rfl
      exact (others object rfl).ne found rfl
    rw [count_alloc alive, if_neg fresh, if_neg apart]
    exact ⟨found, rfl⟩

end Quiet

variable {granted : P7Call → Bool} {world : World}

/-- `Client(name)`, whatever is refused. -/
theorem Client.Ends.quiet {name : Text} {made : Option Nat × Registry}
    (ends : Client.Ends granted world name made) (holds : HoldsOthers world.registry) :
    Quiet world.registry made.2 := by
  cases ends with
  | found isFound =>
    exact .addRef holds (alive_of_findShared isFound) ⟨_, tag?_of_findShared isFound, by simp⟩
  | unmade => exact .refl holds
  | unshared => exact .alloc holds (by simp) (by simp) (by simp)
  | shared => exact .alloc holds (by simp) (by simp) (by simp)

/-- A client that is returned is no telemetry object. -/
theorem Client.Ends.other {name : Text}
    (ends : Client.Ends granted world name (some client, registry)) :
    OtherKind registry client :=
  ⟨_, ends.makes.tagged client rfl, by simp⟩

/-- `Log(name)`, whatever is refused. -/
theorem ChannelEnds.quiet {name : Text} {made : Option Nat × Registry}
    (ends : ChannelEnds granted .trace (fun registry _ => registry) world name made)
    (holds : HoldsOthers world.registry) : Quiet world.registry made.2 := by
  have created : ∀ {client registry} shared,
      Client.Ends granted world (ascii "main") (some client, registry) →
        Quiet world.registry ((registry.alloc ⟨.trace, shared⟩ (some client)).release client) := by
    intro client registry shared main
    have before := main.quiet holds
    have after : Quiet registry (registry.alloc ⟨.trace, shared⟩ (some client)) :=
      .alloc before.holds (by simp) (by simpa using main.alive.1) (by simpa using main.other)
    exact (before.trans after).trans (.release after.holds (main.other.grown after.grown))
  cases ends with
  | found isFound =>
    exact .addRef holds (alive_of_findShared isFound) ⟨_, tag?_of_findShared isFound, by simp⟩
  | clientless _ main => exact main.quiet holds
  | uncreated _ main =>
    have before := main.quiet holds
    exact before.trans (.release before.holds main.other)
  | unshared _ main => exact created none main
  | shared _ main => exact created (some (cStr name)) main

end LoggerV2
