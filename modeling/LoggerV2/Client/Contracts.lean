import Mathlib.Data.Multiset.Count
import LoggerV2.Client.Outcome
import LoggerV2.Library.Ownership

/-!
# What code owns of P7

Code owns references on P7 objects, each with the tag of its object; an object that is not
shared yet belongs to the code that created it alone. `P7Contract` says what each call
takes and gives, and P7 honours it whatever it refuses (`honours_answer`): the owned
references account for every count, and no two live objects share one name.
-/

namespace LoggerV2

open Verification Verification.RefCount

/-- A reference on an object with the tag. -/
structure Owned where
  object : Nat
  tag : P7Tag
deriving DecidableEq, Repr

/-- The tag of the client that channels are created on. -/
def mainTag : P7Tag := ⟨.client, some mainName⟩

/-- The reference that a reply gives, if it names an object. -/
def given (tag : P7Tag) (reply : Option Nat) : Multiset Owned :=
  reply.elim 0 fun object => {⟨object, tag⟩}

/-- What each call takes from its caller, and gives with the reply. -/
inductive P7Contract : (request : P7Call) → Multiset Owned → (request.Reply → Multiset Owned) →
    Prop where
  | getShared (kind : Kind) (name : Text) :
      P7Contract (.getShared kind name) 0 fun reply => given ⟨kind, some name⟩ reply
  | createClient (params : Text) :
      P7Contract (.createClient params) 0 fun reply => given ⟨.client, none⟩ reply
  | createChannel (kind : Kind) (client : Nat) (name : Text) (isChannel : kind ≠ .client) :
      P7Contract (.createChannel kind client name) {⟨client, mainTag⟩} fun reply =>
        given ⟨kind, none⟩ reply + {⟨client, mainTag⟩}
  | share (kind : Kind) (object : Nat) (name : Text) :
      P7Contract (.share kind object name) {⟨object, ⟨kind, none⟩⟩} fun granted =>
        {⟨object, ⟨kind, if granted then some name else none⟩⟩}
  | addRef (object : Nat) (kind : Kind) (name : Text) :
      P7Contract (.addRef object) {⟨object, ⟨kind, some name⟩⟩} fun _ =>
        {⟨object, ⟨kind, some name⟩⟩, ⟨object, ⟨kind, some name⟩⟩}
  | release (object : Nat) (tag : P7Tag) : P7Contract (.release object) {⟨object, tag⟩} fun _ => 0
  | log (object : Nat) (tag : P7Tag) (level : Level) (message : Text) :
      P7Contract (.log object level message) {⟨object, tag⟩} fun _ => {⟨object, tag⟩}
  | getFlags : P7Contract .getFlags 0 fun _ => 0
  | flush : P7Contract .flush 0 fun _ => 0
  | registers (request : P7Call) (registers : Registers request) : P7Contract request 0 fun _ => 0

/-- The registry is as the owned references say. -/
structure Accounted (registry : Registry) (owned : Multiset Owned) : Prop where
  balanced : Balanced registry (owned.map Owned.object).toList
  tagged : ∀ item ∈ owned, registry.tag? item.object = some item.tag
  /-- An unshared object has one owner. -/
  single : ∀ item : Owned, item.tag.sharedAs = none → owned.count item ≤ 1
  /-- Only channels hold an object, and it is their client. -/
  holds : ∀ bone ∈ registry.bones, ∀ held ∈ bone.2,
    bone.1.kind ≠ .client ∧ registry.tag? held = some mainTag
  /-- No two live objects share one name. -/
  unique : ∀ (one two : Nat) (kind : Kind) (name : Text), 0 < registry.count one →
    0 < registry.count two → registry.tag? one = some ⟨kind, some name⟩ →
    registry.tag? two = some ⟨kind, some name⟩ → one = two

/-- The world is as the owned references say. -/
def Agrees (world : World) (owned : Multiset Owned) : Prop := Accounted world.registry owned

variable {registry : Registry} {owned : Multiset Owned} {object : Nat} {kind : Kind} {name : Text}
  {tag : P7Tag}

/-- The order in which references are listed does not matter. -/
theorem balanced_cons_iff {item : Owned} :
    Balanced registry (({item} + owned : Multiset Owned).map Owned.object).toList ↔
      Balanced registry (item.object :: (owned.map Owned.object).toList) := by
  have same : (({item} + owned : Multiset Owned).map Owned.object).toList.Perm
      (item.object :: (owned.map Owned.object).toList) := by
    rw [← Multiset.coe_eq_coe, Multiset.coe_toList, Multiset.map_add, Multiset.map_singleton,
      ← Multiset.cons_coe, Multiset.coe_toList, Multiset.singleton_add]
  exact ⟨fun balanced => balanced.perm same, fun balanced => balanced.perm same.symm⟩

/-- The tags after an object was shared. -/
theorem tag?_retag {other : Nat} (change : P7Tag → P7Tag) :
    Registry.tag? (registry.retag object change) other =
      if other = object then (registry.tag? object).map change else registry.tag? other := by
  rw [Heap.retag]
  cases found : registry.cells[object]? with
  | none =>
    have absent : registry.tag? object = none :=
      tag?_of_length_le (List.getElem?_eq_none_iff.mp found)
    split_ifs with same
    · rw [same, absent, Option.map_none]
    · rfl
  | some cell =>
    rw [Registry.tag?, getElem?_bones, getElem?_put found]
    split_ifs with same
    · rw [tag?_eq found]
      rfl
    · rw [Registry.tag?, getElem?_bones]

namespace Accounted

/-- An object that somebody owns is alive. -/
theorem alive (accounted : Accounted registry owned) {item : Owned} (owns : item ∈ owned) :
    0 < registry.count item.object := by
  refine accounted.balanced.alive_of_mem ?_
  rw [Multiset.mem_toList]
  exact Multiset.mem_map_of_mem _ owns

/-- An object that somebody owns is the one found under its name. -/
theorem found (accounted : Accounted registry owned)
    (owns : (⟨object, ⟨kind, some name⟩⟩ : Owned) ∈ owned) :
    registry.findShared kind name = some object := by
  have alive := accounted.alive owns
  have tagged := accounted.tagged _ owns
  obtain ⟨cell, isCell⟩ := exists_cell alive
  have tag := tagged
  rw [tag?_eq isCell, Option.some.injEq] at tag
  have isSome : (registry.findShared kind name).isSome :=
    findLive_isSome isCell (count_of_found isCell ▸ alive) (by simp [tag])
  obtain ⟨other, isFound⟩ := Option.isSome_iff_exists.mp isSome
  have same := accounted.unique other object kind name (alive_of_findShared isFound) alive
    (tag?_of_findShared isFound) tagged
  rw [isFound, same]

/-- A live object is owned, or a live object holds it. -/
theorem owned_or_held (accounted : Accounted registry owned) (alive : 0 < registry.count object) :
    (∃ item ∈ owned, item.object = object) ∨ ∃ (holder : Nat) (cell : Cell P7Tag),
      registry.cells[holder]? = some cell ∧ 0 < cell.count ∧ cell.holds = some object := by
  rw [accounted.balanced.counts object] at alive
  by_cases isOwned : object ∈ (owned.map Owned.object).toList
  · exact .inl (Multiset.mem_map.mp (Multiset.mem_toList.mp isOwned))
  · rw [List.count_eq_zero.mpr isOwned, Nat.zero_add] at alive
    obtain ⟨cell, member, holding⟩ := List.countP_pos_iff.mp alive
    obtain ⟨holder, isHolder⟩ := List.mem_iff_getElem?.mp member
    obtain ⟨holderAlive, holds⟩ := of_decide_eq_true holding
    exact .inr ⟨holder, cell, isHolder, holderAlive, holds⟩

/-- What a live object holds is the client `"main"`, and the holder is an owned channel. -/
theorem owned_holder (accounted : Accounted registry owned) {holder : Nat} {cell : Cell P7Tag}
    (isHolder : registry.cells[holder]? = some cell) (alive : 0 < cell.count)
    (holds : cell.holds = some object) :
    registry.tag? object = some mainTag ∧ ∃ item ∈ owned, item.object = holder ∧
      item.tag.kind ≠ .client := by
  have held : ∀ {index : Nat} {holding : Cell P7Tag} {object : Nat},
      registry.cells[index]? = some holding → holding.holds = some object →
      holding.tag.kind ≠ .client ∧ registry.tag? object = some mainTag := by
    intro index holding object isHolding holds
    exact accounted.holds (holding.tag, holding.holds)
      (List.mem_map.mpr ⟨holding, List.mem_of_getElem? isHolding, rfl⟩) object holds
  obtain ⟨isChannel, main⟩ := held isHolder holds
  refine ⟨main, ?_⟩
  rw [← count_of_found isHolder] at alive
  rcases accounted.owned_or_held alive with
    ⟨item, owns, rfl⟩ | ⟨above, other, isAbove, -, holdsHolder⟩
  · have tagged := accounted.tagged item owns
    rw [tag?_eq isHolder, Option.some.injEq] at tagged
    exact ⟨item, owns, rfl, tagged ▸ isChannel⟩
  · have isClient := (held isAbove holdsHolder).2
    rw [tag?_eq isHolder, Option.some.injEq] at isClient
    exact absurd (congrArg P7Tag.kind isClient) isChannel

/-- One more reference on a shared object. -/
theorem addRef (accounted : Accounted registry owned) (alive : 0 < registry.count object)
    (tagged : registry.tag? object = some ⟨kind, some name⟩) :
    Accounted (registry.addRef object) ({⟨object, ⟨kind, some name⟩⟩} + owned) := by
  have tags : ∀ other, Registry.tag? (registry.addRef object) other = registry.tag? other :=
    fun other => tag?_of_bones (bones_addRef _ _)
  have lives : ∀ other, 0 < Heap.count (registry.addRef object) other →
      0 < registry.count other := by
    intro other positive
    rw [count_addRef alive] at positive
    split_ifs at positive with same
    · rwa [same]
    · exact positive
  refine ⟨balanced_cons_iff.mpr (accounted.balanced.addRef alive), ?_, ?_, ?_, ?_⟩
  · intro item owns
    rw [tags]
    rcases Multiset.mem_add.mp owns with new | old
    · obtain rfl := Multiset.mem_singleton.mp new
      exact tagged
    · exact accounted.tagged item old
  · intro item unshared
    have different : item ≠ ⟨object, ⟨kind, some name⟩⟩ := by
      rintro rfl
      cases unshared
    rw [Multiset.count_add, Multiset.count_singleton, if_neg different, Nat.zero_add]
    exact accounted.single item unshared
  · intro bone member held holds
    rw [tags]
    rw [bones_addRef] at member
    exact accounted.holds bone member held holds
  · intro one two kind name first second tagOne tagTwo
    rw [tags] at tagOne tagTwo
    exact accounted.unique one two kind name (lives one first) (lives two second) tagOne tagTwo

/-- A new object, which belongs to its creator. -/
theorem alloc (accounted : Accounted registry owned) {holds : Option Nat}
    (alive : ∀ held ∈ holds, 0 < registry.count held)
    (main : ∀ held ∈ holds, kind ≠ .client ∧ registry.tag? held = some mainTag) :
    Accounted (registry.alloc ⟨kind, none⟩ holds)
      ({⟨registry.cells.length, ⟨kind, none⟩⟩} + owned) := by
  have older : ∀ {other tag}, registry.tag? other = some tag →
      Registry.tag? (registry.alloc ⟨kind, none⟩ holds) other = some tag :=
    fun tagged => tag?_grown tagged (by simp)
  refine ⟨balanced_cons_iff.mpr (accounted.balanced.alloc alive), ?_, ?_, ?_, ?_⟩
  · intro item owns
    rcases Multiset.mem_add.mp owns with new | old
    · obtain rfl := Multiset.mem_singleton.mp new
      rw [tag?_alloc, if_pos rfl]
    · exact older (accounted.tagged item old)
  · intro item unshared
    rw [Multiset.count_add, Multiset.count_singleton]
    split_ifs with same
    · have fresh : owned.count item = 0 := by
        refine Multiset.count_eq_zero_of_notMem fun owns => ?_
        have bound := lt_of_alive (accounted.alive owns)
        rw [same] at bound
        exact Nat.lt_irrefl _ bound
      rw [fresh]
    · rw [Nat.zero_add]
      exact accounted.single item unshared
  · intro bone member held isHeld
    rw [bones_alloc] at member
    rcases List.mem_append.mp member with old | new
    · exact (accounted.holds bone old held isHeld).imp_right older
    · obtain rfl := List.mem_singleton.mp new
      exact (main held isHeld).imp_right older
  · intro one two other name first second tagOne tagTwo
    have shared : ∀ {object}, Registry.tag? (registry.alloc ⟨kind, none⟩ holds) object =
        some ⟨other, some name⟩ → 0 < Heap.count (registry.alloc ⟨kind, none⟩ holds) object →
        registry.tag? object = some ⟨other, some name⟩ ∧ 0 < registry.count object := by
      intro object tagged positive
      rw [tag?_alloc] at tagged
      rw [count_alloc alive] at positive
      split_ifs at tagged with last
      · cases tagged
      · rw [if_neg last] at positive
        split_ifs at positive with held
        · exact ⟨tagged, alive object held⟩
        · exact ⟨tagged, positive⟩
    exact accounted.unique one two other name (shared tagOne first).2 (shared tagTwo second).2
      (shared tagOne first).1 (shared tagTwo second).1

/-- An unshared object has no other reference. -/
theorem apart (accounted : Accounted registry ({⟨object, ⟨kind, none⟩⟩} + owned)) {item : Owned}
    (owns : item ∈ owned) : item.object ≠ object := by
  intro same
  have tagged := accounted.tagged item (Multiset.mem_add.mpr (.inr owns))
  rw [same, accounted.tagged ⟨object, ⟨kind, none⟩⟩
    (Multiset.mem_add.mpr (.inl (Multiset.mem_singleton_self _)))] at tagged
  obtain rfl : (⟨object, ⟨kind, none⟩⟩ : Owned) = item := by
    cases item
    cases same
    cases tagged
    rfl
  have single := accounted.single ⟨object, ⟨kind, none⟩⟩ rfl
  rw [Multiset.count_add, Multiset.count_singleton_self] at single
  have another := Multiset.count_pos.mpr owns
  omega

/-- An object is shared under a name that no live object has. -/
theorem share (accounted : Accounted registry ({⟨object, ⟨kind, none⟩⟩} + owned))
    (absent : registry.findShared kind name = none) :
    Accounted (registry.retag object fun tag => { tag with sharedAs := some name })
      ({⟨object, ⟨kind, some name⟩⟩} + owned) := by
  have tagged := accounted.tagged ⟨object, ⟨kind, none⟩⟩
    (Multiset.mem_add.mpr (.inl (Multiset.mem_singleton_self _)))
  have nobody : ∀ other, 0 < registry.count other →
      registry.tag? other ≠ some ⟨kind, some name⟩ := by
    intro other alive isTag
    obtain ⟨cell, found⟩ := exists_cell alive
    rw [count_of_found found] at alive
    rw [tag?_eq found, Option.some.injEq] at isTag
    have fails := findLive_eq_none_iff.mp absent cell (List.mem_of_getElem? found) alive
    simp [isTag] at fails
  refine ⟨?_, ?_, ?_, ?_, ?_⟩
  · exact balanced_cons_iff.mpr ((balanced_cons_iff.mp accounted.balanced).retag _)
  · intro item owns
    rw [tag?_retag]
    rcases Multiset.mem_add.mp owns with new | old
    · obtain rfl := Multiset.mem_singleton.mp new
      rw [if_pos rfl, tagged, Option.map_some]
    · rw [if_neg (accounted.apart old)]
      exact accounted.tagged item (Multiset.mem_add.mpr (.inr old))
  · intro item unshared
    have different : item ≠ ⟨object, ⟨kind, some name⟩⟩ := by
      rintro rfl
      cases unshared
    have single := accounted.single item unshared
    rw [Multiset.count_add] at single ⊢
    rw [Multiset.count_singleton, if_neg different]
    omega
  · intro bone member held isHeld
    obtain ⟨before, isBone, same, tags⟩ := exists_bone_of_retag member
    obtain ⟨isChannel, main⟩ := accounted.holds before isBone held (same ▸ isHeld)
    refine ⟨tags.elim (fun tag => tag ▸ isChannel) fun tag => tag ▸ isChannel, ?_⟩
    rw [tag?_retag]
    split_ifs with isObject
    · rw [isObject, tagged] at main
      cases main
    · exact main
  · intro one two other given first second tagOne tagTwo
    rw [count_retag] at first second
    rw [tag?_retag] at tagOne tagTwo
    split_ifs at tagOne tagTwo with isOne isTwo isTwo
    · rw [isOne, isTwo]
    · rw [tagged] at tagOne
      cases tagOne
      exact absurd tagTwo (nobody two second)
    · rw [tagged] at tagTwo
      cases tagTwo
      exact absurd tagOne (nobody one first)
    · exact accounted.unique one two other given first second tagOne tagTwo

/-- A reference is given back. -/
theorem release (accounted : Accounted registry ({⟨object, tag⟩} + owned)) :
    Accounted (registry.release object) owned := by
  have tags : ∀ other, Registry.tag? (registry.release object) other = registry.tag? other :=
    fun other => tag?_of_bones (bones_release _ _)
  refine ⟨(balanced_cons_iff.mp accounted.balanced).release, ?_, ?_, ?_, ?_⟩
  · intro item owns
    rw [tags]
    exact accounted.tagged item (Multiset.mem_add.mpr (.inr owns))
  · intro item unshared
    have single := accounted.single item unshared
    rw [Multiset.count_add] at single
    omega
  · intro bone member held isHeld
    rw [tags]
    rw [bones_release] at member
    exact accounted.holds bone member held isHeld
  · intro one two kind name first second tagOne tagTwo
    rw [tags] at tagOne tagTwo
    exact accounted.unique one two kind name (Nat.lt_of_lt_of_le first count_release_le)
      (Nat.lt_of_lt_of_le second count_release_le) tagOne tagTwo

/-- At first nobody owns anything. -/
theorem empty : Accounted Heap.empty 0 := by
  refine ⟨by simpa using balanced_empty, fun item owns => ?_, fun item _ => ?_, ?_, ?_⟩
  · exact absurd owns (Multiset.notMem_zero item)
  · rw [Multiset.count_zero]
    exact Nat.zero_le 1
  · intro bone member
    simp [Heap.empty, Heap.bones] at member
  · intro one two kind name first
    simp [Heap.empty, Heap.count] at first

end Accounted

/-- P7 honours the contracts, whatever it refuses. -/
theorem honours_answer (granted : P7Call → Bool) :
    Honours (World.answer granted) P7Contract Agrees := by
  intro request taken gives contract world frame agrees
  cases contract with
  | getShared kind name =>
    rw [zero_add] at agrees
    cases found : world.registry.findShared kind name with
    | none =>
      rw [answer_getShared_none found]
      exact (zero_add frame).symm ▸ agrees
    | some object =>
      rw [answer_getShared_some found]
      exact agrees.addRef (alive_of_findShared found) (tag?_of_findShared found)
  | createClient params =>
    rw [zero_add] at agrees
    rw [World.answer]
    split_ifs
    · exact agrees.alloc (by simp) (by simp)
    · exact (zero_add frame).symm ▸ agrees
  | createChannel kind client name isChannel =>
    have owns : (⟨client, mainTag⟩ : Owned) ∈ ({⟨client, mainTag⟩} + frame : Multiset Owned) :=
      Multiset.mem_add.mpr (.inl (Multiset.mem_singleton_self _))
    have alive := agrees.alive owns
    have main := agrees.tagged _ owns
    rw [World.answer, add_assoc]
    split_ifs
    · exact agrees.alloc (by simpa using alive) (by simpa using ⟨isChannel, main⟩)
    · exact (zero_add ({⟨client, mainTag⟩} + frame)).symm ▸ agrees
  | share kind object name =>
    rw [World.answer]
    split_ifs with grants
    · exact agrees.share grants.2
    · exact agrees
  | addRef object kind name =>
    have owns : (⟨object, ⟨kind, some name⟩⟩ : Owned) ∈
        ({⟨object, ⟨kind, some name⟩⟩} + frame : Multiset Owned) :=
      Multiset.mem_add.mpr (.inl (Multiset.mem_singleton_self _))
    have more := agrees.addRef (agrees.alive owns) (agrees.tagged _ owns)
    rwa [← add_assoc] at more
  | release object tag =>
    rw [zero_add]
    exact agrees.release
  | log object tag level message => exact agrees
  | getFlags => exact agrees
  | flush => exact agrees
  | registers request registers =>
    rw [Agrees, registers.registry]
    exact agrees

end LoggerV2
