import Mathlib.Data.List.Perm.Basic
import Mathlib.Tactic.SplitIfs

/-!
# Reference-counted heaps

Objects carry a tag and a count, and may hold one reference on an older object. The
references that are held from outside the heap are a list of object numbers; `Balanced`
says that every count is accounted for by that list and by the live holders. Each
operation has one rule about `Balanced`; `Balanced.count_eq` says that the accounted
references alone determine which objects are alive.
-/

namespace Verification.RefCount

/-- An object: alive while its count is positive. -/
structure Cell (Tag : Type) where
  tag : Tag
  count : Nat
  holds : Option Nat
deriving DecidableEq, Repr

/-- Objects by number, and whether a release ever met a count of zero. -/
structure Heap (Tag : Type) where
  cells : List (Cell Tag)
  overReleased : Bool
deriving DecidableEq, Repr

namespace Heap

variable {Tag : Type}

def empty : Heap Tag := ⟨[], false⟩

/-- The references to an object; 0 for what was not created. -/
def count (heap : Heap Tag) (object : Nat) : Nat := heap.cells[object]?.elim 0 Cell.count

/-- How many live objects hold a reference on this one. -/
def holders (heap : Heap Tag) (object : Nat) : Nat :=
  heap.cells.countP fun cell => 0 < cell.count ∧ cell.holds = some object

def put (heap : Heap Tag) (object : Nat) (cell : Cell Tag) : Heap Tag :=
  { heap with cells := heap.cells.set object cell }

def addRef (heap : Heap Tag) (object : Nat) : Heap Tag :=
  match heap.cells[object]? with
  | none => heap
  | some cell => heap.put object { cell with count := cell.count + 1 }

/-- A new object with count one, which takes a reference on the object it holds. Its
number is the number of objects before. -/
def alloc (heap : Heap Tag) (tag : Tag) (holds : Option Nat) : Heap Tag :=
  let held := holds.elim heap heap.addRef
  { held with cells := held.cells ++ [⟨tag, 1, holds⟩] }

def retag (heap : Heap Tag) (object : Nat) (change : Tag → Tag) : Heap Tag :=
  match heap.cells[object]? with
  | none => heap
  | some cell => heap.put object { cell with tag := change cell.tag }

/-- Take one reference away. The last one destroys the object, which then releases what
it holds; a chain of holders is never longer than `fuel`. -/
def releaseWithin : Nat → Heap Tag → Nat → Heap Tag
  | 0, heap, _ => heap
  | fuel + 1, heap, object =>
    match heap.cells[object]? with
    | none => { heap with overReleased := true }
    | some cell =>
      if cell.count = 0 then { heap with overReleased := true }
      else
        let less := heap.put object { cell with count := cell.count - 1 }
        if cell.count = 1 then cell.holds.elim less (releaseWithin fuel less) else less

/-- Objects hold only older ones, so the number bounds the chain. -/
def release (heap : Heap Tag) (object : Nat) : Heap Tag :=
  heap.releaseWithin (object + 1) object

/-- The first live object whose tag passes the test. -/
def findLive (heap : Heap Tag) (test : Tag → Bool) : Option Nat :=
  heap.cells.findIdx? fun cell => 0 < cell.count ∧ test cell.tag

end Heap

variable {Tag : Type} {heap next : Heap Tag} {object other : Nat} {cell : Cell Tag}
  {refs : List Nat}

/-- Every count is the references held outside plus the live holders; objects hold older
objects; nothing was released too often. -/
structure Balanced (heap : Heap Tag) (refs : List Nat) : Prop where
  counts : ∀ object, heap.count object = refs.count object + heap.holders object
  ordered : ∀ (object : Nat) (cell : Cell Tag), heap.cells[object]? = some cell →
    ∀ held, cell.holds = some held → held < object
  sound : heap.overReleased = false

/-- Without objects nobody owns a reference. -/
theorem balanced_empty : Balanced (Heap.empty : Heap Tag) [] :=
  ⟨fun _ => rfl, fun _ _ found => by simp [Heap.empty] at found, rfl⟩

/-- Owned references have no order. -/
theorem Balanced.perm {other : List Nat} (balanced : Balanced heap refs)
    (same : refs.Perm other) : Balanced heap other :=
  ⟨fun object => by rw [balanced.counts, same.count_eq], balanced.ordered, balanced.sound⟩

/-- The count is that of the cell. -/
theorem count_of_found (found : heap.cells[object]? = some cell) :
    heap.count object = cell.count := by
  rw [Heap.count, found, Option.elim_some]

/-- What is alive was created. -/
theorem exists_cell (alive : 0 < heap.count object) : ∃ cell, heap.cells[object]? = some cell := by
  cases found : heap.cells[object]? with
  | none => simp [Heap.count, found] at alive
  | some cell => exact ⟨cell, rfl⟩

/-- An object with a reference from outside is alive. -/
theorem Balanced.alive_of_mem (balanced : Balanced heap refs) (member : object ∈ refs) :
    0 < heap.count object := by
  have owned := List.count_pos_iff.mpr member
  have counted := balanced.counts object
  omega

/-- A live holder counts. -/
theorem holders_pos (found : heap.cells[other]? = some cell) (alive : 0 < cell.count)
    (holds : cell.holds = some object) : 0 < heap.holders object :=
  List.countP_pos_iff.mpr ⟨cell, List.mem_of_getElem? found, by simp [alive, holds]⟩

/-- What a live object holds is alive. -/
theorem Balanced.alive_of_held (balanced : Balanced heap refs)
    (found : heap.cells[other]? = some cell) (alive : 0 < cell.count)
    (holds : cell.holds = some object) : 0 < heap.count object := by
  have held := holders_pos found alive holds
  have counted := balanced.counts object
  omega

section Put

/-- Only the object has another cell. -/
theorem getElem?_put (found : heap.cells[object]? = some cell) (changed : Cell Tag) :
    (heap.put object changed).cells[other]? =
      if other = object then some changed else heap.cells[other]? := by
  have bound : object < heap.cells.length := (List.getElem?_eq_some_iff.mp found).1
  by_cases same : other = object
  · rw [same, if_pos rfl, Heap.put, List.getElem?_set_self bound]
  · rw [if_neg same, Heap.put, List.getElem?_set_ne (Ne.symm same)]

/-- Only the object's count changes. -/
theorem count_put (found : heap.cells[object]? = some cell) (changed : Cell Tag) :
    (heap.put object changed).count other =
      if other = object then changed.count else heap.count other := by
  rw [Heap.count, getElem?_put found]
  split_ifs <;> rfl

/-- The change in one cell, written without subtraction. -/
theorem holders_put (found : heap.cells[object]? = some cell) (changed : Cell Tag) :
    (heap.put object changed).holders other +
        (if 0 < cell.count ∧ cell.holds = some other then 1 else 0) =
      heap.holders other +
        if 0 < changed.count ∧ changed.holds = some other then 1 else 0 := by
  obtain ⟨bound, rfl⟩ := List.getElem?_eq_some_iff.mp found
  have atLeast : (if 0 < heap.cells[object].count ∧ heap.cells[object].holds = some other then 1
      else 0) ≤ heap.holders other := by
    split_ifs with holding
    · exact holders_pos found holding.1 holding.2
    · exact Nat.zero_le _
  simp only [Heap.holders, Heap.put, List.countP_set bound, decide_eq_true_eq] at atLeast ⊢
  omega

/-- A cell that holds what it held before still holds an older object. -/
theorem Balanced.ordered_put (balanced : Balanced heap refs)
    (found : heap.cells[object]? = some cell) {changed : Cell Tag}
    (same : changed.holds = cell.holds) (other : Nat) (after : Cell Tag)
    (foundOther : (heap.put object changed).cells[other]? = some after) (held : Nat)
    (holds : after.holds = some held) : held < other := by
  rw [getElem?_put found] at foundOther
  split_ifs at foundOther with isObject
  · cases foundOther
    rw [same] at holds
    exact isObject ▸ balanced.ordered object cell found held holds
  · exact balanced.ordered other after foundOther held holds

end Put

/-- A live object can be given one more reference. -/
theorem Balanced.addRef (balanced : Balanced heap refs) (alive : 0 < heap.count object) :
    Balanced (heap.addRef object) (object :: refs) := by
  obtain ⟨cell, found⟩ := exists_cell alive
  rw [count_of_found found] at alive
  rw [Heap.addRef, found]
  refine ⟨fun other => ?_, balanced.ordered_put found rfl, balanced.sound⟩
  have moved := @holders_put _ _ _ other _ found { cell with count := cell.count + 1 }
  have counted := balanced.counts other
  have here := count_of_found found
  rw [count_put found, List.count_cons]
  by_cases same : other = object
  · subst same
    simp [alive] at moved ⊢
    omega
  · simp [alive, same, Ne.symm same] at moved ⊢
    omega

theorem length_addRef (heap : Heap Tag) (object : Nat) :
    (heap.addRef object).cells.length = heap.cells.length := by
  rw [Heap.addRef]
  split
  · rfl
  · rw [Heap.put, List.length_set]

/-- What was not created has no references. -/
theorem count_of_length_le (beyond : heap.cells.length ≤ object) : heap.count object = 0 := by
  rw [Heap.count, List.getElem?_eq_none beyond, Option.elim_none]

/-- What is alive has a number that was given out. -/
theorem lt_of_alive (alive : 0 < heap.count object) : object < heap.cells.length := by
  by_contra beyond
  rw [count_of_length_le (Nat.le_of_not_lt beyond)] at alive
  exact Nat.lt_irrefl 0 alive

section Append

/-- The heap with one more object, whose held reference is already counted. -/
def Heap.append (heap : Heap Tag) (cell : Cell Tag) : Heap Tag :=
  { heap with cells := heap.cells ++ [cell] }

/-- Only the next number has the new cell. -/
theorem getElem?_append (cell : Cell Tag) :
    (heap.append cell).cells[object]? =
      if object = heap.cells.length then some cell else heap.cells[object]? := by
  rw [Heap.append]
  split_ifs with last
  · rw [last, List.getElem?_concat_length]
  · rcases Nat.lt_or_gt_of_ne last with before | beyond
    · exact List.getElem?_append_left before
    · have longer : (heap.cells ++ [cell]).length ≤ object := by
        rw [List.length_append, List.length_singleton]
        omega
      rw [List.getElem?_eq_none longer, List.getElem?_eq_none (Nat.le_of_lt beyond)]

/-- Only the next number has its count. -/
theorem count_append (cell : Cell Tag) :
    (heap.append cell).count object =
      if object = heap.cells.length then cell.count else heap.count object := by
  rw [Heap.count, getElem?_append]
  split_ifs <;> rfl

/-- The new cell is a holder if it is alive and holds. -/
theorem holders_append (cell : Cell Tag) :
    (heap.append cell).holders object =
      heap.holders object + if 0 < cell.count ∧ cell.holds = some object then 1 else 0 := by
  rw [Heap.holders, Heap.append, List.countP_append, List.countP_singleton]
  simp only [decide_eq_true_eq]
  rfl

/-- A new object takes over the reference it holds. -/
theorem Balanced.append {tag : Tag} {holds : Option Nat}
    (balanced : Balanced heap (holds.toList ++ refs)) :
    Balanced (heap.append ⟨tag, 1, holds⟩) (heap.cells.length :: refs) := by
  have older : ∀ held, holds = some held → held < heap.cells.length := by
    rintro held rfl
    exact lt_of_alive (balanced.alive_of_mem (List.mem_append_left refs List.mem_cons_self))
  have fresh := balanced.counts heap.cells.length
  rw [count_of_length_le (Nat.le_refl _), List.count_append] at fresh
  refine ⟨fun object => ?_, fun object cell found held holding => ?_, balanced.sound⟩
  · have counted := balanced.counts object
    rw [count_append, holders_append, List.count_cons]
    rw [List.count_append] at counted
    cases holds with
    | none =>
      by_cases last : object = heap.cells.length
      · subst last
        simp at counted ⊢
        omega
      · simp [last, Ne.symm last] at counted ⊢
        omega
    | some held =>
      by_cases last : object = heap.cells.length
      · subst last
        have different : held ≠ heap.cells.length := Nat.ne_of_lt (older held rfl)
        simp [different] at counted ⊢
        omega
      · by_cases here : held = object
        · subst here
          simp [last, Ne.symm last] at counted ⊢
          omega
        · simp [last, Ne.symm last, here] at counted ⊢
          omega
  · rw [getElem?_append] at found
    split_ifs at found with last
    · cases found
      exact last ▸ older held holding
    · exact balanced.ordered object cell found held holding

end Append

/-- A new object, which holds a reference on a live one. -/
theorem Balanced.alloc {tag : Tag} {holds : Option Nat} (balanced : Balanced heap refs)
    (alive : ∀ held ∈ holds, 0 < heap.count held) :
    Balanced (heap.alloc tag holds) (heap.cells.length :: refs) := by
  cases holds with
  | none => exact balanced.append
  | some held =>
    have taken := balanced.addRef (alive held rfl)
    rw [← length_addRef heap held]
    exact (show Balanced (heap.addRef held) ((some held).toList ++ refs) from taken).append

/-- The new object of `alloc`. -/
theorem getElem?_alloc_length (tag : Tag) (holds : Option Nat) :
    (heap.alloc tag holds).cells[heap.cells.length]? = some ⟨tag, 1, holds⟩ := by
  cases holds with
  | none => exact (getElem?_append _).trans (if_pos rfl)
  | some held =>
    rw [← length_addRef heap held]
    exact (getElem?_append _).trans (if_pos rfl)

/-- A new object can be created with its later tag. -/
theorem retag_append (cell : Cell Tag) (change : Tag → Tag) :
    (heap.append cell).retag heap.cells.length change =
      heap.append { cell with tag := change cell.tag } := by
  rw [Heap.retag, getElem?_append, if_pos rfl]
  simp [Heap.put, Heap.append]

/-- Tagging an object right after its creation is creating it with that tag. -/
theorem retag_alloc (tag : Tag) (holds : Option Nat) (change : Tag → Tag) :
    (heap.alloc tag holds).retag heap.cells.length change = heap.alloc (change tag) holds := by
  cases holds with
  | none => exact retag_append _ change
  | some held =>
    rw [← length_addRef heap held]
    exact retag_append _ change

/-- The last reference on an object is given back: the object dies, and the reference it
held is owed from outside. -/
theorem Balanced.die (balanced : Balanced heap (object :: refs))
    (found : heap.cells[object]? = some cell) (last : cell.count = 1) :
    Balanced (heap.put object { cell with count := cell.count - 1 })
      (cell.holds.toList ++ refs) := by
  refine ⟨fun other => ?_, balanced.ordered_put found rfl, balanced.sound⟩
  have here := balanced.counts object
  rw [count_of_found found, List.count_cons_self] at here
  have counted := balanced.counts other
  have moved := @holders_put _ _ _ other _ found { cell with count := cell.count - 1 }
  rw [List.count_cons] at counted
  rw [count_put found, List.count_append]
  cases holds : cell.holds with
  | none =>
    by_cases same : other = object
    · subst same
      simp [last, holds] at moved counted ⊢
      omega
    · simp [last, holds, same, Ne.symm same] at moved counted ⊢
      omega
  | some held =>
    by_cases same : other = object
    · subst same
      have older := balanced.ordered _ _ found held holds
      have different : held ≠ other := Nat.ne_of_lt older
      simp [last, holds, different] at moved counted ⊢
      omega
    · by_cases isHeld : held = other
      · subst isHeld
        simp [last, holds, same, Ne.symm same] at moved counted ⊢
        omega
      · simp [last, holds, same, Ne.symm same, isHeld] at moved counted ⊢
        omega

/-- One of several references on an object is given back. -/
theorem Balanced.less (balanced : Balanced heap (object :: refs))
    (found : heap.cells[object]? = some cell) (spare : 1 < cell.count) :
    Balanced (heap.put object { cell with count := cell.count - 1 }) refs := by
  refine ⟨fun other => ?_, balanced.ordered_put found rfl, balanced.sound⟩
  have here := count_of_found found
  have counted := balanced.counts other
  have moved := @holders_put _ _ _ other _ found { cell with count := cell.count - 1 }
  have alive : 0 < cell.count := by omega
  have still : 0 < cell.count - 1 := by omega
  rw [List.count_cons] at counted
  rw [count_put found]
  by_cases same : other = object
  · subst same
    simp [alive, still] at moved counted ⊢
    omega
  · simp [alive, still, same, Ne.symm same] at moved counted ⊢
    omega

/-- A release gives one reference back. -/
theorem Balanced.releaseWithin {fuel : Nat} (balanced : Balanced heap (object :: refs))
    (enough : object < fuel) : Balanced (heap.releaseWithin fuel object) refs := by
  induction fuel generalizing heap refs object with
  | zero => omega
  | succ fuel ih =>
    have alive := balanced.alive_of_mem List.mem_cons_self
    obtain ⟨cell, found⟩ := exists_cell alive
    rw [count_of_found found] at alive
    rw [Heap.releaseWithin, found]
    simp only [Nat.pos_iff_ne_zero.mp alive, if_false]
    by_cases last : cell.count = 1
    · have owed := balanced.die found last
      rw [if_pos last]
      cases holds : cell.holds with
      | none =>
        rw [holds] at owed
        exact owed
      | some held =>
        rw [holds] at owed
        have older := balanced.ordered object cell found held holds
        exact ih owed (by omega)
    · rw [if_neg last]
      exact balanced.less found (by omega)

/-- A reference that is owned can be released. -/
theorem Balanced.release (balanced : Balanced heap (object :: refs)) :
    Balanced (heap.release object) refs :=
  balanced.releaseWithin (Nat.lt_succ_self object)

/-- Changing tags changes no count. -/
theorem Balanced.retag (balanced : Balanced heap refs) (change : Tag → Tag) :
    Balanced (heap.retag object change) refs := by
  rw [Heap.retag]
  split
  · exact balanced
  · next cell found =>
    refine ⟨fun other => ?_, balanced.ordered_put found rfl, balanced.sound⟩
    have moved := @holders_put _ _ _ other _ found { cell with tag := change cell.tag }
    have counted := balanced.counts other
    rw [count_put found]
    dsimp only at moved ⊢
    split_ifs with same
    · subst same
      rw [count_of_found found] at counted
      omega
    · omega

theorem count_retag (change : Tag → Tag) :
    (heap.retag object change).count other = heap.count other := by
  rw [Heap.retag]
  split
  · rfl
  · next cell found =>
    rw [count_put found]
    split_ifs with same
    · rw [same, count_of_found found]
    · rfl

/-- A release gives no references. -/
theorem count_releaseWithin_le (fuel : Nat) (heap : Heap Tag) (object : Nat) :
    (heap.releaseWithin fuel object).count other ≤ heap.count other := by
  induction fuel generalizing heap object with
  | zero => exact Nat.le_refl _
  | succ fuel ih =>
    rw [Heap.releaseWithin]
    split
    · exact Nat.le_refl _
    · next cell found =>
      have less : (heap.put object { cell with count := cell.count - 1 }).count other ≤
          heap.count other := by
        rw [count_put found]
        split_ifs with same
        · rw [same, count_of_found found]
          exact Nat.sub_le _ _
        · exact Nat.le_refl _
      generalize heap.put object { cell with count := cell.count - 1 } = reduced at less ⊢
      have rest : (cell.holds.elim reduced (Heap.releaseWithin fuel reduced)).count other ≤
          heap.count other := by
        cases cell.holds with
        | none => exact less
        | some held => exact Nat.le_trans (ih reduced held) less
      dsimp only
      split_ifs
      · exact Nat.le_refl _
      · exact rest
      · exact less

/-- A release adds no reference anywhere. -/
theorem count_release_le : (heap.release object).count other ≤ heap.count other :=
  count_releaseWithin_le _ heap object

/-- What never changes about the objects: their tags and what they hold. -/
def Heap.bones (heap : Heap Tag) : List (Tag × Option Nat) :=
  heap.cells.map fun cell => (cell.tag, cell.holds)

section Bones

/-- A cell with the same tag and holding is the same bone. -/
theorem bones_put (found : heap.cells[object]? = some cell) {changed : Cell Tag}
    (tag : changed.tag = cell.tag) (holds : changed.holds = cell.holds) :
    (heap.put object changed).bones = heap.bones := by
  obtain ⟨bound, rfl⟩ := List.getElem?_eq_some_iff.mp found
  rw [Heap.bones, Heap.put, List.map_set, tag, holds]
  refine List.ext_getElem? fun index => ?_
  by_cases same : object = index
  · subst same
    rw [List.getElem?_set_self (by simpa using bound)]
    simp [Heap.bones, List.getElem?_eq_getElem bound]
  · rw [List.getElem?_set_ne same, Heap.bones]

@[simp] theorem bones_addRef (heap : Heap Tag) (object : Nat) :
    (heap.addRef object).bones = heap.bones := by
  rw [Heap.addRef]
  split
  · rfl
  · next cell found => exact bones_put found rfl rfl

@[simp] theorem bones_append (heap : Heap Tag) (cell : Cell Tag) :
    (heap.append cell).bones = heap.bones ++ [(cell.tag, cell.holds)] := by
  rw [Heap.bones, Heap.append, List.map_append, List.map_singleton, ← Heap.bones]

@[simp] theorem bones_alloc (heap : Heap Tag) (tag : Tag) (holds : Option Nat) :
    (heap.alloc tag holds).bones = heap.bones ++ [(tag, holds)] := by
  cases holds with
  | none => exact bones_append heap ⟨tag, 1, none⟩
  | some held =>
    rw [← bones_addRef heap held]
    exact bones_append _ ⟨tag, 1, some held⟩

/-- Releasing changes no bone, however far it cascades. -/
theorem bones_releaseWithin (fuel : Nat) (heap : Heap Tag) (object : Nat) :
    (heap.releaseWithin fuel object).bones = heap.bones := by
  induction fuel generalizing heap object with
  | zero => rfl
  | succ fuel ih =>
    rw [Heap.releaseWithin]
    split
    · rfl
    · next cell found =>
      have less := @bones_put _ heap object cell found { cell with count := cell.count - 1 } rfl rfl
      generalize heap.put object { cell with count := cell.count - 1 } = reduced at less ⊢
      have rest :
          (cell.holds.elim reduced (Heap.releaseWithin fuel reduced)).bones = heap.bones := by
        cases cell.holds with
        | none => exact less
        | some held => exact (ih reduced held).trans less
      dsimp only
      split_ifs
      · rfl
      · exact rest
      · exact less

@[simp] theorem bones_release (heap : Heap Tag) (object : Nat) :
    (heap.release object).bones = heap.bones :=
  bones_releaseWithin _ heap object

/-- Changing a tag changes nothing that is held. -/
theorem exists_bone_of_retag {change : Tag → Tag} {bone : Tag × Option Nat}
    (member : bone ∈ (heap.retag object change).bones) :
    ∃ before ∈ heap.bones, before.2 = bone.2 ∧ (bone.1 = before.1 ∨ bone.1 = change before.1) := by
  rw [Heap.retag] at member
  cases found : heap.cells[object]? with
  | none =>
    rw [found] at member
    exact ⟨bone, member, rfl, .inl rfl⟩
  | some cell =>
    rw [found] at member
    obtain ⟨changed, isChanged, rfl⟩ := List.mem_map.mp member
    rcases List.mem_or_eq_of_mem_set isChanged with old | rfl
    · exact ⟨_, List.mem_map_of_mem old, rfl, .inl rfl⟩
    · exact ⟨_, List.mem_map_of_mem (List.mem_of_getElem? found), rfl, .inr rfl⟩

/-- A bone is a cell without its count. -/
theorem getElem?_bones :
    heap.bones[object]? = heap.cells[object]?.map fun cell => (cell.tag, cell.holds) :=
  List.getElem?_map

/-- An object of a heap is one of any heap that extends it. -/
theorem exists_later (grown : heap.bones <+: next.bones) (found : heap.cells[object]? = some cell) :
    ∃ later, next.cells[object]? = some later ∧
      later.tag = cell.tag ∧ later.holds = cell.holds := by
  have here : next.bones[object]? = some (cell.tag, cell.holds) := by
    obtain ⟨bound, rfl⟩ := List.getElem?_eq_some_iff.mp found
    have shared := List.prefix_iff_getElem?.mp grown object (by simpa [Heap.bones] using bound)
    simpa [Heap.bones] using shared
  rw [getElem?_bones, Option.map_eq_some_iff] at here
  obtain ⟨later, isLater, same⟩ := here
  exact ⟨later, isLater, congrArg Prod.fst same, congrArg Prod.snd same⟩

end Bones

/-- Lists that agree at every index up to a test give one list of answers, up to failures at
the end. -/
theorem answers_eq {α : Type} {test : α → Bool} {first second : List α}
    (same : ∀ index : Nat, first[index]?.any test = second[index]?.any test) :
    first.map test ++ List.replicate second.length false =
      second.map test ++ List.replicate first.length false := by
  have answer : ∀ (members : List α) (count index : Nat)
      (bound : index < (members.map test ++ List.replicate count false).length),
      (members.map test ++ List.replicate count false)[index] = members[index]?.any test := by
    intro members count index bound
    rw [List.getElem_append]
    split
    · rename_i inside
      rw [List.length_map] at inside
      rw [List.getElem_map, List.getElem?_eq_getElem inside, Option.any_some]
    · rename_i outside
      rw [List.length_map, Nat.not_lt] at outside
      rw [List.getElem_replicate, List.getElem?_eq_none outside, Option.any_none]
  refine List.ext_getElem ?_ fun index left right => ?_
  · simp only [List.length_append, List.length_map, List.length_replicate]
    exact Nat.add_comm _ _
  · rw [answer, answer, same]

/-- Lists that agree at every index up to a test have as many members that pass it. -/
theorem countP_eq_of_getElem? {α : Type} {test : α → Bool} {first second : List α}
    (same : ∀ index : Nat, first[index]?.any test = second[index]?.any test) :
    first.countP test = second.countP test := by
  have counts := congrArg (List.countP id) (answers_eq same)
  simpa [List.countP_append, List.countP_map, List.countP_replicate] using counts

/-- Whether an object is alive and of a kind that its tag and what it holds decide. -/
theorem any_alive_eq (grown : heap.bones <+: next.bones) {index : Nat}
    (alive : index < next.cells.length → (0 < next.count index ↔ 0 < heap.count index))
    (kept : Tag → Option Nat → Prop) [∀ tag holds, Decidable (kept tag holds)] :
    next.cells[index]?.any (fun cell => 0 < cell.count ∧ kept cell.tag cell.holds) =
      heap.cells[index]?.any (fun cell => 0 < cell.count ∧ kept cell.tag cell.holds) := by
  cases found : heap.cells[index]? with
  | some cell =>
    obtain ⟨later, foundLater, tag, holds⟩ := exists_later grown found
    have same := alive (List.getElem?_eq_some_iff.mp foundLater).1
    rw [count_of_found found, count_of_found foundLater] at same
    simp [foundLater, same, tag, holds]
  | none =>
    cases foundLater : next.cells[index]? with
    | none => rfl
    | some later =>
      have same := alive (List.getElem?_eq_some_iff.mp foundLater).1
      rw [count_of_found foundLater, count_of_length_le (List.getElem?_eq_none_iff.mp found)]
        at same
      have dead : ¬ 0 < later.count := fun positive => Nat.lt_irrefl 0 (same.mp positive)
      simp [dead]

/-- The references held outside determine every count: two balanced heaps with the same
references, one an extension of the other, have the same live objects. -/
theorem Balanced.count_eq (before : Balanced heap refs) (after : Balanced next refs)
    (grown : heap.bones <+: next.bones) (object : Nat) : next.count object = heap.count object := by
  -- Objects hold older ones, so the induction goes from the youngest object down.
  induction distance : next.cells.length - object using Nat.strongRecOn
    generalizing object with
  | ind distance ih =>
    rw [before.counts, after.counts]
    congr 1
    refine countP_eq_of_getElem? fun index => ?_
    have unheld : ∀ {heap : Heap Tag} {refs : List Nat}, Balanced heap refs → index ≤ object →
        heap.cells[index]?.any (fun cell => 0 < cell.count ∧ cell.holds = some object) = false := by
      intro heap refs balanced early
      cases found : heap.cells[index]? with
      | none => rfl
      | some cell =>
        have ordered := balanced.ordered index cell found object
        have other : cell.holds ≠ some object := fun holds => by
          have older := ordered holds
          omega
        simp [other]
    rcases Nat.lt_or_ge object index with younger | early
    · refine any_alive_eq grown (fun bound => ?_) fun _ holds => holds = some object
      rw [ih (next.cells.length - index) (by omega) index rfl]
    · rw [unheld after early, unheld before early]

section FindLive

variable {test : Tag → Bool}

/-- What is found is alive and passes the test. -/
theorem findLive_eq_some (found : heap.findLive test = some object) :
    ∃ cell, heap.cells[object]? = some cell ∧ 0 < cell.count ∧ test cell.tag = true := by
  obtain ⟨bound, passes, -⟩ := List.findIdx?_eq_some_iff_getElem.mp found
  rw [decide_eq_true_eq] at passes
  exact ⟨_, List.getElem?_eq_getElem bound, passes.1, passes.2⟩

/-- Nothing is found if no live object passes the test. -/
theorem findLive_eq_none_iff :
    heap.findLive test = none ↔ ∀ cell ∈ heap.cells, 0 < cell.count → test cell.tag = false := by
  simp [Heap.findLive, List.findIdx?_eq_none_iff]

/-- A live object that passes the test is found, or an older one is. -/
theorem findLive_isSome (found : heap.cells[object]? = some cell) (alive : 0 < cell.count)
    (passes : test cell.tag = true) : (heap.findLive test).isSome := by
  by_contra absent
  rw [Option.not_isSome_iff_eq_none, findLive_eq_none_iff] at absent
  have fails := absent cell (List.mem_of_getElem? found) alive
  rw [passes] at fails
  cases fails

/-- A search only depends on where the test holds. -/
theorem findIdx?_eq_of_getElem? {α : Type} {test : α → Bool} {first second : List α}
    (same : ∀ index : Nat, first[index]?.any test = second[index]?.any test) :
    first.findIdx? test = second.findIdx? test := by
  have indices := congrArg (List.findIdx? id) (answers_eq same)
  simpa [List.findIdx?_append, List.findIdx?_map, List.findIdx?_replicate] using indices

/-- Look-ups depend only on the tags and on which objects are alive. -/
theorem findLive_eq_of_alive (grown : heap.bones <+: next.bones)
    (alive : ∀ object, 0 < next.count object ↔ 0 < heap.count object) :
    next.findLive test = heap.findLive test := by
  exact findIdx?_eq_of_getElem? fun index =>
    any_alive_eq grown (fun _ => alive index) fun tag _ => test tag = true

/-- One more reference, to the object only. -/
theorem count_addRef (alive : 0 < heap.count object) :
    (heap.addRef object).count other = heap.count other + if other = object then 1 else 0 := by
  obtain ⟨cell, found⟩ := exists_cell alive
  rw [Heap.addRef, found]
  dsimp only
  rw [count_put found]
  split_ifs with same
  · rw [same, count_of_found found]
  · rfl

/-- One more reference on a live object changes no look-up. -/
theorem findLive_addRef (alive : 0 < heap.count object) :
    (heap.addRef object).findLive test = heap.findLive test := by
  refine findLive_eq_of_alive (by simp) fun other => ?_
  rw [count_addRef alive]
  split_ifs with same
  · subst same
    omega
  · rfl

/-- Giving back one of several references. -/
theorem release_eq_put (found : heap.cells[object]? = some cell) (spare : 2 ≤ cell.count) :
    heap.release object = heap.put object { cell with count := cell.count - 1 } := by
  rw [Heap.release, Heap.releaseWithin, found]
  dsimp only
  rw [if_neg (by omega), if_neg (by omega)]

/-- One reference less, if another one is left. -/
theorem count_release (spare : 2 ≤ heap.count object) :
    (heap.release object).count other = heap.count other - if other = object then 1 else 0 := by
  obtain ⟨cell, found⟩ := exists_cell (Nat.lt_of_lt_of_le Nat.two_pos spare)
  rw [count_of_found found] at spare
  rw [release_eq_put found spare, count_put found]
  split_ifs with same
  · rw [same, count_of_found found]
  · rfl

/-- Giving back the only reference on an object that holds none. -/
theorem count_release_last (found : heap.cells[object]? = some cell) (last : cell.count = 1)
    (holds : cell.holds = none) :
    (heap.release object).count other = if other = object then 0 else heap.count other := by
  rw [Heap.release, Heap.releaseWithin, found]
  dsimp only
  rw [if_neg (by omega), if_pos last, holds, Option.elim_none, count_put found, last]

/-- No object holds a reference on this one. -/
def Unheld (heap : Heap Tag) (object : Nat) : Prop :=
  ∀ cell ∈ heap.cells, cell.holds ≠ some object

/-- A release counts only the objects that a chain of holders leads to. -/
theorem count_releaseWithin_unheld (fuel : Nat) (unheld : Unheld heap other)
    (different : other ≠ object) :
    (heap.releaseWithin fuel object).count other = heap.count other := by
  induction fuel generalizing heap object with
  | zero => rfl
  | succ fuel ih =>
    rw [Heap.releaseWithin]
    cases found : heap.cells[object]? with
    | none => rfl
    | some cell =>
      dsimp only
      have member := List.mem_of_getElem? found
      have less := @count_put _ heap object other cell found { cell with count := cell.count - 1 }
      rw [if_neg different] at less
      have still : Unheld (heap.put object { cell with count := cell.count - 1 }) other := by
        intro changed isChanged
        rcases List.mem_or_eq_of_mem_set isChanged with old | rfl
        · exact unheld changed old
        · exact unheld cell member
      generalize heap.put object { cell with count := cell.count - 1 } = reduced at less still ⊢
      have rest : (cell.holds.elim reduced (Heap.releaseWithin fuel reduced)).count other =
          heap.count other := by
        cases holds : cell.holds with
        | none => exact less
        | some held =>
          have apart : other ≠ held := fun same => unheld cell member (same ▸ holds)
          exact (ih still apart).trans less
      split_ifs
      · rfl
      · exact rest
      · exact less

/-- The release of another object spares what nothing holds. -/
theorem count_release_unheld (unheld : Unheld heap other) (different : other ≠ object) :
    (heap.release object).count other = heap.count other :=
  count_releaseWithin_unheld _ unheld different

/-- A new object has one reference, and takes one to what it holds. -/
theorem count_alloc {tag : Tag} {holds : Option Nat}
    (alive : ∀ held ∈ holds, 0 < heap.count held) :
    (heap.alloc tag holds).count object =
      if object = heap.cells.length then 1
      else heap.count object + if holds = some object then 1 else 0 := by
  cases holds with
  | none =>
    change (heap.append ⟨tag, 1, none⟩).count object = _
    simp [count_append]
  | some held =>
    change ((heap.addRef held).append ⟨tag, 1, some held⟩).count object = _
    rw [count_append, length_addRef, count_addRef (alive held rfl)]
    simp [eq_comm]

/-- The new object's reference on the object it holds. -/
theorem count_alloc_held {tag : Tag} (alive : 0 < heap.count object) :
    (heap.alloc tag (some object)).count object = heap.count object + 1 := by
  rw [count_alloc (by simpa using alive), if_neg (Nat.ne_of_lt (lt_of_alive alive)), if_pos rfl]

theorem length_alloc (heap : Heap Tag) (tag : Tag) (holds : Option Nat) :
    (heap.alloc tag holds).cells.length = heap.cells.length + 1 := by
  cases holds with
  | none => exact List.length_append
  | some held =>
    change ((heap.addRef held).cells ++ [_]).length = _
    rw [List.length_append, length_addRef, List.length_singleton]

/-- Giving back one of several references changes no look-up. -/
theorem findLive_release (spare : 2 ≤ heap.count object) :
    (heap.release object).findLive test = heap.findLive test := by
  refine findLive_eq_of_alive (by simp) fun other => ?_
  rw [count_release spare]
  split_ifs with same
  · rw [same]
    omega
  · rfl

/-- A new object is found if nothing was before and its tag passes. -/
theorem findLive_alloc {tag : Tag} {holds : Option Nat}
    (alive : ∀ held ∈ holds, 0 < heap.count held) (absent : heap.findLive test = none) :
    (heap.alloc tag holds).findLive test = if test tag then some heap.cells.length else none := by
  have append : ∀ {heap : Heap Tag}, heap.findLive test = none →
      (heap.append ⟨tag, 1, holds⟩).findLive test =
        if test tag then some heap.cells.length else none := by
    intro heap absent
    rw [Heap.findLive, Heap.append, List.findIdx?_append, ← Heap.findLive, absent]
    by_cases passes : test tag = true <;> simp [passes]
  cases holds with
  | none => exact append absent
  | some held =>
    rw [← length_addRef heap held]
    rw [← findLive_addRef (alive held rfl)] at absent
    exact append absent

end FindLive

end Verification.RefCount
