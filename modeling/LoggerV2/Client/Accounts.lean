import LoggerV2.Client.Construct

/-!
# What the constructors own

Whatever calls are refused, a constructor that starts from a balanced registry leaves a
balanced one: it owns the object it returns, and possibly leaks references it took. When
nothing is refused, it succeeds and leaks nothing but the reference a telemetry object
keeps.
-/

namespace LoggerV2

open Verification Verification.RefCount

/-- The references a constructor hands to its caller. -/
def owned : Except Text Nat → List Nat
  | .ok object => [object]
  | .error _ => []

variable {granted : P7Call → Bool} {world : World} {refs : List Nat}

/-- A look-up finds a live object of the kind that is shared under the name. -/
theorem findShared_eq_some {registry : Registry} {kind : Kind} {name : Text} {object : Nat}
    (found : registry.findShared kind name = some object) :
    ∃ cell, registry.cells[object]? = some cell ∧ 0 < cell.count ∧
      cell.tag = ⟨kind, some name⟩ := by
  obtain ⟨⟨⟨cellKind, sharedAs⟩, count, holds⟩, isCell, alive, passes⟩ := findLive_eq_some found
  obtain ⟨rfl, rfl⟩ := of_decide_eq_true passes
  exact ⟨_, isCell, alive, rfl⟩

/-- What is found is alive. -/
theorem alive_of_findShared {registry : Registry} {kind : Kind} {name : Text} {object : Nat}
    (found : registry.findShared kind name = some object) : 0 < registry.count object := by
  obtain ⟨cell, isCell, alive, -⟩ := findShared_eq_some found
  rwa [count_of_found isCell]

/-- The tag of an object, dead or alive. -/
def Registry.tag? (registry : Registry) (object : Nat) : Option P7Tag :=
  registry.bones[object]?.map Prod.fst

section Tags

variable {registry next : Registry} {object : Nat}

/-- The tag is that of the cell. -/
theorem tag?_eq {cell : Cell P7Tag} (found : registry.cells[object]? = some cell) :
    registry.tag? object = some cell.tag := by
  rw [Registry.tag?, getElem?_bones, found]
  rfl

/-- Tags do not depend on counts. -/
theorem tag?_of_bones (same : next.bones = registry.bones) :
    next.tag? object = registry.tag? object := by
  rw [Registry.tag?, same, Registry.tag?]

/-- Only the new object gets the tag. -/
theorem tag?_alloc (tag : P7Tag) (holds : Option Nat) :
    Registry.tag? (registry.alloc tag holds) object =
      if object = registry.cells.length then some tag else registry.tag? object := by
  have length : registry.bones.length = registry.cells.length := List.length_map _
  rw [Registry.tag?, bones_alloc, ← length]
  split_ifs with last
  · rw [last, List.getElem?_concat_length]
    rfl
  · rcases Nat.lt_or_gt_of_ne last with before | beyond
    · rw [List.getElem?_append_left before, Registry.tag?]
    · have longer : (registry.bones ++ [(tag, holds)]).length ≤ object := by
        rw [List.length_append, List.length_singleton]
        omega
      rw [List.getElem?_eq_none longer, Registry.tag?,
        List.getElem?_eq_none (Nat.le_of_lt beyond)]

/-- What was not created has no tag. -/
theorem tag?_of_length_le (beyond : registry.cells.length ≤ object) :
    registry.tag? object = none := by
  rw [Registry.tag?, getElem?_bones, List.getElem?_eq_none beyond]
  rfl

/-- Creating objects keeps the tags there are. -/
theorem tag?_grown {tag : P7Tag} (found : registry.tag? object = some tag)
    (grown : registry.bones <+: next.bones) : next.tag? object = some tag := by
  obtain ⟨bone, isBone, rfl⟩ := Option.map_eq_some_iff.mp found
  obtain ⟨bound, rfl⟩ := List.getElem?_eq_some_iff.mp isBone
  rw [Registry.tag?, List.prefix_iff_getElem?.mp grown object bound, Option.map_some]

/-- A look-up finds an object by its tag. -/
theorem tag?_of_findShared {kind : Kind} {name : Text}
    (found : registry.findShared kind name = some object) :
    registry.tag? object = some ⟨kind, some name⟩ := by
  obtain ⟨cell, isCell, -, tag⟩ := findShared_eq_some found
  rw [tag?_eq isCell, tag]

end Tags

/-- Sharing an object that was just created, under a name not taken. -/
theorem answer_share_created {kind : Kind} {name : Text} {holds : Option Nat}
    (alive : ∀ held ∈ holds, 0 < world.registry.count held)
    (absent : world.registry.findShared kind name = none) :
    World.answer granted (.share kind world.registry.cells.length name)
        { world with registry := world.registry.alloc ⟨kind, none⟩ holds } =
      if granted (.share kind world.registry.cells.length name) then
        (true, { world with registry := world.registry.alloc ⟨kind, some name⟩ holds })
      else (false, { world with registry := world.registry.alloc ⟨kind, none⟩ holds }) := by
  have still : (world.registry.alloc (⟨kind, none⟩ : P7Tag) holds).findLive
      (fun tag => tag.kind = kind ∧ tag.sharedAs = some name) = none := by
    rw [findLive_alloc alive absent]
    simp
  simp only [World.answer, Registry.findShared, still, and_true, retag_alloc]

/-- Registering handlers touches no object. -/
theorem registerSignalHandlers_only (signals : List Signal) :
    (registerSignalHandlers signals).Only Registers := by
  induction signals with
  | nil => exact .pure ()
  | cons signal rest ih =>
    refine .bind (.perform trivial) fun granted => ?_
    split
    · exact ih
    · exact .fail _

/-- Neither does the whole of `RegisterUnixCrashHandlers`. -/
theorem registerUnixCrashHandlers_only : registerUnixCrashHandlers.Only Registers := by
  have rest : (do
      if ← p7 .atexit then registerSignalHandlers handledSignals
      else .fail (ascii "Registration of atexit function for signal processing") :
        P7Program Unit).Only Registers := by
    refine .bind (.perform trivial) fun granted => ?_
    split
    · exact registerSignalHandlers_only _
    · exact .fail _
  refine .bind (.perform trivial) fun data => ?_
  dsimp only
  split
  · exact .bind (.perform trivial) fun _ => rest
  · exact rest

/-- So the registry stays as it is. -/
theorem registerUnixCrashHandlers_registry (world : World) :
    (registerUnixCrashHandlers.run (World.answer granted) world).2.registry = world.registry := by
  have keeps : ∀ request, Registers request → ∀ middle : World, middle.registry = world.registry →
      (World.answer granted request middle).2.registry = world.registry :=
    fun request registers middle same => (registers.registry middle).trans same
  exact registerUnixCrashHandlers_only.run_preserves keeps rfl

/-- What a run owns in the end, beside what was owned before. -/
def Owns (refs : List Nat) (ended : Except Text Nat × World) : Prop :=
  ∃ leaked, Balanced ended.2.registry (owned ended.1 ++ leaked ++ refs)

/-- What was leaked before is leaked in the end. -/
theorem Owns.leak {leaked : List Nat} {ended : Except Text Nat × World}
    (owns : Owns (leaked ++ refs) ended) : Owns refs ended := by
  obtain ⟨further, balanced⟩ := owns
  refine ⟨further ++ leaked, ?_⟩
  simpa only [List.append_assoc] using balanced

/-- What a constructor does last with a new object, whatever is refused: it changes only
counts, and takes the references `kept`. -/
def Keeps (retain : Nat → P7Program Unit) (kept : Nat → List Nat) : Prop :=
  ∀ (granted : P7Call → Bool) (object : Nat) (refs : List Nat) (world : World),
    Balanced world.registry (object :: refs) →
      ∃ registry, (retain object).run (World.answer granted) world =
          (.ok (), { world with registry }) ∧
        Balanced registry (object :: kept object ++ refs) ∧
        registry.bones = world.registry.bones

/-- A client and a trace take no reference of their own. -/
theorem keeps_nothing : Keeps (fun _ => pure ()) fun _ => [] :=
  fun _ _ _ world balanced => ⟨world.registry, rfl, balanced, rfl⟩

/-- A telemetry object takes one. -/
theorem keeps_addRef : Keeps (fun object => p7 (.addRef object)) fun object => [object] := by
  intro granted object refs world balanced
  exact ⟨_, rfl, balanced.addRef (balanced.alive_of_mem List.mem_cons_self), bones_addRef _ _⟩

/-- A new object is shared and returned, or leaked. -/
theorem owns_createShared {kind : Kind} {create : P7Program (Option Nat)}
    {createFailed shareFailed name : Text}
    {retain : Nat → P7Program Unit} {kept : Nat → List Nat} {reply : Option Nat} {middle : World}
    (created : create.run (World.answer granted) world = (.ok reply, middle))
    (balanced : Balanced middle.registry (reply.toList ++ refs))
    (keeps : Keeps retain kept) :
    Owns refs ((createShared kind create createFailed shareFailed retain name).run
      (World.answer granted) world) := by
  rw [createShared, Program.run_bind, created]
  cases reply with
  | none => exact ⟨[], balanced⟩
  | some object =>
    dsimp only
    rw [run_p7_bind]
    rcases answer_share_cases granted kind object (cStr name) middle with refused | shared
    · rw [refused]
      exact ⟨[object], balanced⟩
    · rw [shared]
      have retagged := @Balanced.retag _ _ object _ balanced fun tag : P7Tag =>
        { tag with sharedAs := some (cStr name) }
      obtain ⟨registry, ran, owns, -⟩ := keeps granted object refs { middle with
        registry := middle.registry.retag object
          fun tag => { tag with sharedAs := some (cStr name) } } retagged
      refine ⟨kept object, ?_⟩
      simp only [if_true, Program.run_bind, ran, Program.run_pure]
      exact owns

/-- `Client(name)` leaves its client to the caller. -/
theorem Client.owns_construct (name : Text) (balanced : Balanced world.registry refs) :
    Owns refs ((Client.construct name).run (World.answer granted) world) := by
  rw [Client.construct, run_p7_bind]
  cases found : world.registry.findShared .client (cStr name) with
  | some client =>
    rw [answer_getShared_some found]
    exact ⟨[], balanced.addRef (alive_of_findShared found)⟩
  | none =>
    rw [answer_getShared_none found]
    dsimp only
    rw [Program.run_bind]
    have registry := @registerUnixCrashHandlers_registry granted world
    rcases ended : registerUnixCrashHandlers.run (World.answer granted) world
      with ⟨error | _, middle⟩ <;> rw [ended] at registry <;> dsimp only at registry ⊢
    · exact ⟨[], registry ▸ balanced⟩
    · rw [← registry] at balanced
      rw [run_p7_bind]
      refine owns_createShared rfl ?_ keeps_nothing
      by_cases grants : granted (.createClient (cStr (createClientConfig middle.flags))) = true
      · simp only [World.answer, grants, if_true]
        exact balanced.alloc (by simp)
      · simp only [World.answer, grants]
        exact balanced

/-- A local client gives its reference back, however the block ends. -/
theorem owns_ensure {body : P7Program Nat} {client : Nat}
    (owns : Owns (client :: refs) (body.run (World.answer granted) world)) :
    Owns refs ((body.ensure (destruct (some client))).run (World.answer granted) world) := by
  obtain ⟨leaked, balanced⟩ := owns
  rw [Program.run_ensure]
  exact ⟨leaked, (balanced.perm List.perm_middle).release⟩

/-- `Log(name)` and `Telemetry(name)` leave their object to the caller, and what it takes. -/
theorem owns_constructChannel {kind : Kind} {createFailed shareFailed : Text}
    {retain : Nat → P7Program Unit} {kept : Nat → List Nat} (name : Text)
    (balanced : Balanced world.registry refs)
    (keeps : Keeps retain kept) :
    Owns refs ((constructChannel kind createFailed shareFailed retain name).run
      (World.answer granted) world) := by
  rw [constructChannel, run_p7_bind]
  cases found : world.registry.findShared kind (cStr name) with
  | some channel =>
    rw [answer_getShared_some found]
    exact ⟨[], balanced.addRef (alive_of_findShared found)⟩
  | none =>
    rw [answer_getShared_none found]
    dsimp only
    rw [Program.run_bind]
    obtain ⟨leaked, middle⟩ := @Client.owns_construct granted world refs (ascii "main") balanced
    rcases ended : (Client.construct (ascii "main")).run (World.answer granted) world
      with ⟨error | client, last⟩ <;> rw [ended] at middle <;> dsimp only at middle ⊢
    · exact ⟨leaked, middle⟩
    · have alive := middle.alive_of_mem (List.mem_cons_self : client ∈ client :: (leaked ++ refs))
      have body : Owns (client :: (leaked ++ refs))
          ((createShared kind (p7 (.createChannel kind client (cStr name))) createFailed
            shareFailed retain name).run (World.answer granted) last) := by
        refine owns_createShared rfl ?_ keeps
        by_cases grants : granted (.createChannel kind client (cStr name)) = true
        · simp only [World.answer, grants, if_true]
          exact middle.alloc (by simpa using alive)
        · simp only [World.answer, grants]
          exact middle
      exact (owns_ensure body).leak

/-- Every constructor by name owns what it returns, whatever is refused. -/
theorem owns_construct (kind : Kind) (name : Text) (balanced : Balanced world.registry refs) :
    Owns refs ((construct kind name).run (World.answer granted) world) := by
  cases kind with
  | client => exact Client.owns_construct name balanced
  | trace =>
    rw [construct, Log.construct]
    exact owns_constructChannel name balanced keeps_nothing
  | telemetry =>
    rw [construct, Telemetry.construct]
    exact owns_constructChannel name balanced keeps_addRef

end LoggerV2
