import LoggerV2.Client.Contracts
import LoggerV2.Handles.Plain

/-!
# Handles are names

Without copies and moves, and while P7 refuses nothing, a process is what its handles were
constructed for: `Names` has no objects and no counts. Every run of the process is a run
over names (`plain_run_refines`); the names that are in use are those that are shared.
-/

namespace LoggerV2

open Verification Verification.RefCount

/-- A handle, by what it was constructed for. -/
structure NamedHandle where
  kind : Kind
  name : Option Text
deriving DecidableEq, Repr

/-- A process as its user sees it. `telemetry` are the names that telemetry objects were ever
constructed by. -/
structure Names where
  handles : List (Option NamedHandle)
  telemetry : List Text
deriving DecidableEq, Repr

namespace Names

def initial : Names := ⟨[], []⟩

def handle? (names : Names) (index : Nat) : Option NamedHandle := names.handles[index]?.join

def put (names : Names) (index : Nat) (slot : Option NamedHandle) : Names :=
  { names with handles := names.handles.set index slot }

/-- What an operation means. Copies and moves mean nothing here. -/
def apply (names : Names) : Op → Names
  | .default kind => { names with handles := names.handles ++ [some ⟨kind, none⟩] }
  | .named kind name _ =>
    { handles := names.handles ++ [some ⟨kind, some (cStr name)⟩]
      telemetry :=
        if kind = .telemetry then names.telemetry.insert (cStr name) else names.telemetry }
  | .swap first second =>
    match names.handle? first, names.handle? second with
    | some one, some two =>
      (names.put first (some { one with name := two.name })).put second
        (some { two with name := one.name })
    | _, _ => names
  | .destroy index => names.put index none
  | .copyConstruct _ | .moveConstruct _ | .copyAssign _ _ | .moveAssign _ _ => names

/-- A channel is open: a log that somebody holds, or any telemetry object. -/
def HasChannel (names : Names) : Prop :=
  (∃ slot ∈ names.handles, ∃ handle ∈ slot, handle.kind = .trace ∧ handle.name.isSome) ∨
    names.telemetry ≠ []

/-- Somebody holds a handle by the name, or it is a telemetry object, or the client of a
channel. -/
def InUse (names : Names) (kind : Kind) (name : Text) : Prop :=
  some ⟨kind, some name⟩ ∈ names.handles ∨ kind = .telemetry ∧ name ∈ names.telemetry ∨
    (kind = .client ∧ name = mainName) ∧ names.HasChannel

instance (names : Names) : Decidable names.HasChannel :=
  inferInstanceAs (Decidable (_ ∨ _))

instance (names : Names) (kind : Kind) (name : Text) : Decidable (names.InUse kind name) :=
  inferInstanceAs (Decidable (_ ∨ _))

end Names

/-- Runs over names. -/
def nameSystem : System Names Op where
  Initial names := names = Names.initial
  Step names op next := Plain op ∧ next = names.apply op

section Exact

variable {registry : Registry} {owned : Multiset Owned} {world last : World} {kind : Kind}
  {name : Text}

/-- A new object that is shared at once. -/
theorem Accounted.create (accounted : Accounted registry owned) {holds : Option Nat}
    (alive : ∀ held ∈ holds, 0 < registry.count held)
    (main : ∀ held ∈ holds, kind ≠ .client ∧ registry.tag? held = some mainTag)
    (absent : registry.findShared kind name = none) :
    Accounted (registry.alloc ⟨kind, some name⟩ holds)
      ({⟨registry.cells.length, ⟨kind, some name⟩⟩} + owned) := by
  have still : Registry.findShared (registry.alloc ⟨kind, none⟩ holds) kind name = none := by
    rw [Registry.findShared, findLive_alloc alive absent]
    simp
  have made : Accounted (registry.alloc ⟨kind, none⟩ holds)
      ({⟨registry.cells.length, ⟨kind, none⟩⟩} + owned) := accounted.alloc alive main
  have shared := made.share still
  rwa [retag_alloc] at shared

/-- No telemetry object was created or renamed. -/
def SameTelemetry (registry next : Registry) : Prop :=
  ∀ object name, next.tag? object = some ⟨.telemetry, some name⟩ →
    registry.tag? object = some ⟨.telemetry, some name⟩

/-- Counts do not matter. -/
theorem sameTelemetry_of_bones {next : Registry} (same : next.bones = registry.bones) :
    SameTelemetry registry next :=
  fun _ _ tagged => (tag?_of_bones same).symm.trans tagged

/-- Neither do new clients and traces. -/
theorem sameTelemetry_alloc {tag : P7Tag} {holds : Option Nat} (other : tag.kind ≠ .telemetry) :
    SameTelemetry registry (registry.alloc tag holds) := by
  intro object name tagged
  rw [tag?_alloc] at tagged
  split_ifs at tagged
  · cases tagged
    exact absurd rfl other
  · exact tagged

/-- A granted `Client(name)` acquires one reference. -/
theorem Client.exists_accounted (name : Text) (accounted : Accounted world.registry owned) :
    ∃ client last,
      (Client.construct name).run (World.answer allGranted) world = (.ok client, last) ∧
      Accounted last.registry ({⟨client, ⟨.client, some (cStr name)⟩⟩} + owned) ∧
      SameTelemetry world.registry last.registry := by
  cases found : world.registry.findShared .client (cStr name) with
  | some client =>
    refine ⟨client, _, run_construct_hit found, ?_, sameTelemetry_of_bones (bones_addRef _ _)⟩
    exact accounted.addRef (alive_of_findShared found) (tag?_of_findShared found)
  | none =>
    refine ⟨_, _, run_construct_miss found, ?_, sameTelemetry_alloc (by simp)⟩
    exact accounted.create (by simp) (by simp) found

/-- The reference that a new telemetry object keeps. -/
def keptRef (kind : Kind) (name : Text) (object : Nat) : Multiset Owned :=
  if kind = .telemetry then {⟨object, ⟨.telemetry, some name⟩⟩} else 0

/-- What a granted constructor leaves: its reference and, if it created the object, the one the
object keeps. -/
structure Constructs (world : World) (owned : Multiset Owned) (kind : Kind) (name : Text)
    (object : Nat) (last : World) : Prop where
  accounted : Accounted last.registry
    ({⟨object, ⟨kind, some name⟩⟩} + owned +
      if world.registry.findShared kind name = none then keptRef kind name object else 0)
  telemetry : ∀ other given, last.registry.tag? other = some ⟨.telemetry, some given⟩ →
    world.registry.tag? other = some ⟨.telemetry, some given⟩ ∨
      kind = .telemetry ∧ given = name ∧ other = object

/-- A granted `Log(name)` or `Telemetry(name)`; `keep` is what `retain` does. -/
theorem exists_constructs_channel {createFailed shareFailed : Text}
    {retain : Nat → P7Program Unit} {keep : Registry → Nat → Registry} (isChannel : kind ≠ .client)
    (retains : ∀ object world, (retain object).run (World.answer allGranted) world =
      (.ok (), { world with registry := keep world.registry object }))
    (bones : ∀ registry object, (keep registry object).bones = registry.bones)
    (keeps : ∀ registry owned object,
      Accounted registry ({⟨object, ⟨kind, some (cStr name)⟩⟩} + owned) →
      Accounted (keep registry object)
        ({⟨object, ⟨kind, some (cStr name)⟩⟩} + owned + keptRef kind (cStr name) object))
    (accounted : Accounted world.registry owned) :
    ∃ channel last, (constructChannel kind createFailed shareFailed retain name).run
        (World.answer allGranted) world = (.ok channel, last) ∧
      Constructs world owned kind (cStr name) channel last := by
  cases found : world.registry.findShared kind (cStr name) with
  | some channel =>
    refine ⟨channel, _, run_constructChannel_hit found, ?_, ?_⟩
    · rw [if_neg (by simp [found]), add_zero]
      exact accounted.addRef (alive_of_findShared found) (tag?_of_findShared found)
    · exact fun other given tagged => .inl (sameTelemetry_of_bones (bones_addRef _ _) _ _ tagged)
  | none =>
    obtain ⟨client, middle, constructed, owns, same⟩ :=
      Client.exists_accounted (ascii "main") accounted
    have isOwned : (⟨client, mainTag⟩ : Owned) ∈ ({⟨client, mainTag⟩} + owned : Multiset Owned) :=
      Multiset.mem_add.mpr (.inl (Multiset.mem_singleton_self _))
    have alive := owns.alive isOwned
    have still := Client.findShared_construct constructed isChannel found
    have ran := @run_constructChannel_miss world kind createFailed shareFailed name retain client
      middle _ found constructed alive still (retains _ _)
    have created := @Accounted.create middle.registry _ kind (cStr name) owns (some client)
      (by simpa using alive) (by simpa using ⟨isChannel, owns.tagged _ isOwned⟩) still
    have kept := keeps _ _ _ created
    refine ⟨_, _, ran, ?_, ?_⟩
    · rw [if_pos found]
      refine @Accounted.release _ _ client mainTag ?_
      convert kept using 1
      ac_rfl
    · intro other given tagged
      rw [tag?_of_bones (bones_release _ _), tag?_of_bones (bones _ _), tag?_alloc] at tagged
      split_ifs at tagged with last
      · cases tagged
        exact .inr ⟨rfl, rfl, last⟩
      · exact .inl (same other given tagged)

end Exact

/-- A granted construction by name. -/
theorem exists_constructs (kind : Kind) (name : Text) {world : World} {owned : Multiset Owned}
    (accounted : Accounted world.registry owned) :
    ∃ object last, (construct kind name).run (World.answer allGranted) world = (.ok object, last) ∧
      Constructs world owned kind (cStr name) object last := by
  cases kind with
  | client =>
    obtain ⟨client, last, ran, owns, same⟩ := Client.exists_accounted name accounted
    refine ⟨client, last, ran, ?_, fun other given tagged => .inl (same other given tagged)⟩
    simpa [keptRef] using owns
  | trace =>
    refine @exists_constructs_channel _ _ _ _ _ _ _ (fun registry _ => registry) (by decide)
      (fun _ _ => rfl) (fun _ _ => rfl) ?_ accounted
    intro registry owned object created
    simpa [keptRef] using created
  | telemetry =>
    refine @exists_constructs_channel _ _ _ _ _ _ _ Heap.addRef (by decide) (fun _ _ => rfl)
      bones_addRef ?_ accounted
    intro registry owned object created
    have isOwned : (⟨object, ⟨.telemetry, some (cStr name)⟩⟩ : Owned) ∈
        ({⟨object, ⟨.telemetry, some (cStr name)⟩⟩} + owned : Multiset Owned) :=
      Multiset.mem_add.mpr (.inl (Multiset.mem_singleton_self _))
    have more := created.addRef (created.alive isOwned) (created.tagged _ isOwned)
    rwa [add_comm] at more

/-- A handle with the object it points at and the name of that object. -/
structure Slot where
  kind : Kind
  target : Option (Text × Nat)

namespace Slot

/-- The slot as the process has it. -/
def handle (slot : Slot) : Handle := ⟨slot.kind, slot.target.map Prod.snd⟩

/-- The slot as the names have it. -/
def named (slot : Slot) : NamedHandle := ⟨slot.kind, slot.target.map Prod.fst⟩

/-- The reference of the handle. -/
def owned (slot : Slot) : Multiset Owned :=
  slot.target.elim 0 fun target => {⟨target.2, ⟨slot.kind, some target.1⟩⟩}

end Slot

/-- The references of all handles. -/
def ownedBy (slots : List (Option Slot)) : Multiset Owned :=
  (slots.map fun slot => slot.elim 0 Slot.owned).sum

/-- The references that telemetry objects keep. -/
def ownedByTelemetry (kept : List (Text × Nat)) : Multiset Owned :=
  (kept.map fun entry => (⟨entry.2, ⟨.telemetry, some entry.1⟩⟩ : Owned) : List Owned)

/-- The process is what its names say; `slots` and `kept` say which objects the names stand
for. -/
structure Realizes (process : Process) (names : Names) (slots : List (Option Slot))
    (kept : List (Text × Nat)) : Prop where
  handles : process.handles = slots.map (Option.map Slot.handle)
  named : names.handles = slots.map (Option.map Slot.named)
  telemetry : names.telemetry = kept.map Prod.fst
  accounted : Accounted process.world.registry (ownedBy slots + ownedByTelemetry kept)
  complete : ∀ object name, process.world.registry.tag? object = some ⟨.telemetry, some name⟩ →
    (name, object) ∈ kept
  distinct : names.telemetry.Nodup

section Slots

variable {slots : List (Option Slot)} {index : Nat} {slot : Option Slot}

/-- One slot changes. -/
theorem ownedBy_set (found : slots[index]? = some slot) (changed : Option Slot) :
    ownedBy (slots.set index changed) + slot.elim 0 Slot.owned =
      ownedBy slots + changed.elim 0 Slot.owned := by
  induction slots generalizing index with
  | nil => cases found
  | cons head rest ih =>
    cases index with
    | zero =>
      obtain rfl := Option.some.inj found
      simp only [ownedBy, List.set_cons_zero, List.map_cons, List.sum_cons]
      ac_rfl
    | succ index =>
      have rest := ih found
      simp only [ownedBy] at rest
      simp only [ownedBy, List.set_cons_succ, List.map_cons, List.sum_cons, add_assoc, rest]

/-- A new handle adds its reference. -/
theorem ownedBy_append (slot : Slot) :
    ownedBy (slots ++ [some slot]) = slot.owned + ownedBy slots := by
  simp only [ownedBy, List.map_append, List.sum_append, List.map_cons, List.map_nil, List.sum_cons,
    List.sum_nil, add_zero, Option.elim_some]
  exact add_comm _ _

end Slots

namespace Realizes

variable {process : Process} {names : Names} {slots : List (Option Slot)}
  {kept : List (Text × Nat)} {index : Nat}

/-- A process starts as its names say. -/
theorem initial (flags : Flags.Store) : Realizes (Process.initial flags) .initial [] [] :=
  ⟨rfl, rfl, rfl, Accounted.empty, fun _ _ tagged => (by cases tagged), List.nodup_nil⟩

/-- The slot of a live handle. -/
theorem exists_slot (realizes : Realizes process names slots kept) {handle : Handle}
    (found : process.handle? index = some handle) :
    ∃ slot, slots[index]? = some (some slot) ∧ slot.handle = handle ∧
      names.handle? index = some slot.named := by
  rw [Process.handle?, realizes.handles, List.getElem?_map, Option.join_eq_some_iff,
    Option.map_eq_some_iff] at found
  obtain ⟨entry, isEntry, isHandle⟩ := found
  obtain ⟨slot, rfl, rfl⟩ := Option.map_eq_some_iff.mp isHandle
  refine ⟨slot, isEntry, rfl, ?_⟩
  rw [Names.handle?, realizes.named, List.getElem?_map, isEntry]
  rfl

/-- A telemetry object is found exactly if it was constructed once. -/
theorem telemetry_found_iff (realizes : Realizes process names slots kept) (name : Text) :
    process.world.registry.findShared .telemetry name = none ↔ name ∉ names.telemetry := by
  rw [realizes.telemetry, List.mem_map]
  constructor
  · rintro absent ⟨⟨_, object⟩, isKept, rfl⟩
    have owns : (⟨object, ⟨.telemetry, some _⟩⟩ : Owned) ∈ ownedBy slots + ownedByTelemetry kept :=
      Multiset.mem_add.mpr (.inr (Multiset.mem_coe.mpr (List.mem_map_of_mem isKept)))
    rw [realizes.accounted.found owns] at absent
    cases absent
  · intro never
    by_contra isFound
    obtain ⟨object, found⟩ := Option.ne_none_iff_exists'.mp isFound
    exact never ⟨(name, object), realizes.complete object name (tag?_of_findShared found), rfl⟩

/-- A construction by name, whether the name is shared already or not. -/
theorem apply_named (realizes : Realizes process names slots kept) (kind : Kind) (name : Text) :
    ∃ slots kept, Realizes (process.apply (.named kind name allGranted))
      (names.apply (.named kind name allGranted)) slots kept := by
  obtain ⟨object, last, ran, constructs⟩ := exists_constructs kind name realizes.accounted
  have accounted := constructs.accounted
  rw [Process.apply, ran]
  let slot : Slot := ⟨kind, some (cStr name, object)⟩
  have handles : ({ process with world := last }.add ⟨kind, some object⟩).handles =
      (slots ++ [some slot]).map (Option.map Slot.handle) := by
    simp [Process.add, realizes.handles, Slot.handle, slot]
  have named : (names.apply (.named kind name allGranted)).handles =
      (slots ++ [some slot]).map (Option.map Slot.named) := by
    simp [Names.apply, realizes.named, Slot.named, slot]
  have newSlot : ownedBy (slots ++ [some slot]) =
      {⟨object, ⟨kind, some (cStr name)⟩⟩} + ownedBy slots := ownedBy_append slot
  have distinct : (names.apply (.named kind name allGranted)).telemetry.Nodup := by
    rw [Names.apply]
    dsimp only
    split_ifs
    · exact realizes.distinct.insert
    · exact realizes.distinct
  -- Only a telemetry object that is constructed for the first time keeps a reference.
  by_cases fresh : kind = .telemetry ∧ cStr name ∉ names.telemetry
  · obtain ⟨rfl, fresh⟩ := fresh
    have absent := (realizes.telemetry_found_iff (cStr name)).mpr fresh
    refine ⟨_, (cStr name, object) :: kept, handles, named, ?_, ?_, ?_, distinct⟩
    · rw [Names.apply]
      dsimp only
      rw [if_pos rfl, List.insert_of_not_mem fresh, realizes.telemetry, List.map_cons]
    · rw [if_pos absent, keptRef, if_pos rfl] at accounted
      have kept : ownedByTelemetry ((cStr name, object) :: kept) =
          {⟨object, ⟨.telemetry, some (cStr name)⟩⟩} + ownedByTelemetry kept := rfl
      have regroup : ∀ own slots kept : Multiset Owned,
          own + slots + (own + kept) = own + (slots + kept) + own := by
        intro own slots kept
        ac_rfl
      rw [newSlot, kept, regroup]
      exact accounted
    · intro other given tagged
      rcases constructs.telemetry other given tagged with old | ⟨-, rfl, rfl⟩
      · exact List.mem_cons_of_mem _ (realizes.complete other given old)
      · exact List.mem_cons_self
  · have nothing : (if process.world.registry.findShared kind (cStr name) = none then
        keptRef kind (cStr name) object else 0) = 0 := by
      by_cases isTelemetry : kind = .telemetry
      · subst isTelemetry
        have known := fun absent =>
          fresh ⟨rfl, (realizes.telemetry_found_iff (cStr name)).mp absent⟩
        exact if_neg known
      · rw [keptRef, if_neg isTelemetry, ite_self]
    refine ⟨_, kept, handles, named, ?_, ?_, ?_, distinct⟩
    · rw [Names.apply, ← realizes.telemetry]
      split_ifs with isTelemetry
      · exact List.insert_of_mem (by_contra fun absent => fresh ⟨isTelemetry, absent⟩)
      · rfl
    · rw [nothing, add_zero] at accounted
      rw [newSlot, add_assoc]
      exact accounted
    · intro other given tagged
      rcases constructs.telemetry other given tagged with old | ⟨rfl, rfl, rfl⟩
      · exact realizes.complete other given old
      · have known : cStr name ∈ kept.map Prod.fst := by
          rw [← realizes.telemetry]
          exact by_contra fun absent => fresh ⟨rfl, absent⟩
        obtain ⟨⟨_, object⟩, isKept, same⟩ := List.mem_map.mp known
        rw [nothing, add_zero] at accounted
        have isNew := accounted.found (Multiset.mem_add.mpr (.inl (Multiset.mem_singleton_self _)))
        have isOld := accounted.found (Multiset.mem_add.mpr (.inr (Multiset.mem_add.mpr (.inr
          (Multiset.mem_coe.mpr (List.mem_map_of_mem isKept))))))
        dsimp only at same isOld
        rw [same, isNew] at isOld
        obtain rfl := Option.some.inj isOld
        exact same ▸ isKept

/-- A destruction takes the handle's reference and nothing else. -/
theorem apply_destroy (realizes : Realizes process names slots kept)
    (valid : process.Valid (.destroy index)) :
    ∃ slots,
      Realizes (process.apply (.destroy index)) (names.apply (.destroy index)) slots kept := by
  obtain ⟨handle, found⟩ := Option.isSome_iff_exists.mp valid
  obtain ⟨slot, isSlot, rfl, -⟩ := realizes.exists_slot found
  have moved := ownedBy_set isSlot none
  simp only [Option.elim_some, Option.elim_none, add_zero] at moved
  have accounted := realizes.accounted
  rw [← moved] at accounted
  have emptied : ∀ {registry : Registry},
      Accounted registry (ownedBy (slots.set index none) + ownedByTelemetry kept) →
      registry.bones = process.world.registry.bones →
      Realizes ({ process with world := { process.world with registry } }.put index none)
        (names.put index none) (slots.set index none) kept := by
    intro registry accounted same
    refine ⟨?_, ?_, realizes.telemetry, accounted, fun object name tagged => ?_, realizes.distinct⟩
    · rw [List.map_set, ← realizes.handles]
      rfl
    · rw [List.map_set, ← realizes.named]
      rfl
    · exact realizes.complete object name ((tag?_of_bones same).symm.trans tagged)
  refine ⟨slots.set index none, ?_⟩
  rw [Process.apply, found]
  obtain ⟨kind, target⟩ := slot
  cases target with
  | none =>
    refine emptied ?_ rfl
    have nothing : (⟨kind, none⟩ : Slot).owned = 0 := rfl
    rwa [nothing, add_zero] at accounted
  | some target =>
    refine emptied ?_ (bones_release _ _)
    refine @Accounted.release _ _ target.2 ⟨kind, some target.1⟩ ?_
    have regroup : ∀ rest own kept : Multiset Owned, own + (rest + kept) = rest + own + kept := by
      intro rest own kept
      ac_rfl
    rw [regroup]
    exact accounted

/-- Exchanging two targets of one kind exchanges no references. -/
theorem ownedBy_swap {first second : Nat} {one two : Slot} (isOne : slots[first]? = some (some one))
    (isTwo : slots[second]? = some (some two)) (sameKind : one.kind = two.kind) :
    ownedBy ((slots.set first (some { one with target := two.target })).set second
      (some { two with target := one.target })) = ownedBy slots := by
  have ownsOne : Slot.owned { one with target := two.target } = two.owned := by
    rw [Slot.owned, Slot.owned, sameKind]
  have ownsTwo : Slot.owned { two with target := one.target } = one.owned := by
    rw [Slot.owned, Slot.owned, sameKind]
  have away := ownedBy_set isOne (some { one with target := two.target })
  have stillTwo : ∃ slot, (slots.set first (some { one with target := two.target }))[second]? =
      some (some slot) ∧ slot.owned = two.owned := by
    by_cases same : first = second
    · subst same
      exact ⟨_, List.getElem?_set_self (List.getElem?_eq_some_iff.mp isOne).1, ownsOne⟩
    · exact ⟨two, (List.getElem?_set_ne same).trans isTwo, rfl⟩
  obtain ⟨slot, isSlot, ownsSlot⟩ := stillTwo
  have back := ownedBy_set isSlot (some { two with target := one.target })
  simp only [Option.elim_some, ownsOne, ownsTwo, ownsSlot] at away back
  rw [away] at back
  exact add_right_cancel back

/-- A swap exchanges names as it exchanges pointers. -/
theorem apply_swap (realizes : Realizes process names slots kept) {first second : Nat}
    (valid : process.Valid (.swap first second)) :
    ∃ slots, Realizes (process.apply (.swap first second)) (names.apply (.swap first second))
      slots kept := by
  obtain ⟨_, foundOne, _, foundTwo, sameKind, -⟩ := valid
  obtain ⟨one, isOne, rfl, namedOne⟩ := realizes.exists_slot foundOne
  obtain ⟨two, isTwo, rfl, namedTwo⟩ := realizes.exists_slot foundTwo
  refine ⟨(slots.set first (some { one with target := two.target })).set second
    (some { two with target := one.target }), ?_⟩
  rw [Process.apply, foundOne, foundTwo, Names.apply, namedOne, namedTwo]
  refine ⟨?_, ?_, realizes.telemetry, ?_, realizes.complete, realizes.distinct⟩
  · rw [List.map_set, List.map_set, ← realizes.handles]
    rfl
  · rw [List.map_set, List.map_set, ← realizes.named]
    rfl
  · rw [ownedBy_swap isOne isTwo sameKind]
    exact realizes.accounted

/-- Every plain operation does to the process what it means for the names. -/
theorem step (realizes : Realizes process names slots kept) {op : Op} (plain : Plain op)
    (valid : process.Valid op) :
    ∃ slots kept, Realizes (process.apply op) (names.apply op) slots kept := by
  cases op with
  | default kind =>
    refine ⟨slots ++ [some ⟨kind, none⟩], kept, ?_, ?_, realizes.telemetry, ?_, realizes.complete,
      realizes.distinct⟩
    · simp [Process.apply, Process.add, realizes.handles, Slot.handle]
    · simp [Names.apply, realizes.named, Slot.named]
    · have nothing : ownedBy (slots ++ [some ⟨kind, none⟩]) = ownedBy slots :=
        (ownedBy_append _).trans (zero_add _)
      rw [nothing]
      exact realizes.accounted
  | named kind name granted =>
    obtain rfl : granted = allGranted := plain
    exact realizes.apply_named kind name
  | swap first second =>
    obtain ⟨slots, realizes⟩ := realizes.apply_swap valid
    exact ⟨slots, kept, realizes⟩
  | destroy index =>
    obtain ⟨slots, realizes⟩ := realizes.apply_destroy valid
    exact ⟨slots, kept, realizes⟩
  | copyConstruct | moveConstruct | copyAssign | moveAssign => exact plain.elim

end Realizes

/-- Every plain run is a run over names. -/
theorem exists_realizes {flags : Flags.Store} {ops : List Op} {process : Process}
    (run : (plainSystem flags).Run ops process) :
    ∃ names, nameSystem.Run ops names ∧ ∃ slots kept, Realizes process names slots kept := by
  refine @System.Run.simulates _ _ _ _ _ _ nameSystem
    (fun process names => ∃ slots kept, Realizes process names slots kept) ?_ ?_ run
  · rintro _ rfl
    exact ⟨_, rfl, [], [], .initial flags⟩
  · rintro process names op _ ⟨slots, kept, realizes⟩ ⟨plain, valid, rfl⟩
    exact ⟨_, ⟨plain, rfl⟩, realizes.step plain valid⟩

/-- What is to be seen of a process, said by its names. -/
structure Shows (process : Process) (names : Names) : Prop where
  /-- A handle points at the object that is found under its name. -/
  handles : ∀ index, process.handle? index = (names.handle? index).map fun named =>
    ⟨named.kind, named.name.bind (process.world.registry.findShared named.kind)⟩
  /-- A name is shared exactly while it is in use. -/
  shared : ∀ kind name, (process.world.registry.findShared kind name).isSome ↔ names.InUse kind name

section Shows

variable {process : Process} {names : Names} {slots : List (Option Slot)}
  {kept : List (Text × Nat)} {kind : Kind} {name : Text} {object : Nat}

/-- An owned reference is that of some handle. -/
theorem mem_ownedBy_iff {item : Owned} :
    item ∈ ownedBy slots ↔ ∃ slot ∈ slots, ∃ held ∈ slot, item ∈ held.owned := by
  induction slots with
  | nil => simp [ownedBy]
  | cons head rest ih =>
    have split : ownedBy (head :: rest) = head.elim 0 Slot.owned + ownedBy rest := rfl
    rw [split, Multiset.mem_add, ih]
    cases head <;> simp

/-- A handle owns the reference it points with, if it points anywhere. -/
theorem mem_slot_owned_iff {slot : Slot} {item : Owned} :
    item ∈ slot.owned ↔ ∃ target ∈ slot.target, item = ⟨target.2, ⟨slot.kind, some target.1⟩⟩ := by
  obtain ⟨kind, target⟩ := slot
  cases target <;> simp [Slot.owned]

/-- The owners of an object are what uses its name, the channels apart. -/
theorem Realizes.owned_iff (realizes : Realizes process names slots kept) :
    (∃ object, (⟨object, ⟨kind, some name⟩⟩ : Owned) ∈ ownedBy slots + ownedByTelemetry kept) ↔
      some ⟨kind, some name⟩ ∈ names.handles ∨ kind = .telemetry ∧ name ∈ names.telemetry := by
  rw [realizes.named, realizes.telemetry]
  constructor
  · rintro ⟨object, owns⟩
    rcases Multiset.mem_add.mp owns with held | keeps
    · obtain ⟨_, isSlot, slot, rfl, owns⟩ := mem_ownedBy_iff.mp held
      obtain ⟨target, isTarget, same⟩ := mem_slot_owned_iff.mp owns
      refine .inl (List.mem_map.mpr ⟨_, isSlot, ?_⟩)
      cases same
      rw [Option.map_some, Slot.named, Option.mem_def.mp isTarget]
      rfl
    · obtain ⟨entry, isKept, same⟩ := List.mem_map.mp (Multiset.mem_coe.mp keeps)
      cases same
      exact .inr ⟨rfl, List.mem_map_of_mem isKept⟩
  · rintro (held | ⟨rfl, keeps⟩)
    · obtain ⟨_, isSlot, isNamed⟩ := List.mem_map.mp held
      obtain ⟨slot, rfl, same⟩ := Option.map_eq_some_iff.mp isNamed
      obtain ⟨rfl, named⟩ := NamedHandle.mk.inj same
      obtain ⟨target, isTarget, rfl⟩ := Option.map_eq_some_iff.mp named
      exact ⟨target.2, Multiset.mem_add.mpr (.inl (mem_ownedBy_iff.mpr ⟨_, isSlot, slot, rfl,
        mem_slot_owned_iff.mpr ⟨target, isTarget, rfl⟩⟩))⟩
    · obtain ⟨⟨_, object⟩, isKept, rfl⟩ := List.mem_map.mp keeps
      exact ⟨object,
        Multiset.mem_add.mpr (.inr (Multiset.mem_coe.mpr (List.mem_map_of_mem isKept)))⟩

/-- A channel is open exactly if somebody owns a reference to one. -/
theorem Realizes.hasChannel_iff (realizes : Realizes process names slots kept) :
    names.HasChannel ↔ ∃ kind ≠ Kind.client, ∃ name object,
      (⟨object, ⟨kind, some name⟩⟩ : Owned) ∈ ownedBy slots + ownedByTelemetry kept := by
  constructor
  · rintro (⟨_, isSlot, ⟨_, _⟩, rfl, rfl, isSome⟩ | nonempty)
    · obtain ⟨name, rfl⟩ := Option.isSome_iff_exists.mp isSome
      exact ⟨.trace, by decide, name, realizes.owned_iff.mpr (.inl isSlot)⟩
    · obtain ⟨name, known⟩ := List.exists_mem_of_ne_nil _ nonempty
      exact ⟨.telemetry, by decide, name, realizes.owned_iff.mpr (.inr ⟨rfl, known⟩)⟩
  · rintro ⟨kind, isChannel, name, object, owns⟩
    cases kind with
    | client => exact absurd rfl isChannel
    | trace =>
      rcases realizes.owned_iff.mp ⟨object, owns⟩ with held | ⟨other, -⟩
      · exact .inl ⟨_, held, _, rfl, rfl, rfl⟩
      · cases other
    | telemetry =>
      have isKept := realizes.complete object name (realizes.accounted.tagged _ owns)
      refine .inr ?_
      rw [realizes.telemetry]
      exact List.ne_nil_of_mem (List.mem_map_of_mem isKept)

/-- Everything that is owned has a name. -/
theorem exists_name_of_mem {item : Owned} (owns : item ∈ ownedBy slots + ownedByTelemetry kept) :
    ∃ name, item.tag.sharedAs = some name := by
  rcases Multiset.mem_add.mp owns with held | keeps
  · obtain ⟨_, -, slot, rfl, owns⟩ := mem_ownedBy_iff.mp held
    obtain ⟨target, -, rfl⟩ := mem_slot_owned_iff.mp owns
    exact ⟨_, rfl⟩
  · obtain ⟨entry, -, rfl⟩ := List.mem_map.mp (Multiset.mem_coe.mp keeps)
    exact ⟨_, rfl⟩

/-- A name is shared exactly while it is in use. -/
theorem Realizes.shared_iff (realizes : Realizes process names slots kept)
    (channels : MainChannels process.world.registry) :
    (process.world.registry.findShared kind name).isSome ↔ names.InUse kind name := by
  have accounted := realizes.accounted
  rw [Names.InUse, ← or_assoc, ← realizes.owned_iff]
  constructor
  · intro isSome
    obtain ⟨object, found⟩ := Option.isSome_iff_exists.mp isSome
    rcases accounted.owned_or_held (alive_of_findShared found) with ⟨item, owns, rfl⟩ | held
    · have tagged := accounted.tagged item owns
      rw [tag?_of_findShared found, Option.some.injEq] at tagged
      refine .inl ⟨item.object, ?_⟩
      rw [tagged]
      exact owns
    · obtain ⟨holder, cell, isHolder, holderAlive, holds⟩ := held
      obtain ⟨main, ⟨channel, ⟨other, sharedAs⟩⟩, owns, rfl, isChannel⟩ :=
        accounted.owned_holder isHolder holderAlive holds
      obtain ⟨given, rfl : sharedAs = some given⟩ := exists_name_of_mem owns
      rw [tag?_of_findShared found] at main
      cases main
      exact .inr ⟨⟨rfl, rfl⟩, realizes.hasChannel_iff.mpr ⟨other, isChannel, given, _, owns⟩⟩
  · rintro (⟨object, owns⟩ | ⟨⟨rfl, rfl⟩, hasChannel⟩)
    · rw [accounted.found owns]
      rfl
    · obtain ⟨kind, isChannel, name, object, owns⟩ := realizes.hasChannel_iff.mp hasChannel
      exact findShared_main_of_channel accounted.balanced channels isChannel (accounted.found owns)

/-- The object of a handle is the one found under its name. -/
theorem Realizes.handles_eq (realizes : Realizes process names slots kept) (index : Nat) :
    process.handle? index = (names.handle? index).map fun named =>
      ⟨named.kind, named.name.bind (process.world.registry.findShared named.kind)⟩ := by
  rw [Process.handle?, Names.handle?, realizes.handles, realizes.named, List.getElem?_map,
    List.getElem?_map]
  cases isSlot : slots[index]? with
  | none => rfl
  | some slot =>
    cases slot with
    | none => rfl
    | some slot =>
      obtain ⟨kind, target⟩ := slot
      cases target with
      | none => rfl
      | some target =>
        have owns : (⟨target.2, ⟨kind, some target.1⟩⟩ : Owned) ∈
            ownedBy slots + ownedByTelemetry kept :=
          Multiset.mem_add.mpr (.inl (mem_ownedBy_iff.mpr ⟨_, List.mem_of_getElem? isSlot, _, rfl,
            mem_slot_owned_iff.mpr ⟨target, rfl, rfl⟩⟩))
        simp [Slot.handle, Slot.named, realizes.accounted.found owns]

/-- The references that the handles own. -/
theorem Realizes.count_ownedBy (realizes : Realizes process names slots kept) :
    (ownedBy slots).countP (fun item => object = item.object) = process.liveHandles object := by
  rw [Process.liveHandles, realizes.handles]
  generalize slots = slots
  induction slots with
  | nil => rfl
  | cons head rest ih =>
    have split : ownedBy (head :: rest) = head.elim 0 Slot.owned + ownedBy rest := rfl
    rw [split, Multiset.countP_add, ih, List.map_cons, List.countP_cons, Nat.add_comm]
    congr 1
    cases head with
    | none => rfl
    | some slot =>
      obtain ⟨kind, target⟩ := slot
      cases target with
      | none => rfl
      | some target =>
        simp [Slot.owned, Slot.handle, Multiset.countP_eq_card_filter, Multiset.filter_singleton,
          eq_comm, apply_ite]

/-- The object was shared as a telemetry object. -/
def Registry.IsTelemetry (registry : Registry) (object : Nat) : Prop :=
  (registry.tag? object).any fun tag => tag.kind = .telemetry ∧ tag.sharedAs.isSome

instance (registry : Registry) (object : Nat) : Decidable (registry.IsTelemetry object) :=
  inferInstanceAs (Decidable (_ = true))

/-- A telemetry object can be told by its tag. -/
theorem isTelemetry_iff {registry : Registry} :
    registry.IsTelemetry object ↔
      ∃ name, registry.tag? object = some ⟨.telemetry, some name⟩ := by
  rw [Registry.IsTelemetry, Option.any_eq_true]
  constructor
  · rintro ⟨⟨kind, sharedAs⟩, tag, isShared⟩
    obtain ⟨rfl, isSome⟩ := of_decide_eq_true isShared
    obtain ⟨name, rfl⟩ := Option.isSome_iff_exists.mp isSome
    exact ⟨name, tag⟩
  · rintro ⟨name, tag⟩
    exact ⟨_, tag, by simp⟩

/-- The references that telemetry objects keep: each keeps one. -/
theorem Realizes.count_telemetry (realizes : Realizes process names slots kept) :
    (ownedByTelemetry kept).countP (fun item => object = item.object) =
      if process.world.registry.IsTelemetry object then 1 else 0 := by
  have tagged : ∀ entry ∈ kept,
      process.world.registry.tag? entry.2 = some ⟨.telemetry, some entry.1⟩ := by
    intro entry isKept
    exact realizes.accounted.tagged ⟨entry.2, ⟨.telemetry, some entry.1⟩⟩ (Multiset.mem_add.mpr
      (.inr (Multiset.mem_coe.mpr (List.mem_map_of_mem isKept))))
  rw [ownedByTelemetry, Multiset.coe_countP, List.countP_map]
  split_ifs with isTelemetry
  · obtain ⟨name, tag⟩ := isTelemetry_iff.mp isTelemetry
    have once : kept.Nodup := (realizes.telemetry ▸ realizes.distinct).of_map
    rw [← List.count_eq_one_of_mem once (realizes.complete object name tag), List.count]
    refine List.countP_congr fun entry isKept => ?_
    simp only [Function.comp_apply, decide_eq_true_eq, beq_iff_eq]
    constructor
    · rintro rfl
      have same := (tagged entry isKept).symm.trans tag
      simp only [Option.some.injEq, P7Tag.mk.injEq, true_and] at same
      rw [← same]
    · rintro rfl
      rfl
  · refine List.countP_eq_zero.mpr fun entry isKept isObject =>
      isTelemetry (isTelemetry_iff.mpr ⟨entry.1, ?_⟩)
    obtain rfl := of_decide_eq_true isObject
    exact tagged entry isKept

end Shows

variable {flags : Flags.Store} {ops : List Op} {process : Process}

/-- Without copies and moves, and while P7 refuses nothing, the objects of a process do not
matter: every run is a run over names, which say what each handle points at and what is
shared. -/
theorem plain_run_refines (run : (plainSystem flags).Run ops process) :
    ∃ names, nameSystem.Run ops names ∧ Shows process names := by
  obtain ⟨names, named, slots, kept, realizes⟩ := exists_realizes run
  obtain ⟨orderly, -⟩ := orderly_of_plain_run run
  exact ⟨names, named, realizes.handles_eq, fun kind name => realizes.shared_iff orderly.channels⟩

/-- Two logs swap their names, and one of them goes. -/
theorem plain_run_refines_swap :
    ∃ process names, nameSystem.Run [.named .trace (ascii "load") allGranted,
        .named .trace (ascii "save") allGranted, .swap 0 1, .destroy 0] names ∧
      Shows process names := by
  suffices run : ∃ process, (plainSystem Flags.Store.default).Run
      [.named .trace (ascii "load") allGranted, .named .trace (ascii "save") allGranted,
        .swap 0 1, .destroy 0] process by
    obtain ⟨process, run⟩ := run
    exact ⟨process, plain_run_refines run⟩
  refine ⟨_, (System.Run.initial rfl).append ⟨_, ⟨rfl, ?_, rfl⟩, _, ⟨rfl, ?_, rfl⟩, _,
    ⟨trivial, ?_, rfl⟩, _, ⟨trivial, ?_, rfl⟩, rfl⟩⟩
  all_goals decide +kernel

/-- In such a run every object has exactly the references of its handles, those of the live
channels it is the client of, and one more if it is a telemetry object. -/
theorem plain_run_counts (run : (plainSystem flags).Run ops process) (object : Nat) :
    process.world.registry.count object =
      process.liveHandles object + process.world.registry.holders object +
        if process.world.registry.IsTelemetry object then 1 else 0 := by
  obtain ⟨names, -, slots, kept, realizes⟩ := exists_realizes run
  have counted := realizes.accounted.balanced.counts object
  have refs : ((ownedBy slots + ownedByTelemetry kept).map Owned.object).toList.count object =
      process.liveHandles object +
        if process.world.registry.IsTelemetry object then 1 else 0 := by
    rw [← Multiset.coe_count, Multiset.coe_toList, Multiset.count_map,
      ← Multiset.countP_eq_card_filter, Multiset.countP_add, realizes.count_ownedBy,
      realizes.count_telemetry]
  rw [counted, refs, Nat.add_right_comm]

/-- A telemetry object, which nobody has a handle on any more, and its client. -/
theorem plain_run_counts_telemetry :
    ∃ process, (plainSystem Flags.Store.default).Run
        [.named .telemetry (ascii "load") allGranted, .destroy 0] process ∧
      process.world.registry.count 0 = 1 ∧ process.world.registry.count 1 = 1 := by
  suffices run : ∃ process, (plainSystem Flags.Store.default).Run
      [.named .telemetry (ascii "load") allGranted, .destroy 0] process ∧
      ∀ object < 2, process.liveHandles object + process.world.registry.holders object +
        (if process.world.registry.IsTelemetry object then 1 else 0) = 1 by
    obtain ⟨process, run, ones⟩ := run
    exact ⟨process, run, (plain_run_counts run 0).trans (ones 0 (by decide)),
      (plain_run_counts run 1).trans (ones 1 (by decide))⟩
  refine ⟨_, (System.Run.initial rfl).append ⟨_, ⟨rfl, ?_, rfl⟩, _, ⟨trivial, ?_, rfl⟩, rfl⟩, ?_⟩
  all_goals decide +kernel

end LoggerV2
