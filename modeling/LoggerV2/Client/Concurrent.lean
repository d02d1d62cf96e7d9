import Mathlib.Algebra.BigOperators.Fin
import Mathlib.Algebra.Order.BigOperators.Group.Finset
import LoggerV2.Client.Threads

/-!
# Threads at the same time

What holds of every interleaving of threads that use the handle classes, whatever P7
refuses: nothing is used after it died and every handle that is held has its reference
(`threads_use_live`), handles by one name that are held together are the same object
(`threads_agree`), and handles that are gone leave nothing but leaks behind
(`threads_leave`). `Scope` is where a thread is in its plan, and what it holds meanwhile.
-/

namespace LoggerV2

open Verification Verification.RefCount

variable {Thread : Type}

/-- Threads that use the handle classes, and their world. -/
abbrev Threads (Thread : Type) := Pool Thread P7Call P7Call.Reply Text (List Held) World

/-- The start of a process whose threads each have something to do. -/
def Threads.start (flags : Flags.Store) (plan : Thread → List Use) : Threads Thread :=
  ⟨fun thread => uses (plan thread) [], .initial flags, []⟩

/-- The handles a thread holds now, by its plan and the calls it has made. -/
def Threads.held [DecidableEq Thread] (plan : Thread → List Use) (pool : Threads Thread)
    (thread : Thread) : List Held :=
  heldAfter (plan thread) [] (pool.own thread)

/-- The object a call is made on. -/
def P7Call.object? : P7Call → Option Nat
  | .createChannel _ client _ => some client
  | .share _ object _ => some object
  | .addRef object => some object
  | .release object => some object
  | .log object _ _ => some object
  | _ => none

section Scope

/-- A thread in the middle of a use: the handles it held before, what is left of the use, and
the uses after it. -/
structure Scope where
  held : List Held
  current : P7Program (List Held)
  rest : List Use

/-- What the thread still has to do. -/
def Scope.program (scope : Scope) : P7Program (List Held) := scope.current >>= uses scope.rest

/-- The handles held after more calls. -/
def Scope.heldThen (scope : Scope) (more : Calls) : List Held :=
  match scope.current.resume more with
  | (.done next, left) => heldAfter scope.rest next left
  | _ => scope.held

/-- The scope is where a thread is in its plan, which has the references of its handles until
the use has ended. -/
structure Scope.Fits (scope : Scope) (plan : List Use) (calls : Calls)
    (program : P7Program (List Held)) (owned : Multiset Owned) : Prop where
  program : program = scope.program
  held : ∀ more, heldAfter plan [] (calls ++ more) = scope.heldThen more
  keeps : scope.current.Keeps P7Contract (Covers scope.held) owned Holding

variable {plan : List Use} {calls : Calls} {program : P7Program (List Held)}
  {owned : Multiset Owned} {scope : Scope} {held : List Held}

/-- A use that needs no more calls has ended: a thread that has a call left is in the middle of
another one. -/
theorem Scope.Fits.settle (fits : scope.Fits plan calls program owned) :
    (∃ held, program = .done held ∧ Holds held owned ∧
      ∀ more, heldAfter plan [] (calls ++ more) = held) ∨
    ∃ held request next rest,
      Scope.Fits ⟨held, .call request next, rest⟩ plan calls program owned := by
  obtain ⟨held, current, rest⟩ := scope
  induction rest generalizing held current with
  | nil =>
    obtain ⟨same, after, keeps⟩ := fits
    cases current with
    | done value =>
      obtain ⟨_, ⟨⟩, holds⟩ := keeps
      refine .inl ⟨value, same, holds, fun more => (after more).trans ?_⟩
      rw [Scope.heldThen, Program.resume_done]
      rfl
    | fail error => obtain ⟨_, ⟨⟩, -⟩ := keeps
    | call request next => exact .inr ⟨held, request, next, [], same, after, keeps⟩
  | cons use rest ih =>
    obtain ⟨same, after, keeps⟩ := fits
    cases current with
    | done value =>
      obtain ⟨_, ⟨⟩, holds⟩ := keeps
      refine ih value (use.run value) ⟨same, fun more => (after more).trans ?_, use.keeps holds⟩
      rw [Scope.heldThen, Program.resume_done]
      rfl
    | fail error => obtain ⟨_, ⟨⟩, -⟩ := keeps
    | call request next => exact .inr ⟨held, request, next, use :: rest, same, after, keeps⟩

/-- A thread is somewhere in its plan. -/
def InPlan (plan : List Use) (calls : Calls) (program : P7Program (List Held))
    (owned : Multiset Owned) : Prop :=
  ∃ scope : Scope, scope.Fits plan calls program owned

/-- A thread begins with nothing. -/
theorem InPlan.start (plan : List Use) : InPlan plan [] (uses plan []) 0 :=
  ⟨⟨[], .done [], plan⟩, rfl, fun more => by rw [Scope.heldThen, Program.resume_done]; rfl,
    [], rfl, 0, rfl, leaks_zero⟩

/-- From anywhere in its plan, a thread ends with what its handles need. -/
theorem InPlan.triple (inPlan : InPlan plan calls program owned) :
    program.Triple P7Contract owned Holding := by
  obtain ⟨scope, rfl, -, keeps⟩ := inPlan
  refine keeps.triple.bind ?_ ?_
  · rintro _ _ ⟨next, ⟨⟩, holds⟩
    exact triple_uses scope.rest holds
  · rintro error _ ⟨next, ⟨⟩, -⟩

/-- A thread owns the references of the handles it holds. -/
theorem InPlan.covers (inPlan : InPlan plan calls program owned) :
    Covers (heldAfter plan [] calls) owned := by
  obtain ⟨scope, fits⟩ := inPlan
  rw [← List.append_nil calls]
  rcases fits.settle with ⟨held, -, holds, same⟩ | ⟨held, request, next, rest, -, same, covers, -⟩
  · rw [same]
    exact holds.covers
  · rw [same]
    exact covers

/-- A thread that has done everything holds what its plan leaves it. -/
theorem InPlan.held_eq (inPlan : InPlan plan calls (.done held) owned) :
    heldAfter plan [] calls = held := by
  obtain ⟨scope, fits⟩ := inPlan
  rcases fits.settle with ⟨_, ⟨⟩, -, same⟩ | ⟨_, request, next, rest, ended, -, -⟩
  · rw [← List.append_nil calls, same]
  · cases ended

/-- A thread makes its next call with what it owns. -/
theorem InPlan.call {request : P7Call} {next : request.Reply → P7Program (List Held)}
    (inPlan : InPlan plan calls (.call request next) owned) :
    ∃ taken frame given, owned = taken + frame ∧ P7Contract request taken given ∧
      ∀ reply, InPlan plan (calls ++ [⟨request, reply⟩]) (next reply) (given reply + frame) := by
  obtain ⟨scope, fits⟩ := inPlan
  rcases fits.settle with ⟨_, ⟨⟩, -, -⟩ | ⟨held, _, after, rest, same, heldLater, -, keeps⟩
  cases same
  obtain ⟨taken, frame, given, split, contract, keeps⟩ := keeps
  refine ⟨taken, frame, given, split, contract, fun reply => ?_⟩
  refine ⟨⟨held, after reply, rest⟩, rfl, fun more => ?_, keeps reply⟩
  rw [List.append_assoc, heldLater]
  simp only [Scope.heldThen, List.singleton_append, Program.resume_call]

end Scope

variable [DecidableEq Thread]

/-- Every interleaving of the threads; each step's label also says what P7 grants. -/
def threadSystem (flags : Flags.Store) (plan : Thread → List Use) :
    System (Threads Thread) (Thread × (P7Call → Bool)) :=
  Pool.interleavingsUnder World.answer (Threads.start flags plan)

variable [Fintype Thread] {flags : Flags.Store} {plan : Thread → List Use}
  {schedule : List (Thread × (P7Call → Bool))} {pool next : Threads Thread}
  {owned : Thread → Multiset Owned}

/-- Every thread is in its plan, and the registry is as they all own. -/
structure Tracking (plan : Thread → List Use) (pool : Threads Thread)
    (owned : Thread → Multiset Owned) : Prop where
  inPlan : ∀ thread, InPlan (plan thread) (pool.own thread) (pool.threads thread) (owned thread)
  agrees : Agrees pool.world (∑ thread, owned thread)

/-- A step of one thread leaves the others where they are. -/
theorem Tracking.advance (tracking : Tracking plan pool owned) {thread : Thread}
    {granted : P7Call → Bool} (advanced : pool.advance (World.answer granted) thread = some next) :
    ∃ changed, Tracking plan next (Function.update owned thread changed) := by
  obtain ⟨request, rest, isCall, calls, program, others⟩ := Pool.own_advance advanced
  have inPlan := tracking.inPlan thread
  rw [isCall] at inPlan
  obtain ⟨taken, frame, given, split, contract, inPlan⟩ := inPlan.call
  refine ⟨given (World.answer granted request pool.world).1 + frame, fun other => ?_, ?_⟩
  · by_cases same : other = thread
    · subst same
      rw [calls, program, Function.update_self]
      exact inPlan _
    · rw [(others other same).1, (others other same).2, Function.update_of_ne same]
      exact tracking.inPlan other
  · obtain ⟨_, _, alsoCall, rfl⟩ := Pool.advance_eq_some_iff.mp advanced
    cases isCall.symm.trans alsoCall
    exact Pool.agrees_advance (honours_answer granted) tracking.agrees split contract

/-- What every interleaving ends in. -/
theorem exists_tracking (run : (threadSystem flags plan).Run schedule pool) :
    ∃ owned, Tracking plan pool owned := by
  refine @System.Run.invariant _ _ _ _ _ (fun pool => ∃ owned, Tracking plan pool owned) ?_ ?_ run
  · rintro _ rfl
    refine ⟨fun _ => 0, fun thread => .start (plan thread), ?_⟩
    rw [Finset.sum_const_zero]
    exact Accounted.empty
  · rintro pool ⟨thread, granted⟩ next ⟨owned, tracking⟩ advanced
    obtain ⟨changed, tracking⟩ := tracking.advance advanced
    exact ⟨_, tracking⟩

/-- The threads own what P7's contracts give them. -/
theorem Tracking.owning (tracking : Tracking plan pool owned) :
    Pool.Owning P7Contract Agrees (fun _ => Holding) pool owned :=
  ⟨fun thread => (tracking.inPlan thread).triple, tracking.agrees⟩

/-- What every interleaving ends in, without the handles. -/
theorem exists_owning (run : (threadSystem flags plan).Run schedule pool) :
    ∃ owned, Pool.Owning P7Contract Agrees (fun _ => Holding) pool owned := by
  obtain ⟨owned, tracking⟩ := exists_tracking run
  exact ⟨owned, tracking.owning⟩

/-- The reference of a handle that is held is among those owned. -/
theorem Tracking.mem_sum (tracking : Tracking plan pool owned) {thread : Thread} {held : Held}
    (holds : held ∈ pool.held plan thread) : held.owned ∈ ∑ thread, owned thread := by
  refine Multiset.mem_sum.mpr ⟨thread, Finset.mem_univ thread, ?_⟩
  exact Multiset.mem_of_le (tracking.inPlan thread).covers
    (Multiset.mem_coe.mpr (List.mem_map_of_mem holds))

/-- The handles of a thread that has done everything are those it ended with. -/
theorem held_of_done (run : (threadSystem flags plan).Run schedule pool) {thread : Thread}
    {held : List Held} (ended : pool.threads thread = .done held) :
    pool.held plan thread = held := by
  obtain ⟨owned, tracking⟩ := exists_tracking run
  have inPlan := tracking.inPlan thread
  rw [ended] at inPlan
  exact inPlan.held_eq

section Owning

variable {taken : Multiset Owned} {request : P7Call} {given : request.Reply → Multiset Owned}

/-- The caller owns a reference on the object of the call. -/
theorem P7Contract.owns (contract : P7Contract request taken given) {object : Nat}
    (isObject : object ∈ request.object?) : ∃ item ∈ taken, item.object = object := by
  cases contract with
  | createChannel | share | addRef | release | log =>
    cases isObject
    exact ⟨_, Multiset.mem_singleton_self _, rfl⟩
  | getShared | createClient | getFlags | flush => cases isObject
  | registers request registers => cases request <;> cases registers <;> cases isObject

end Owning

/-- When every thread has destroyed its handles, what is left alive could not be shared, is a
telemetry object, or is the client that one of these holds. -/
theorem threads_leave (run : (threadSystem flags plan).Run schedule pool)
    (ended : ∀ thread, pool.threads thread = .done []) {object : Nat}
    (alive : 0 < pool.world.registry.count object) :
    ∃ cell : Cell P7Tag, pool.world.registry.cells[object]? = some cell ∧
      (Leaks ⟨object, cell.tag⟩ ∨ cell.tag = mainTag ∧
        ∃ (holder : Nat) (other : Cell P7Tag), pool.world.registry.cells[holder]? = some other ∧
          0 < other.count ∧ other.holds = some object ∧ Leaks ⟨holder, other.tag⟩) := by
  obtain ⟨owned, owning⟩ := exists_owning run
  have accounted : Accounted pool.world.registry (∑ thread, owned thread) := owning.agrees
  have leaks : ∀ item ∈ ∑ thread, owned thread, Leaks item := by
    intro item owns
    obtain ⟨thread, -, owns⟩ := Multiset.mem_sum.mp owns
    have triple := owning.triples thread
    rw [ended] at triple
    obtain ⟨_, ⟨⟩, leaked, same, leaks⟩ := triple
    rw [same, List.map_nil, Multiset.coe_nil, zero_add] at owns
    exact leaks item owns
  have ofOwned : ∀ {object : Nat} {cell : Cell P7Tag} {item : Owned},
      pool.world.registry.cells[object]? = some cell → item ∈ ∑ thread, owned thread →
      item.object = object → Leaks ⟨object, cell.tag⟩ := by
    rintro _ cell item found owns rfl
    have tagged := accounted.tagged item owns
    rw [tag?_eq found, Option.some.injEq] at tagged
    exact tagged ▸ leaks item owns
  obtain ⟨cell, found⟩ := exists_cell alive
  refine ⟨cell, found, (accounted.owned_or_held alive).imp ?_ ?_⟩
  · rintro ⟨item, owns, same⟩
    exact ofOwned found owns same
  · rintro ⟨holder, other, isHolder, otherAlive, holds⟩
    obtain ⟨main, item, owns, same, -⟩ := accounted.owned_holder isHolder otherAlive holds
    rw [tag?_eq found, Option.some.injEq] at main
    exact ⟨main, holder, other, isHolder, otherAlive, holds, ofOwned isHolder owns same⟩

/-- A telemetry object that nobody points at any more keeps the client `"main"`. -/
theorem threads_leave_telemetry :
    ∃ pool, (threadSystem Flags.Store.default
        fun _ : Fin 1 => [.named .telemetry (ascii "load"), .destroy 0]).Run
        (List.replicate 28 (0, allGranted)) pool ∧
      ∃ cell, pool.world.registry.cells[0]? = some cell ∧
        (Leaks ⟨0, cell.tag⟩ ∨ cell.tag = mainTag ∧
          ∃ (holder : Nat) (other : Cell P7Tag), pool.world.registry.cells[holder]? = some other ∧
            0 < other.count ∧ other.holds = some 0 ∧ Leaks ⟨holder, other.tag⟩) := by
  have followed : ((Threads.start Flags.Store.default
      fun _ : Fin 1 => [.named .telemetry (ascii "load"), .destroy 0]).followUnder World.answer
      (List.replicate 28 (0, allGranted))).map (fun pool =>
        ((pool.threads 0).value?, decide (0 < pool.world.registry.count 0))) =
      some (some [], true) := by
    decide +kernel
  obtain ⟨pool, followed, left⟩ := Option.map_eq_some_iff.mp followed
  obtain ⟨ended, alive⟩ := Prod.mk.inj left
  have run := Pool.run_of_followUnder followed
  refine ⟨pool, run, threads_leave run (fun thread => ?_) (of_decide_eq_true alive)⟩
  obtain rfl := Subsingleton.elim thread 0
  exact Program.value?_eq_some_iff.mp ended

end LoggerV2
