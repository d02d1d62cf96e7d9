import LoggerV2.Library.Traces
import LoggerV2.Client.Contracts
import LoggerV2.Exit.Handler

/-!
# Threads that use the handle classes

Any number of threads construct handles by name, destroy them, log through them and run
the exit handler, each P7 call in one step, while P7 refuses what it likes. Every thread
owns the references of its handles (`exists_owning`); so no object is used after it died,
and threads that hold a handle of one kind and name hold the same object.
-/

namespace LoggerV2

open Verification Verification.RefCount

/-- The reference that a constructor returns. -/
def acquired (tag : P7Tag) : Except Text Nat → Multiset Owned
  | .ok object => {⟨object, tag⟩}
  | .error _ => 0

/-- A reference that no handle gives back: on an object that could not be shared, or the one
that a telemetry object keeps. -/
def Leaks (item : Owned) : Prop := item.tag.sharedAs = none ∨ item.tag.kind = .telemetry

/-- Where nothing is left behind, nothing leaks. -/
theorem leaks_zero : ∀ item ∈ (0 : Multiset Owned), Leaks item :=
  fun item among => absurd among (Multiset.notMem_zero item)

/-- What a constructor leaves its caller, beside what the caller had. -/
def Acquires (tag : P7Tag) (rest : Multiset Owned) : Post Text Nat (Multiset Owned) :=
  fun result last =>
    ∃ leaked, last = acquired tag result + leaked + rest ∧ ∀ item ∈ leaked, Leaks item

section Construct

variable {owned : Multiset Owned} {kind : Kind} {name : Text} {tag : P7Tag}
  {result : Except Text Nat}

/-- A call that returned no object gave nothing. -/
theorem given_none : given tag none + owned = owned := zero_add owned

/-- Nothing is leaked. -/
theorem acquires_acquired : Acquires tag owned result (acquired tag result + owned) :=
  ⟨0, by rw [add_zero], leaks_zero⟩

/-- A constructor that throws acquires nothing. -/
theorem acquires_error {error : Text} : Acquires tag owned (.error error) owned :=
  ⟨0, by rw [acquired, zero_add, zero_add], leaks_zero⟩

/-- Registering crash handlers neither takes nor gives a reference. -/
theorem triple_registerUnixCrashHandlers :
    registerUnixCrashHandlers.Triple P7Contract owned fun _ last => last = owned :=
  .of_only registerUnixCrashHandlers_only .registers

/-- A new object is shared and returned, or leaked. -/
theorem triple_createShared {create : P7Program (Option Nat)} {createFailed shareFailed : Text}
    {retain : Nat → P7Program Unit} (kept : Nat → Multiset Owned)
    (creates : create.Triple P7Contract owned fun result last =>
      ∃ reply, result = .ok reply ∧ last = given ⟨kind, none⟩ reply + owned)
    (retains : ∀ object, (retain object).Triple P7Contract
      {⟨object, ⟨kind, some (cStr name)⟩⟩} fun result last =>
        result.isOk ∧ last = {⟨object, ⟨kind, some (cStr name)⟩⟩} + kept object)
    (leaks : ∀ object, ∀ item ∈ kept object, Leaks item) :
    (createShared kind create createFailed shareFailed retain name).Triple P7Contract owned
      (Acquires ⟨kind, some (cStr name)⟩ owned) := by
  refine creates.bind ?_ fun error last created => ?_
  · rintro reply _ ⟨_, ⟨⟩, rfl⟩
    cases reply with
    | none =>
      rw [given_none]
      exact acquires_error
    | some object =>
      refine .perform_bind (.share kind object (cStr name)) owned fun granted => ?_
      cases granted with
      | false =>
        refine ⟨{⟨object, ⟨kind, none⟩⟩}, ?_, fun item leaked => ?_⟩
        · rw [acquired, zero_add]
          rfl
        · obtain rfl := Multiset.mem_singleton.mp leaked
          exact .inl rfl
      | true =>
        refine ((retains object).frame owned).bind ?_ ?_
        · rintro _ _ ⟨own, rfl, -, rfl⟩
          exact ⟨kept object, rfl, leaks object⟩
        · rintro error _ ⟨own, rfl, failed, -⟩
          cases failed
  · obtain ⟨_, ⟨⟩, -⟩ := created

/-- `Client(name)` acquires its client, or throws. -/
theorem Client.triple_construct (name : Text) :
    (Client.construct name).Triple P7Contract owned
      (Acquires ⟨.client, some (cStr name)⟩ owned) := by
  refine .free_bind (.getShared .client (cStr name)) fun found => ?_
  cases found with
  | some client => exact acquires_acquired
  | none =>
    rw [given_none]
    refine triple_registerUnixCrashHandlers.bind ?_ ?_
    · rintro _ _ rfl
      refine .free_bind .getFlags fun flags => ?_
      rw [zero_add]
      refine triple_createShared (fun _ => 0) ?_ ?_ ?_
      · exact .free_bind (.createClient _) fun reply => ⟨reply, rfl, rfl⟩
      · exact fun object => ⟨rfl, (add_zero _).symm⟩
      · exact fun _ => leaks_zero
    · rintro error _ rfl
      exact acquires_error

/-- The local client is given back on both exits. -/
theorem triple_constructChannel {createFailed shareFailed : Text} {retain : Nat → P7Program Unit}
    (kept : Nat → Multiset Owned) (isChannel : kind ≠ .client)
    (retains : ∀ object, (retain object).Triple P7Contract
      {⟨object, ⟨kind, some (cStr name)⟩⟩} fun result last =>
        result.isOk ∧ last = {⟨object, ⟨kind, some (cStr name)⟩⟩} + kept object)
    (leaks : ∀ object, ∀ item ∈ kept object, Leaks item) :
    (constructChannel kind createFailed shareFailed retain name).Triple P7Contract owned
      (Acquires ⟨kind, some (cStr name)⟩ owned) := by
  refine .free_bind (.getShared kind (cStr name)) fun found => ?_
  cases found with
  | some channel => exact acquires_acquired
  | none =>
    rw [given_none]
    refine (Client.triple_construct (ascii "main")).bind ?_ ?_
    · rintro client _ ⟨leaked, rfl, leaksClient⟩
      have body : (createShared kind (p7 (.createChannel kind client (cStr name))) createFailed
          shareFailed retain name).Triple P7Contract ({⟨client, mainTag⟩} + (leaked + owned))
          (Acquires ⟨kind, some (cStr name)⟩ ({⟨client, mainTag⟩} + (leaked + owned))) := by
        refine triple_createShared kept ?_ retains leaks
        exact .perform_bind (.createChannel kind client _ isChannel) _ fun reply =>
          ⟨reply, rfl, add_assoc _ _ _⟩
      rw [add_assoc]
      refine body.ensure ?_
      rintro result _ ⟨more, rfl, leaksMore⟩
      refine ⟨_, _, _, add_left_comm _ _ _, .release client mainTag, fun _ => ⟨rfl, ?_⟩⟩
      refine ⟨more + leaked, by simp only [zero_add, add_assoc], fun item leaks => ?_⟩
      exact (Multiset.mem_add.mp leaks).elim (leaksMore item) (leaksClient item)
    · rintro error _ ⟨leaked, rfl, leaksClient⟩
      exact ⟨leaked, rfl, leaksClient⟩

/-- Every constructor by name acquires the reference that it returns. -/
theorem triple_construct (kind : Kind) (name : Text) :
    (construct kind name).Triple P7Contract owned (Acquires ⟨kind, some (cStr name)⟩ owned) := by
  cases kind with
  | client => exact Client.triple_construct name
  | trace =>
    refine triple_constructChannel (fun _ => 0) (by decide) ?_ ?_
    · exact fun object => ⟨rfl, (add_zero _).symm⟩
    · exact fun _ => leaks_zero
  | telemetry =>
    refine triple_constructChannel (fun object => {⟨object, ⟨.telemetry, some (cStr name)⟩⟩})
      (by decide) ?_ ?_
    · exact fun object => ⟨_, 0, _, (add_zero _).symm, .addRef object _ _, fun _ => ⟨rfl, rfl⟩⟩
    · intro object item isKept
      obtain rfl := Multiset.mem_singleton.mp isKept
      exact .inr rfl

end Construct

/-- Nothing is lost but leaks. -/
def Retains (owned : Multiset Owned) : Post Text Unit (Multiset Owned) :=
  fun _ last => ∃ leaked, last = leaked + owned ∧ ∀ item ∈ leaked, Leaks item

/-- Logging gives the reference of the log back. -/
theorem triple_logLines {owned : Multiset Owned} {log : Nat} {tag : P7Tag}
    (lines : List (Level × Text)) :
    (logLines log lines).Triple P7Contract ({⟨log, tag⟩} + owned) fun _ last =>
      last = {⟨log, tag⟩} + owned := by
  induction lines with
  | nil => rfl
  | cons line rest ih => exact .perform_bind (.log log tag line.1 line.2) owned fun _ => ih

/-- The exit handler gives back what it takes. -/
theorem triple_exitHandler (owned : Multiset Owned) :
    exitHandler.Triple P7Contract owned (Retains owned) := by
  refine .free_bind (.registers .atexitData trivial) fun before => ?_
  rw [zero_add]
  refine (triple_construct .trace (ascii "main")).bind ?_ ?_
  · rintro log _ ⟨leaked, rfl, leaks⟩
    rw [acquired, add_assoc]
    have body : (do
        let data ← p7 .atexitData
        logLines log (report data before.backtrace)
        p7 .flush : P7Program Unit).Triple P7Contract
        ({⟨log, ⟨.trace, some (cStr (ascii "main"))⟩⟩} + (leaked + owned)) fun _ last =>
          last = {⟨log, ⟨.trace, some (cStr (ascii "main"))⟩⟩} + (leaked + owned) := by
      refine .free_bind (.registers .atexitData trivial) fun data => ?_
      rw [zero_add]
      refine (triple_logLines _).bind ?_ fun error last same => same
      rintro _ _ rfl
      exact ⟨0, _, _, (zero_add _).symm, .flush, fun _ => zero_add _⟩
    refine body.ensure ?_
    · rintro _ _ rfl
      refine ⟨_, _, _, rfl, .release log _, fun _ => ⟨rfl, leaked, ?_, leaks⟩⟩
      rw [zero_add]
  · rintro error _ ⟨leaked, rfl, leaks⟩
    exact ⟨leaked, by rw [acquired, zero_add], leaks⟩

/-- A handle that a thread holds, with the name it was constructed by. -/
structure Held where
  kind : Kind
  name : Text
  object : Nat
deriving DecidableEq, Repr

/-- What a thread does with the handle classes. A handle is given by its place in the list of
those the thread holds. -/
inductive Use where
  | named (kind : Kind) (name : Text)
  | destroy (index : Nat)
  | log (index : Nat) (level : Level) (message : Text)
  | exit
deriving DecidableEq, Repr

/-- The handles a thread holds after a use. The thread catches what a constructor throws. -/
def Use.run (held : List Held) : Use → P7Program (List Held)
  | .named kind name => do
    match ← (construct kind name).attempt with
    | .ok object => pure (⟨kind, name, object⟩ :: held)
    | .error _ => pure held
  | .destroy index =>
    match held[index]? with
    | none => pure held
    | some handle => do
      destruct (some handle.object)
      pure (held.eraseIdx index)
  | .log index level message =>
    match held[index]? with
    | some ⟨.trace, _, trace⟩ => do
      p7 (.log trace level message)
      pure held
    | _ => pure held
  | .exit => do
    let _ ← exitHandler.attempt
    pure held

/-- A thread's plan, one use after the other. -/
def uses : List Use → List Held → P7Program (List Held)
  | [], held => pure held
  | use :: rest, held => do
    let next ← use.run held
    uses rest next

/-- The calls of a thread, with their replies. -/
abbrev Calls := List (Entry P7Call P7Call.Reply)

/-- The handles that a thread holds after the calls it has made of its plan, with those it held
before. Only a use that has ended changes them: a handle under construction is not held yet,
and one whose destructor still has to release it is. -/
def heldAfter : List Use → List Held → Calls → List Held
  | [], held, _ => held
  | use :: plan, held, calls =>
    match (use.run held).resume calls with
    | (.done next, left) => heldAfter plan next left
    | _ => held

/-- The reference of a handle. -/
def Held.owned (held : Held) : Owned := ⟨held.object, ⟨held.kind, some (cStr held.name)⟩⟩

/-- A thread has the references of its handles, and what leaked. -/
def Holds (held : List Held) (owned : Multiset Owned) : Prop :=
  ∃ leaked, owned = (held.map Held.owned : List Owned) + leaked ∧ ∀ item ∈ leaked, Leaks item

/-- The thread has caught every exception, and holds what its handles need. -/
def Holding : Post Text (List Held) (Multiset Owned) :=
  fun result owned => ∃ held, result = .ok held ∧ Holds held owned

/-- A thread may leak more. -/
theorem Holds.leak {held : List Held} {owned leaked : Multiset Owned} (holds : Holds held owned)
    (leaks : ∀ item ∈ leaked, Leaks item) : Holds held (leaked + owned) := by
  obtain ⟨before, rfl, leaksBefore⟩ := holds
  refine ⟨leaked + before, add_left_comm _ _ _, fun item member => ?_⟩
  exact (Multiset.mem_add.mp member).elim (leaks item) (leaksBefore item)

/-- The reference of one handle, and those of the others. -/
theorem owned_eraseIdx {held : List Held} {index : Nat} {handle : Held}
    (found : held[index]? = some handle) :
    ((held.map Held.owned : List Owned) : Multiset Owned) =
      {handle.owned} + ((held.eraseIdx index).map Held.owned : List Owned) := by
  obtain ⟨bound, rfl⟩ := List.getElem?_eq_some_iff.mp found
  rw [Multiset.singleton_add, Multiset.cons_coe, Multiset.coe_eq_coe, ← List.map_cons]
  exact (List.getElem_cons_eraseIdx_perm bound).symm.map _

/-- What a thread owns has the references of these handles. -/
def Covers (held : List Held) (owned : Multiset Owned) : Prop :=
  ((held.map Held.owned : List Owned) : Multiset Owned) ≤ owned

/-- A thread that holds handles has their references. -/
theorem Holds.covers {held : List Held} {owned : Multiset Owned} (holds : Holds held owned) :
    Covers held owned := by
  obtain ⟨leaked, rfl, -⟩ := holds
  exact Multiset.le_add_right _ _

/-- A caught program that takes nothing leaves the thread the references of its handles. -/
theorem keeps_attempt {Value : Type} {held : List Held} {owned : Multiset Owned}
    {program : P7Program Value} {post : Post Text Value (Multiset Owned)}
    (triple : program.Triple P7Contract 0 post) (holds : Holds held owned) :
    program.attempt.Keeps P7Contract (Covers held) owned fun result last =>
      ∃ own, last = own + owned ∧ ∃ ended, result = .ok ended ∧ post ended own := by
  have caught : program.attempt.Triple P7Contract 0 fun result last =>
      ∃ ended, result = .ok ended ∧ post ended last :=
    triple.attempt fun result last met => ⟨result, rfl, met⟩
  have kept := caught.keeps owned
  rw [zero_add] at kept
  refine kept.mono ?_
  rintro _ ⟨own, rfl⟩
  exact holds.covers.trans (Multiset.le_add_left _ _)

/-- Until a use has ended, the thread has the references of the handles it held before. -/
theorem Use.keeps {held : List Held} {owned : Multiset Owned} (use : Use)
    (holds : Holds held owned) :
    (use.run held).Keeps P7Contract (Covers held) owned Holding := by
  cases use with
  | named kind name =>
    refine (keeps_attempt (triple_construct kind name) holds).bind ?_ ?_
    · rintro ended _ ⟨_, rfl, _, ⟨⟩, leaked, rfl, leaks⟩
      have more := holds.leak leaks
      rw [add_zero, add_assoc]
      cases ended with
      | error error =>
        refine ⟨held, rfl, ?_⟩
        rwa [acquired, zero_add]
      | ok object =>
        obtain ⟨other, same, leaks⟩ := more
        refine ⟨_, rfl, other, ?_, leaks⟩
        rw [acquired, same, ← add_assoc, Multiset.singleton_add, Multiset.cons_coe]
        rfl
    · rintro error _ ⟨_, rfl, ended, ⟨⟩, -⟩
  | destroy index =>
    rw [Use.run]
    cases found : held[index]? with
    | none => exact ⟨held, rfl, holds⟩
    | some handle =>
      have before := holds.covers
      obtain ⟨leaked, rfl, leaks⟩ := holds
      rw [owned_eraseIdx found, add_assoc] at before ⊢
      refine .perform_bind (.release handle.object _) _ before fun _ => ?_
      rw [zero_add]
      exact ⟨_, rfl, leaked, rfl, leaks⟩
  | log index level message =>
    rw [Use.run]
    split
    · next name trace found =>
      have before := holds.covers
      obtain ⟨leaked, rfl, leaks⟩ := holds
      rw [owned_eraseIdx found, add_assoc] at before ⊢
      refine .perform_bind (.log trace _ level message) _ before fun _ => ?_
      refine ⟨held, rfl, leaked, ?_, leaks⟩
      rw [owned_eraseIdx found, add_assoc]
      rfl
    · exact ⟨held, rfl, holds⟩
  | exit =>
    refine (keeps_attempt (triple_exitHandler 0) holds).bind ?_ ?_
    · rintro _ _ ⟨_, rfl, ended, ⟨⟩, leaked, rfl, leaks⟩
      rw [add_zero]
      exact ⟨held, rfl, holds.leak leaks⟩
    · rintro error _ ⟨_, rfl, ended, ⟨⟩, -⟩

/-- A thread that follows its plan ends with what its handles need. -/
theorem triple_uses (plan : List Use) {held : List Held} {owned : Multiset Owned}
    (holds : Holds held owned) : (uses plan held).Triple P7Contract owned Holding := by
  induction plan generalizing held owned with
  | nil => exact ⟨held, rfl, holds⟩
  | cons use rest ih =>
    refine (use.keeps holds).triple.bind ?_ ?_
    · rintro _ _ ⟨next, ⟨⟩, holds⟩
      exact ih holds
    · rintro error _ ⟨next, ⟨⟩, -⟩

end LoggerV2
