import Mathlib.Data.Fintype.Basic
import LoggerV2.Client.Interleaved
import LoggerV2.Client.Threads

/-!
# One constructor returns

Threads that construct a handle by one name at the same time may throw, but not all of
them: a constructor throws only because a name was taken, and the thread that took it does
not throw for the same reason.
-/

namespace LoggerV2

open Verification Verification.RefCount

/-- The reply grants what may be refused, except to share. -/
def Obliges : (request : P7Call) → request.Reply → Prop
  | .createClient _, reply => reply.isSome
  | .createChannel _ _ _, reply => reply.isSome
  | .atexit, granted => granted
  | .sigaction _, granted => granted
  | _, _ => True

/-- A P7 that grants everything replies as it has to. -/
theorem obliges_answer (request : P7Call) (world : World) :
    Obliges request (World.answer allGranted request world).1 := by
  cases request <;> simp [Obliges, World.answer, allGranted]

/-- The names that objects were shared under, in order. -/
def taken (calls : Calls) : List (Kind × Text) :=
  calls.filterMap fun
    | ⟨.share kind _ name, true⟩ => some (kind, name)
    | _ => none

/-- The names that sharing was refused under. -/
def refused (calls : Calls) : List (Kind × Text) :=
  calls.filterMap fun
    | ⟨.share kind _ name, false⟩ => some (kind, name)
    | _ => none

/-- The name of the client that channels are created on. -/
def mainKey : Kind × Text := (.client, mainName)

section Static

variable {past : Calls} {kind : Kind} {name : Text}

@[simp] theorem taken_append (first second : Calls) :
    taken (first ++ second) = taken first ++ taken second :=
  List.filterMap_append

@[simp] theorem refused_append (first second : Calls) :
    refused (first ++ second) = refused first ++ refused second :=
  List.filterMap_append

/-- A call that shares nothing. -/
theorem taken_quiet {entry : Entry P7Call P7Call.Reply} (quiet : taken [entry] = []) :
    taken (past ++ [entry]) = taken past := by
  rw [taken_append, quiet, List.append_nil]

/-- The program ends without an error, and shares nothing. -/
def SharesNothing {Value : Type} (past calls : Calls) (result : Except Text Value) : Prop :=
  result.isOk ∧ taken calls = taken past

/-- A constructor that returns has shared at most one object, and one that throws was
refused. -/
def Tries (key : Kind × Text) (past calls : Calls) : Except Text Nat → Prop
  | .ok _ => taken calls = taken past ∨ taken calls = taken past ++ [key]
  | .error _ => taken calls = taken past ∧ key ∈ refused calls

/-- What shared nothing before the constructor does not count. -/
theorem Tries.of_eq {key : Kind × Text} {middle calls : Calls} {result : Except Text Nat}
    (tries : Tries key middle calls result) (same : taken middle = taken past) :
    Tries key past calls result := by
  cases result with
  | ok object =>
    rw [Tries, same] at tries
    exact tries
  | error error =>
    rw [Tries, same] at tries
    exact tries

/-- Registering signal handlers shares nothing. -/
theorem always_registerSignalHandlers (signals : List Signal) :
    (registerSignalHandlers signals).Always Obliges past fun calls result =>
      SharesNothing past calls result := by
  induction signals generalizing past with
  | nil => exact ⟨rfl, rfl⟩
  | cons signal rest ih =>
    refine .perform_bind fun granted obliges => ?_
    obtain rfl : granted = true := obliges
    exact ih.mono fun calls result quiet => ⟨quiet.1, quiet.2.trans (taken_quiet rfl)⟩

/-- Neither does `RegisterUnixCrashHandlers`. -/
theorem always_registerUnixCrashHandlers :
    registerUnixCrashHandlers.Always Obliges past
      fun calls result => SharesNothing past calls result := by
  have rest : ∀ {past}, (do
      if ← p7 .atexit then registerSignalHandlers handledSignals
      else .fail (ascii "Registration of atexit function for signal processing") :
        P7Program Unit).Always Obliges past fun calls result =>
          SharesNothing past calls result := by
    intro past
    refine .perform_bind fun granted obliges => ?_
    obtain rfl : granted = true := obliges
    exact (always_registerSignalHandlers handledSignals).mono fun calls result quiet =>
      ⟨quiet.1, quiet.2.trans (taken_quiet rfl)⟩
  refine .perform_bind fun data _ => ?_
  dsimp only
  split
  · refine .perform_bind fun _ _ => rest.mono fun calls result quiet => ⟨quiet.1, ?_⟩
    exact quiet.2.trans ((taken_quiet rfl).trans (taken_quiet rfl))
  · exact rest.mono fun calls result quiet => ⟨quiet.1, quiet.2.trans (taken_quiet rfl)⟩

/-- An object that was created is shared, unless the name is taken. -/
theorem always_createShared {create : P7Program (Option Nat)} {createFailed shareFailed : Text}
    {retain : Nat → P7Program Unit}
    (creates : create.Always Obliges past fun calls result =>
      ∃ object, result = .ok (some object) ∧ taken calls = taken past)
    (retains : ∀ object past, (retain object).Always Obliges past fun calls result =>
      SharesNothing past calls result) :
    (createShared kind create createFailed shareFailed retain name).Always Obliges past
      fun calls result => Tries (kind, cStr name) past calls result := by
  refine creates.bind ?_ ?_
  · rintro _ calls ⟨object, ⟨⟩, same⟩
    refine .perform_bind fun granted _ => ?_
    cases granted with
    | false =>
      refine ⟨(taken_quiet rfl).trans same, ?_⟩
      rw [refused_append]
      exact List.mem_append_right _ List.mem_cons_self
    | true =>
      refine (retains object _).bind ?_ ?_
      · rintro _ all ⟨-, more⟩
        rw [taken_append, same] at more
        exact .inr more
      · rintro error all ⟨failed, -⟩
        cases failed
  · rintro error calls ⟨_, ⟨⟩, -⟩

/-- `Client(name)` shares at most its own name. -/
theorem Client.always_construct (name : Text) :
    (Client.construct name).Always Obliges past
      fun calls result => Tries (.client, cStr name) past calls result := by
  refine .perform_bind fun found _ => ?_
  cases found with
  | some client => exact .inl (taken_quiet rfl)
  | none =>
    refine always_registerUnixCrashHandlers.bind ?_ ?_
    · rintro _ calls ⟨-, same⟩
      refine .perform_bind fun flags _ => ?_
      have created := @always_createShared (calls ++ [⟨.getFlags, flags⟩]) .client name
        (p7 (.createClient (cStr (createClientConfig flags)))) (ascii "P7_Create_Client failed")
        (ascii "client_->Share(" ++ name ++ ascii ") failed.") (fun _ => pure ()) ?_
        fun object past => ⟨rfl, rfl⟩
      · exact created.mono fun all result tries =>
          tries.of_eq ((taken_quiet rfl).trans (same.trans (taken_quiet rfl)))
      · intro reply obliges
        obtain ⟨client, rfl⟩ := Option.isSome_iff_exists.mp obliges
        exact ⟨client, rfl, taken_quiet rfl⟩
    · rintro error calls ⟨failed, -⟩
      cases failed

/-- Why a constructor threw: its own name was taken, or that of the client `"main"`. It has
shared no more than that client. -/
def Throws (key : Kind × Text) (calls : Calls) : Prop :=
  (taken calls = [] ∧ mainKey ∈ refused calls) ∨
    ((∀ other ∈ taken calls, other = mainKey ∧ key ≠ mainKey) ∧ key ∈ refused calls)

/-- A channel's constructor returns, or throws for a name that was refused. -/
theorem always_constructChannel {createFailed shareFailed : Text} {retain : Nat → P7Program Unit}
    (isChannel : kind ≠ .client)
    (retains : ∀ object past, (retain object).Always Obliges past fun calls result =>
      SharesNothing past calls result) :
    (constructChannel kind createFailed shareFailed retain name).Always Obliges []
      fun calls result => result.isOk ∨ Throws (kind, cStr name) calls := by
  refine .perform_bind fun found _ => ?_
  cases found with
  | some channel => exact .inl rfl
  | none =>
    refine (Client.always_construct (ascii "main")).bind ?_ ?_
    · intro client calls tries
      have body := @always_createShared calls kind name
        (p7 (.createChannel kind client (cStr name))) createFailed shareFailed retain ?_ retains
      · refine body.ensure fun result all ended _ _ => ⟨rfl, ?_⟩
        cases result with
        | ok channel => exact .inl rfl
        | error error =>
          obtain ⟨same, isRefused⟩ := ended
          refine .inr (.inr ⟨fun other isTaken => ?_, ?_⟩)
          · rw [taken_quiet rfl, same] at isTaken
            have isMain : other = mainKey := by
              rcases tries with nothing | main
              · rw [nothing] at isTaken
                cases isTaken
              · rw [main] at isTaken
                exact List.mem_singleton.mp isTaken
            exact ⟨isMain, fun equal => isChannel (congrArg Prod.fst equal)⟩
          · rw [refused_append]
            exact List.mem_append_left _ isRefused
      · intro reply obliges
        obtain ⟨channel, rfl⟩ := Option.isSome_iff_exists.mp obliges
        exact ⟨channel, rfl, taken_quiet rfl⟩
    · rintro error calls ⟨nothing, isRefused⟩
      exact .inr (.inl ⟨nothing, isRefused⟩)

/-- A constructor by name that throws was refused a name. -/
theorem always_construct (kind : Kind) (name : Text) :
    (construct kind name).Always Obliges [] fun calls result =>
      result.isOk ∨ Throws (kind, cStr name) calls := by
  cases kind with
  | client =>
    refine (Client.always_construct name).mono fun calls result tries => ?_
    cases result with
    | ok client => exact .inl rfl
    | error error =>
      obtain ⟨nothing, isRefused⟩ := tries
      refine .inr (.inr ⟨fun other isTaken => ?_, isRefused⟩)
      rw [nothing] at isTaken
      cases isTaken
  | trace => exact always_constructChannel (by decide) fun object past => ⟨rfl, rfl⟩
  | telemetry =>
    refine always_constructChannel (by decide) fun object past => ?_
    exact fun _ _ => ⟨rfl, taken_quiet rfl⟩

end Static

section Answers

variable {world : World} {request : P7Call} {kind : Kind} {name : Text} {object : Nat}

/-- Only sharing gives an object a name, if it is asked for by the object's own kind. -/
theorem tag?_answer
    (kinds : ∀ shared other given, request = .share shared other given →
      ∀ tag, world.registry.tag? other = some tag → tag.kind = shared)
    (tagged : (World.answer allGranted request world).2.registry.tag? object =
      some ⟨kind, some name⟩) :
    world.registry.tag? object = some ⟨kind, some name⟩ ∨
      (kind, name) ∈ taken [⟨request, (World.answer allGranted request world).1⟩] := by
  have created : ∀ {kind' holds},
      Registry.tag? (world.registry.alloc ⟨kind', none⟩ holds) object = some ⟨kind, some name⟩ →
      world.registry.tag? object = some ⟨kind, some name⟩ := by
    intro kind' holds tagged
    rw [tag?_alloc] at tagged
    split_ifs at tagged
    · cases tagged
    · exact tagged
  cases request with
  | getShared looked shared =>
    cases found : world.registry.findShared looked shared with
    | none =>
      rw [answer_getShared_none found] at tagged
      exact .inl tagged
    | some other =>
      rw [answer_getShared_some found] at tagged
      exact .inl ((tag?_of_bones (bones_addRef _ _)).symm.trans tagged)
  | createClient params => exact .inl (created tagged)
  | createChannel shared client given => exact .inl (created tagged)
  | share shared other given =>
    rw [World.answer] at tagged ⊢
    split_ifs at tagged ⊢ with grants
    · rw [tag?_retag] at tagged
      split_ifs at tagged with same
      · obtain ⟨tag, before, changed⟩ := Option.map_eq_some_iff.mp tagged
        have isKind := kinds shared other given rfl tag before
        obtain ⟨rfl, sharedAs⟩ := P7Tag.mk.inj changed
        obtain rfl := Option.some.inj sharedAs
        exact .inr (isKind ▸ List.mem_cons_self)
      · exact .inl tagged
    · exact .inl tagged
  | addRef other => exact .inl ((tag?_of_bones (bones_addRef _ _)).symm.trans tagged)
  | release other => exact .inl ((tag?_of_bones (bones_release _ _)).symm.trans tagged)
  | _ => exact .inl tagged

/-- Sharing is refused when an object has the name. -/
theorem refused_answer
    (isRefused : (kind, name) ∈ refused [⟨request, (World.answer allGranted request world).1⟩]) :
    ∃ object, world.registry.tag? object = some ⟨kind, some name⟩ := by
  cases request with
  | share shared created given =>
    rw [World.answer] at isRefused
    split_ifs at isRefused with grants
    · cases isRefused
    · obtain ⟨rfl, rfl⟩ := Prod.mk.inj (List.mem_singleton.mp isRefused)
      obtain ⟨other, found⟩ := Option.ne_none_iff_exists'.mp fun absent => grants ⟨rfl, absent⟩
      exact ⟨other, tag?_of_findShared found⟩
  | _ => cases isRefused

end Answers

variable {Thread : Type} {kind : Kind} {name : Text}

/-- The calls of all threads. -/
def Constructors.calls (pool : Constructors Thread) : Calls := pool.history.map Prod.snd

section Own

variable [DecidableEq Thread] {pool : Constructors Thread} {thread : Thread} {key : Kind × Text}

/-- A name that was taken was taken by some thread. -/
theorem exists_taken (isTaken : key ∈ taken pool.calls) :
    ∃ thread, key ∈ taken (pool.own thread) := by
  obtain ⟨entry, member, isKey⟩ := List.mem_filterMap.mp isTaken
  obtain ⟨thread, member⟩ := Pool.mem_history_iff.mp member
  exact ⟨thread, List.mem_filterMap.mpr ⟨entry, member, isKey⟩⟩

/-- What a thread was refused, somebody was refused. -/
theorem refused_own (isRefused : key ∈ refused (pool.own thread)) :
    key ∈ refused pool.calls := by
  obtain ⟨entry, member, isKey⟩ := List.mem_filterMap.mp isRefused
  exact List.mem_filterMap.mpr ⟨entry, Pool.mem_history_iff.mpr ⟨thread, member⟩, isKey⟩

end Own

variable [DecidableEq Thread] [Fintype Thread]

/-- Every name that an object has, or that sharing was refused under, was taken by a thread. -/
structure Accountable (kind : Kind) (name : Text) (pool : Constructors Thread) : Prop where
  owning : ∃ owned, Pool.Owning P7Contract Agrees
    (fun _ => Acquires ⟨kind, some (cStr name)⟩ 0) pool owned
  always : ∀ thread, (pool.threads thread).Always Obliges (pool.own thread) fun calls result =>
    result.isOk ∨ Throws (kind, cStr name) calls
  tagged : ∀ object kind name, pool.world.registry.tag? object = some ⟨kind, some name⟩ →
    (kind, name) ∈ taken pool.calls
  denied : ∀ key ∈ refused pool.calls, key ∈ taken pool.calls

variable {flags : Flags.Store} {schedule : List Thread} {pool next : Constructors Thread}
  {thread : Thread}

/-- Before the first step nothing was refused. -/
theorem accountable_start :
    Accountable kind name
      (Pool.start (construct kind name) (World.initial flags) : Constructors Thread) := by
  refine ⟨⟨fun _ => 0, fun thread => triple_construct kind name, ?_⟩, fun thread => ?_, ?_, ?_⟩
  · rw [Finset.sum_const_zero]
    exact Accounted.empty
  · exact always_construct kind name
  · rintro object kind name tagged
    cases tagged
  · rintro key isRefused
    cases isRefused

/-- A step keeps the account. -/
theorem Accountable.advance (accountable : Accountable kind name pool)
    (advanced : pool.advance (World.answer allGranted) thread = some next) :
    Accountable kind name next := by
  obtain ⟨owned, owning⟩ := accountable.owning
  obtain ⟨changed, owns⟩ := owning.advance (honours_answer allGranted) advanced
  refine ⟨⟨_, owns⟩, Pool.always_advance obliges_answer accountable.always advanced, ?_, ?_⟩
  all_goals
    obtain ⟨request, rest, isCall, rfl⟩ := Pool.advance_eq_some_iff.mp advanced
    simp only [Constructors.calls, List.map_append, taken_append, refused_append, List.mem_append]
  · intro object kind name tagged
    have triple := owning.triples thread
    rw [isCall] at triple
    obtain ⟨takes, frame, gives, split, contract, -⟩ := triple
    refine (tag?_answer ?_ tagged).imp_left (accountable.tagged object kind name)
    -- A thread shares only what it created, which has the kind it shares it as.
    rintro shared other given rfl tag before
    cases contract with
    | share =>
      have owns : (⟨other, ⟨shared, none⟩⟩ : Owned) ∈ ∑ thread, owned thread := by
        refine Multiset.mem_sum.mpr ⟨thread, Finset.mem_univ thread, ?_⟩
        rw [split]
        exact Multiset.mem_add.mpr (.inl (Multiset.mem_singleton_self _))
      have tagged := owning.agrees.tagged _ owns
      rw [before] at tagged
      exact congrArg P7Tag.kind (Option.some.inj tagged)
    | registers _ registers => cases registers
  · rintro key (before | new)
    · exact .inl (accountable.denied key before)
    · obtain ⟨object, tagged⟩ := refused_answer new
      exact .inl (accountable.tagged object _ _ tagged)

/-- The thread that took a name did not throw for want of it. -/
theorem Accountable.exists_not_thrown [Nonempty Thread] (accountable : Accountable kind name pool) :
    ∃ thread, ∀ error, pool.threads thread ≠ .fail error := by
  by_contra all
  have throws : ∀ thread, Throws (kind, cStr name) (pool.own thread) := by
    intro thread
    obtain ⟨error, failed⟩ := not_forall_not.mp fun notFailed => all ⟨thread, notFailed⟩
    have always := accountable.always thread
    rw [failed] at always
    exact always.resolve_left (by simp [Except.isOk, Except.toBool])
  have ofRefused : ∀ {thread key}, key ∈ refused (pool.own thread) →
      ∃ other, key ∈ taken (pool.own other) := fun isRefused =>
    exists_taken (accountable.denied _ (refused_own isRefused))
  -- The own name is taken by nobody who throws.
  have own : ∀ thread, (kind, cStr name) ∉ refused (pool.own thread) := by
    intro thread isRefused
    obtain ⟨other, isTaken⟩ := ofRefused isRefused
    rcases throws other with ⟨nothing, -⟩ | ⟨only, -⟩
    · rw [nothing] at isTaken
      cases isTaken
    · obtain ⟨same, different⟩ := only _ isTaken
      exact different same
  have main : ∀ thread, taken (pool.own thread) = [] ∧ mainKey ∈ refused (pool.own thread) :=
    fun thread => (throws thread).resolve_right fun refusal => own thread refusal.2
  obtain ⟨other, isTaken⟩ := ofRefused (main (Classical.arbitrary Thread)).2
  rw [(main other).1] at isTaken
  cases isTaken

/-- What all constructors by one name leave when they have ended, in any interleaving that
starts in a process in which nothing was created yet: the name is shared, at least one of them
has returned, and all that have returned have the object that is found under the name. -/
theorem constructors_return [Nonempty Thread]
    (run : (constructors Thread kind name (World.initial flags)).Run schedule pool)
    (ended : ∀ thread request rest, pool.threads thread ≠ .call request rest) :
    ∃ object, pool.world.registry.findShared kind (cStr name) = some object ∧
      (∃ thread, pool.threads thread = .done object) ∧
      ∀ thread other, pool.threads thread = .done other → other = object := by
  have accountable : Accountable kind name pool := by
    refine run.invariant ?_ ?_
    · rintro _ rfl
      exact accountable_start
    · exact fun pool thread next accountable advanced => accountable.advance advanced
  obtain ⟨owned, owning⟩ := accountable.owning
  have owns : ∀ thread object, pool.threads thread = .done object →
      (⟨object, ⟨kind, some (cStr name)⟩⟩ : Owned) ∈ ∑ thread, owned thread := by
    intro thread object returned
    have triple := owning.triples thread
    rw [returned] at triple
    obtain ⟨leaked, same, -⟩ := triple
    refine Multiset.mem_sum.mpr ⟨thread, Finset.mem_univ thread, ?_⟩
    rw [same, acquired, add_assoc]
    exact Multiset.mem_add.mpr (.inl (Multiset.mem_singleton_self _))
  have found : ∀ thread object, pool.threads thread = .done object →
      pool.world.registry.findShared kind (cStr name) = some object :=
    fun thread object returned => owning.agrees.found (owns thread object returned)
  obtain ⟨thread, notThrown⟩ := accountable.exists_not_thrown
  cases isEnd : pool.threads thread with
  | call request rest => exact absurd isEnd (ended thread request rest)
  | fail error => exact absurd isEnd (notThrown error)
  | done object =>
    refine ⟨object, found thread object isEnd, ⟨thread, isEnd⟩, fun another other returned => ?_⟩
    exact Option.some.inj ((found another other returned).symm.trans (found thread object isEnd))

/-- Two threads race to create one log: one constructor throws, the other returns. -/
theorem constructors_return_race :
    ∃ pool, (constructors (Fin 2) .trace (ascii "main") (World.initial .default)).Run
        ([0, 1] ++ List.replicate 25 0 ++ List.replicate 4 1) pool ∧
      pool.threads 1 = .fail (ascii "trace_->Share(main) failed.") ∧
      ∃ object, pool.world.registry.findShared .trace (cStr (ascii "main")) = some object ∧
        (∃ thread, pool.threads thread = .done object) ∧
        ∀ thread other, pool.threads thread = .done other → other = object := by
  have followed : ((Pool.start (construct .trace (ascii "main")) (World.initial .default)).follow
      (World.answer allGranted) (fun _ _ => True)
      ([0, 1] ++ List.replicate 25 0 ++ List.replicate 4 1)).map
        (fun pool : Constructors (Fin 2) => ((pool.threads 0).value?, (pool.threads 1).error?)) =
      some (some 1, some (ascii "trace_->Share(main) failed.")) := by
    decide +kernel
  obtain ⟨pool, followed, ends⟩ := Option.map_eq_some_iff.mp followed
  obtain ⟨first, second⟩ := Prod.mk.inj ends
  have returned := Program.value?_eq_some_iff.mp first
  have failed := Program.error?_eq_some_iff.mp second
  have run := (Pool.run_of_follow followed).of_restrict
  refine ⟨pool, run, failed, constructors_return run ?_⟩
  intro thread request rest isCall
  match thread with
  | 0 => simp [returned] at isCall
  | 1 => simp [failed] at isCall

end LoggerV2
