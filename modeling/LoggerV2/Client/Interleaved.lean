import LoggerV2.Library.Interleaving
import LoggerV2.Client.Granted

/-!
# Constructors that run at the same time

Threads construct handles by one name, each P7 call in one step. A constructor that finds
the name unshared creates an object and shares it later; a look-up in between finds
nothing either. Without such a look-up, one thread creates the object and all others find
it (`Stage`).
-/

namespace LoggerV2

open Verification Verification.RefCount

/-- Threads that construct a handle by name. -/
abbrev Constructors (Thread : Type) := Pool Thread P7Call P7Call.Reply Text Nat World

/-- The next call looks the name up. -/
def looksUp (kind : Kind) (name : Text) : P7Program Nat → Bool
  | .call (.getShared looked shared) _ => looked = kind ∧ shared = name
  | _ => false

/-- A look-up of the name that found nothing. -/
def missed (kind : Kind) (name : Text) : (request : P7Call) × request.Reply → Bool
  | ⟨.getShared looked shared, none⟩ => looked = kind ∧ shared = name
  | _ => false

/-- A call that shares an object of the kind under the name. -/
def shares (kind : Kind) (name : Text) : P7Call → Bool
  | .share shared _ given => shared = kind ∧ given = name
  | _ => false

variable {Thread : Type}

/-- The thread is between a look-up that found nothing and sharing an object. -/
def Creating (kind : Kind) (name : Text) (pool : Constructors Thread) (thread : Thread) : Prop :=
  (∃ entry ∈ pool.history, entry.1 = thread ∧ missed kind name entry.2) ∧
    ∀ entry ∈ pool.history, entry.1 = thread → ¬ shares kind name entry.2.1

/-- The thread does not look the name up while another thread is creating the object. -/
def Waits (kind : Kind) (name : Text) (pool : Constructors Thread) (thread : Thread) : Prop :=
  looksUp kind name (pool.threads thread) →
    ∀ other, other ≠ thread → ¬ Creating kind name pool other

instance [DecidableEq Thread] (kind : Kind) (name : Text) (pool : Constructors Thread)
    (thread : Thread) : Decidable (Creating kind name pool thread) :=
  inferInstanceAs (Decidable (_ ∧ _))

instance {count : Nat} (kind : Kind) (name : Text) (pool : Constructors (Fin count))
    (thread : Fin count) : Decidable (Waits kind name pool thread) :=
  inferInstanceAs (Decidable (_ → ∀ _, _))

/-- Threads that all construct a handle by the same name. -/
def constructors (Thread : Type) [DecidableEq Thread] (kind : Kind) (name : Text) (world : World) :
    System (Constructors Thread) Thread :=
  Pool.interleavings (World.answer allGranted) (Pool.start (construct kind name) world)

variable {kind : Kind} {name : Text} {world : World} {holds : Option Nat}

section Creator

/-- What is left to do once the object is shared: keep a reference of its own, and release
the local client, which the channel holds too. -/
inductive Finishes (object : Nat) (registry : Registry) : P7Program Nat → Prop where
  | done : Finishes object registry (.done object)
  | release (client : Nat) (spare : 2 ≤ registry.count client) :
      Finishes object registry (.call (.release client) fun _ => .done object)
  | retain (client : Nat) (spare : 2 ≤ registry.count client) :
      Finishes object registry
        (.call (.addRef object) fun _ => .call (.release client) fun _ => .done object)

/-- The object is shared, and what is left to do keeps it so. -/
def Created (kind : Kind) (name : Text) (program : P7Program Nat) (world : World) : Prop :=
  ∃ object, world.registry.findShared kind name = some object ∧
    Finishes object world.registry program

/-- The thread shares an object under the name, if it is left alone. -/
abbrev Creates (kind : Kind) (name : Text) (goal : P7Program Nat → World → Prop) :
    P7Program Nat → World → Prop :=
  LeadsTo (World.answer allGranted) (fun request => ¬ shares kind name request) goal

/-- Registering handlers shares nothing. -/
theorem registers_not_shares {request : P7Call} (registers : Registers request) :
    ¬ shares kind name request := by
  cases request <;> simp [Registers, shares] at registers ⊢

/-- Creating and sharing an object reaches the goal at the call that shares it. -/
theorem creates_createShared {create : P7Program (Option Nat)} {createFailed shareFailed : Text}
    {retain : Nat → P7Program Unit} {goal : P7Program Nat → World → Prop}
    (quiet : create.Only fun request => ¬ shares kind (cStr name) request)
    (created : create.run (World.answer allGranted) world = (.ok (some world.registry.cells.length),
      { world with registry := world.registry.alloc ⟨kind, none⟩ holds }))
    (alive : ∀ held ∈ holds, 0 < world.registry.count held)
    (absent : world.registry.findShared kind (cStr name) = none)
    (reached : goal (do retain world.registry.cells.length; pure world.registry.cells.length)
      { world with registry := world.registry.alloc ⟨kind, some (cStr name)⟩ holds }) :
    Creates kind (cStr name) goal (createShared kind create createFailed shareFailed retain name)
      world := by
  refine LeadsTo.bind quiet created (.last ?_)
  rw [answer_share_new alive absent]
  exact reached

/-- The new object is the one that is found. -/
theorem findShared_alloc (alive : ∀ held ∈ holds, 0 < world.registry.count held)
    (absent : world.registry.findShared kind name = none) :
    Registry.findShared (world.registry.alloc ⟨kind, some name⟩ holds) kind name =
      some world.registry.cells.length := by
  rw [Registry.findShared, findLive_alloc alive absent]
  simp

/-- The rest of `Client(name)` after a look-up that found nothing. -/
theorem Client.creates {createFailed shareFailed : Text}
    (absent : world.registry.findShared .client (cStr name) = none) :
    Creates .client (cStr name) (Created .client (cStr name))
      (do
        registerUnixCrashHandlers
        let flags ← p7 .getFlags
        createShared .client (p7 (.createClient (cStr (createClientConfig flags)))) createFailed
          shareFailed (fun _ => pure ()) name)
      world := by
  refine LeadsTo.bind (registerUnixCrashHandlers_only.mono fun _ => registers_not_shares)
    (run_registerUnixCrashHandlers world) (.step (by simp [shares]) ?_)
  refine @creates_createShared _ _ world.registered none _ _ _ _ _
    ⟨by simp [shares], fun _ => trivial⟩
    rfl (by simp) absent ?_
  exact ⟨_, @findShared_alloc _ _ world none (by simp) absent, .done⟩

/-- The local client of a channel's constructor shares no channel. -/
theorem Client.construct_quiet (isChannel : kind ≠ .client) (name other : Text) :
    (Client.construct other).Only fun request => ¬ shares kind name request := by
  have quiet : ∀ {request : P7Call}, (∀ object given, request ≠ .share kind object given) →
      ¬ shares kind name request := by
    intro request differs same
    cases request <;> simp [shares] at same
    exact differs _ _ (by rw [same.1])
  refine .bind (.perform (quiet (by simp))) fun found => ?_
  cases found with
  | some client => exact .pure client
  | none =>
    refine .bind (registerUnixCrashHandlers_only.mono fun _ => registers_not_shares) fun _ => ?_
    refine .bind (.perform (quiet (by simp))) fun flags => ?_
    refine .bind (.perform (quiet (by simp))) fun reply => ?_
    cases reply with
    | none => exact .fail _
    | some client =>
      refine .bind (.perform (quiet fun _ _ same => ?_)) fun granted => ?_
      · exact isChannel (P7Call.share.inj same).1.symm
      · split
        · exact .bind (.pure ()) fun _ => .pure client
        · exact .fail _

/-- `Client(name)` returns a live client, in any world. -/
theorem Client.exists_run_construct (name : Text) (world : World) :
    ∃ client last,
      (Client.construct name).run (World.answer allGranted) world = (.ok client, last) ∧
      0 < last.registry.count client := by
  cases found : world.registry.findShared .client (cStr name) with
  | some client =>
    refine ⟨client, _, run_construct_hit found, ?_⟩
    rw [count_addRef (alive_of_findShared found), if_pos rfl]
    exact Nat.succ_pos _
  | none =>
    refine ⟨_, _, run_construct_miss found, ?_⟩
    rw [count_of_found (getElem?_alloc_length _ _)]
    exact Nat.one_pos

/-- The rest of a channel's constructor after a look-up that found nothing. -/
theorem creates_channel {createFailed shareFailed : Text} {retain : Nat → P7Program Unit}
    (isChannel : kind ≠ .client)
    (absent : world.registry.findShared kind (cStr name) = none)
    (retains : ∀ object client registry, 2 ≤ Heap.count registry client →
      Finishes object registry
        ((do retain object; pure object : P7Program Nat).ensure (destruct (some client)))) :
    Creates kind (cStr name) (Created kind (cStr name))
      (do
        let client ← Client.construct (ascii "main")
        Program.ensure
          (createShared kind (p7 (.createChannel kind client (cStr name))) createFailed shareFailed
            retain name)
          (destruct (some client)))
      world := by
  obtain ⟨client, middle, constructed, alive⟩ := Client.exists_run_construct (ascii "main") world
  have absent := Client.findShared_construct constructed isChannel absent
  have held : ∀ held ∈ some client, 0 < middle.registry.count held := by simpa using alive
  have body : Creates kind (cStr name)
      (fun program world => ∃ object, program = (do retain object; pure object) ∧
        world.registry.findShared kind (cStr name) = some object ∧
        2 ≤ world.registry.count client)
      (createShared kind (p7 (.createChannel kind client (cStr name))) createFailed shareFailed
        retain name) middle := by
    refine creates_createShared ⟨by simp [shares], fun _ => trivial⟩ rfl held absent ?_
    refine ⟨_, rfl, findShared_alloc held absent, ?_⟩
    rw [count_alloc_held alive]
    omega
  refine LeadsTo.bind (Client.construct_quiet isChannel _ _) constructed (body.ensure ?_)
  rintro _ last ⟨object, rfl, found, spare⟩
  exact ⟨object, found, retains object client last.registry spare⟩

/-- Every constructor by name is a look-up that returns what it finds, and otherwise goes on
to create an object. -/
theorem exists_construct_eq (kind : Kind) (name : Text) :
    ∃ next, construct kind name = .call (.getShared kind (cStr name)) next ∧
      (∀ object : Nat, next (some object) = .done object) ∧
      ∀ world : World, world.registry.findShared kind (cStr name) = none →
        Creates kind (cStr name) (Created kind (cStr name)) (next none) world := by
  cases kind with
  | client => exact ⟨_, rfl, fun _ => rfl, fun _ absent => Client.creates absent⟩
  | trace =>
    refine ⟨_, rfl, fun _ => rfl, fun _ absent => creates_channel (by decide) absent ?_⟩
    exact fun _ client _ spare => .release client spare
  | telemetry =>
    refine ⟨_, rfl, fun _ => rfl, fun _ absent => creates_channel (by decide) absent ?_⟩
    exact fun _ client _ spare => .retain client spare

/-- Another reference leaves what is left to do as it was. -/
theorem Finishes.addRef {object other : Nat} {registry : Registry} {program : P7Program Nat}
    (finishes : Finishes object registry program) (alive : 0 < registry.count other) :
    Finishes object (registry.addRef other) program := by
  have more : ∀ {client}, 2 ≤ registry.count client →
      2 ≤ Heap.count (registry.addRef other) client := by
    intro client spare
    rw [count_addRef alive]
    omega
  cases finishes with
  | done => exact .done
  | release client spare => exact .release client (more spare)
  | retain client spare => exact .retain client (more spare)

end Creator

/-- How far the threads are: nobody looked the name up, one of them is creating the object, or
it is shared and everybody gets it. -/
inductive Stage (kind : Kind) (name : Text) (pool : Constructors Thread) : Prop where
  | idle (nobody : pool.history = [])
      (waiting : ∀ thread, pool.threads thread = construct kind name)
      (absent : pool.world.registry.findShared kind (cStr name) = none)
  | creating (creator : Thread)
      (waiting : ∀ thread, thread ≠ creator → pool.threads thread = construct kind name)
      (isCreating : Creating kind (cStr name) pool creator)
      (creates : Creates kind (cStr name) (Created kind (cStr name)) (pool.threads creator)
        pool.world)
  | created (creator : Thread) (object : Nat)
      (found : pool.world.registry.findShared kind (cStr name) = some object)
      (others : ∀ thread, thread ≠ creator →
        pool.threads thread = construct kind name ∨ pool.threads thread = .done object)
      (finishes : Finishes object pool.world.registry (pool.threads creator))

variable [DecidableEq Thread] {pool next : Constructors Thread} {thread : Thread}

/-- A thread that looks the name up and finds nothing is the creator. -/
theorem Stage.idle_step (nobody : pool.history = [])
    (waiting : ∀ thread, pool.threads thread = construct kind name)
    (absent : pool.world.registry.findShared kind (cStr name) = none)
    (advanced : pool.advance (World.answer allGranted) thread = some next) :
    Stage kind name next := by
  obtain ⟨request, rest, isCall, rfl⟩ := Pool.advance_eq_some_iff.mp advanced
  obtain ⟨lookup, starts, -, creates⟩ := exists_construct_eq kind name
  rw [waiting, starts] at isCall
  cases isCall
  rw [answer_getShared_none absent]
  refine .creating thread (fun other different => ?_) ?_ ?_
  · rw [← waiting other]
    exact Function.update_of_ne different _ _
  · simp [Creating, nobody, missed, shares]
  · dsimp only
    rw [Function.update_self]
    exact creates _ absent

/-- While the object is being created, only its creator moves. -/
theorem Stage.creating_step {creator : Thread}
    (waiting : ∀ thread, thread ≠ creator → pool.threads thread = construct kind name)
    (isCreating : Creating kind (cStr name) pool creator)
    (creates :
      Creates kind (cStr name) (Created kind (cStr name)) (pool.threads creator) pool.world)
    (waits : Waits kind (cStr name) pool thread)
    (advanced : pool.advance (World.answer allGranted) thread = some next) :
    Stage kind name next := by
  obtain ⟨request, rest, isCall, rfl⟩ := Pool.advance_eq_some_iff.mp advanced
  by_cases same : thread = creator
  · subst same
    have others : ∀ other, other ≠ thread → Function.update pool.threads thread
        (rest (World.answer allGranted request pool.world).1) other = construct kind name := by
      intro other different
      rw [Function.update_of_ne different, waiting other different]
    rw [isCall] at creates
    cases creates with
    | last reached =>
      obtain ⟨object, found, finishes⟩ := reached
      refine .created thread object found (fun other different => .inl (others other different)) ?_
      dsimp only
      rwa [Function.update_self]
    | step isQuiet creates =>
      refine .creating thread others ⟨?_, ?_⟩ ?_
      · obtain ⟨entry, member, missing⟩ := isCreating.1
        exact ⟨entry, List.mem_append_left _ member, missing⟩
      · intro entry member own
        rcases List.mem_append.mp member with old | new
        · exact isCreating.2 entry old own
        · obtain rfl := List.mem_singleton.mp new
          exact isQuiet
      · dsimp only
        rwa [Function.update_self]
  · obtain ⟨lookup, starts, -, -⟩ := exists_construct_eq kind name
    have looks : looksUp kind (cStr name) (pool.threads thread) := by
      rw [waiting thread same, starts]
      simp [looksUp]
    exact absurd isCreating (waits looks creator (Ne.symm same))

/-- Once the object is shared, it stays so, and every look-up finds it. -/
theorem Stage.created_step {creator : Thread} {object : Nat}
    (found : pool.world.registry.findShared kind (cStr name) = some object)
    (others : ∀ thread, thread ≠ creator →
      pool.threads thread = construct kind name ∨ pool.threads thread = .done object)
    (finishes : Finishes object pool.world.registry (pool.threads creator))
    (advanced : pool.advance (World.answer allGranted) thread = some next) :
    Stage kind name next := by
  obtain ⟨request, rest, isCall, rfl⟩ := Pool.advance_eq_some_iff.mp advanced
  have alive := alive_of_findShared found
  have still : Registry.findShared (pool.world.registry.addRef object) kind (cStr name) =
      some object := (findLive_addRef alive).trans found
  by_cases same : thread = creator
  · subst same
    have unmoved : ∀ program, ∀ other, other ≠ thread →
        Function.update pool.threads thread program other = construct kind name ∨
          Function.update pool.threads thread program other = .done object := by
      intro program other different
      rw [Function.update_of_ne different]
      exact others other different
    rw [isCall] at finishes
    cases finishes with
    | release client spare =>
      refine .created thread object ((findLive_release spare).trans found) (unmoved _) ?_
      dsimp only
      rw [Function.update_self]
      exact .done
    | retain client spare =>
      refine .created thread object still (unmoved _) ?_
      dsimp only
      rw [Function.update_self]
      exact Finishes.addRef (.release client spare) alive
  · rcases others thread same with waiting | ended
    · obtain ⟨lookup, starts, returns, -⟩ := exists_construct_eq kind name
      rw [waiting, starts] at isCall
      cases isCall
      rw [answer_getShared_some found]
      refine .created creator object still (fun other different => ?_) ?_
      · dsimp only
        by_cases isThread : other = thread
        · rw [isThread, Function.update_self]
          exact .inr (returns object)
        · rw [Function.update_of_ne isThread]
          exact others other different
      · dsimp only
        rw [Function.update_of_ne (Ne.symm same)]
        exact finishes.addRef alive
    · rw [ended] at isCall
      cases isCall

/-- At every stage, all threads that ended have returned the same object. -/
theorem Stage.exists_object (stage : Stage kind name pool) :
    ∃ object, ∀ thread, (∃ request rest, pool.threads thread = .call request rest) ∨
      pool.threads thread = .done object := by
  obtain ⟨lookup, starts, -, -⟩ := exists_construct_eq kind name
  cases stage with
  | idle nobody waiting absent =>
    exact ⟨0, fun thread => .inl ⟨_, _, (waiting thread).trans starts⟩⟩
  | creating creator waiting isCreating creates =>
    refine ⟨0, fun thread => .inl ?_⟩
    by_cases same : thread = creator
    · rw [same]
      generalize pool.threads creator = program at creates
      cases creates with
      | last _ => exact ⟨_, _, rfl⟩
      | step _ _ => exact ⟨_, _, rfl⟩
    · exact ⟨_, _, (waiting thread same).trans starts⟩
  | created creator object found others finishes =>
    refine ⟨object, fun thread => ?_⟩
    by_cases same : thread = creator
    · rw [same]
      generalize pool.threads creator = program at finishes
      cases finishes with
      | done => exact .inr rfl
      | release _ _ => exact .inl ⟨_, _, rfl⟩
      | retain _ _ => exact .inl ⟨_, _, rfl⟩
    · exact (others thread same).imp_left fun waiting => ⟨_, _, waiting.trans starts⟩

/-- If no thread looks the name up while another is creating the object, no constructor
throws, and all that return have the same object. -/
theorem constructors_agree (absent : world.registry.findShared kind (cStr name) = none)
    {schedule : List Thread}
    (run : ((constructors Thread kind name world).restrict (Waits kind (cStr name))).Run schedule
      pool) :
    (∀ thread error, pool.threads thread ≠ .fail error) ∧
      ∀ one two first second, pool.threads one = .done first → pool.threads two = .done second →
        first = second := by
  have stage : Stage kind name pool := by
    refine run.invariant ?_ ?_
    · rintro _ rfl
      exact .idle rfl (fun _ => rfl) absent
    · rintro pool thread next stage ⟨waits, advanced⟩
      cases stage with
      | idle nobody waiting absent => exact .idle_step nobody waiting absent advanced
      | creating creator waiting isCreating creates =>
        exact .creating_step waiting isCreating creates waits advanced
      | created creator object found others finishes =>
        exact .created_step found others finishes advanced
  obtain ⟨object, ended⟩ := stage.exists_object
  constructor
  · intro thread error failed
    rcases ended thread with ⟨request, rest, isCall⟩ | returned
    · rw [failed] at isCall
      cases isCall
    · rw [failed] at returned
      cases returned
  · have returns : ∀ thread value, pool.threads thread = .done value → value = object := by
      intro thread value returned
      rcases ended thread with ⟨request, rest, isCall⟩ | same
      · rw [returned] at isCall
        cases isCall
      · exact Program.done.inj (returned.symm.trans same)
    intro one two first second isFirst isSecond
    rw [returns one first isFirst, returns two second isSecond]

/-- A second thread looks the name up when the first has returned. -/
theorem constructors_agree_in_turn :
    ∃ pool, ((constructors (Fin 2) .trace (ascii "main") (World.initial .default)).restrict
        (Waits .trace (cStr (ascii "main")))).Run (List.replicate 26 0 ++ [1]) pool ∧
      ∀ one two first second, pool.threads one = .done first → pool.threads two = .done second →
        first = second := by
  have followed : ((Pool.start (construct .trace (ascii "main")) (World.initial .default)).follow
      (World.answer allGranted) (Waits .trace (cStr (ascii "main")))
      (List.replicate 26 (0 : Fin 2) ++ [1])).isSome := by
    decide +kernel
  obtain ⟨pool, followed⟩ := Option.isSome_iff_exists.mp followed
  have run := Pool.run_of_follow followed
  exact ⟨pool, run, (constructors_agree (by decide +kernel) run).2⟩

/-- Two threads that both find the name unshared: one of them throws. -/
theorem constructor_throws :
    ∃ pool, (constructors (Fin 2) .trace (ascii "main") (World.initial .default)).Run
        ([0, 1] ++ List.replicate 25 0 ++ List.replicate 4 1) pool ∧
      pool.threads 1 = .fail (ascii "trace_->Share(main) failed.") := by
  have followed : (((Pool.start (construct .trace (ascii "main")) (World.initial .default)).follow
      (World.answer allGranted) (fun _ _ => True)
      ([0, 1] ++ List.replicate 25 0 ++ List.replicate 4 1)).bind
        fun pool : Constructors (Fin 2) => (pool.threads 1).error?) =
      some (ascii "trace_->Share(main) failed.") := by
    decide +kernel
  obtain ⟨pool, followed, failed⟩ := Option.bind_eq_some_iff.mp followed
  exact ⟨pool, (Pool.run_of_follow followed).of_restrict, Program.error?_eq_some_iff.mp failed⟩

end LoggerV2
