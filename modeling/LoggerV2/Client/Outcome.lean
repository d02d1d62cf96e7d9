import LoggerV2.Client.Granted

/-!
# Constructors when calls are refused

What `Client(name)`, `Log(name)` and `Telemetry(name)` return and do to the registry,
whichever calls are refused. `Client.outcome` and `channelOutcome` are read off the
constructors once; the rest of the world is left out.
-/

namespace LoggerV2

open Verification Verification.RefCount

variable {granted : P7Call → Bool} {world : World}

/-- A single call returns what P7 replies. -/
theorem run_p7 (request : P7Call) (world : World) :
    (p7 request).run (World.answer granted) world =
      (.ok (World.answer granted request world).1, (World.answer granted request world).2) := rfl

/-- The exit handler and every signal handler can be registered. -/
def RegistersAll (granted : P7Call → Bool) : Prop :=
  granted .atexit = true ∧ ∀ signal ∈ handledSignals, granted (.sigaction signal) = true

instance (granted : P7Call → Bool) : Decidable (RegistersAll granted) :=
  inferInstanceAs (Decidable (_ ∧ _))

/-- The value of a run, if it returned. -/
def returned {Value : Type} : Except Text Value × World → Option Value
  | (.ok value, _) => some value
  | (.error _, _) => none

/-- A run that returned a value ended in it. -/
theorem eq_of_returned {Value : Type} {ended : Except Text Value × World} {value : Value}
    (isValue : returned ended = some value) : ended = (.ok value, ended.2) := by
  obtain ⟨error | other, last⟩ := ended
  · cases isValue
  · rw [Option.some.inj isValue]

/-- A run that returned nothing threw. -/
theorem exists_error {ended : Except Text Nat × World} (threw : returned ended = none) :
    ∃ error, ended = (.error error, ended.2) := by
  obtain ⟨error | object, last⟩ := ended
  · exact ⟨error, rfl⟩
  · cases threw

/-- The handlers are registered exactly if none is refused. -/
theorem returned_registerSignalHandlers (signals : List Signal) (world : World) :
    (returned ((registerSignalHandlers signals).run (World.answer granted) world)).isSome ↔
      ∀ signal ∈ signals, granted (.sigaction signal) = true := by
  induction signals generalizing world with
  | nil => simp [registerSignalHandlers, returned]
  | cons signal rest ih =>
    rw [registerSignalHandlers, run_p7_bind, List.forall_mem_cons]
    by_cases grants : granted (.sigaction signal) = true
    · simp only [World.answer, grants, if_true, true_and]
      exact ih _
    · simp [World.answer, grants, Program.run, returned]

/-- Registering handlers changes no flag. -/
theorem Registers.flags {request : P7Call} (registers : Registers request) (world : World) :
    (World.answer granted request world).2.flags = world.flags := by
  cases request <;> simp only [Registers] at registers <;> simp only [World.answer] <;>
    split_ifs <;> rfl

/-- Neither does the whole of `RegisterUnixCrashHandlers`. -/
theorem registerUnixCrashHandlers_flags (world : World) :
    (registerUnixCrashHandlers.run (World.answer granted) world).2.flags = world.flags := by
  have keeps : ∀ request, Registers request → ∀ middle : World, middle.flags = world.flags →
      (World.answer granted request middle).2.flags = world.flags :=
    fun request registers middle same => (registers.flags middle).trans same
  exact registerUnixCrashHandlers_only.run_preserves keeps rfl

/-- `RegisterUnixCrashHandlers` returns exactly if nothing is refused. -/
theorem returned_registerUnixCrashHandlers (world : World) :
    (returned (registerUnixCrashHandlers.run (World.answer granted) world)).isSome ↔
      RegistersAll granted := by
  have rest : ∀ world, (returned ((do
      if ← p7 .atexit then registerSignalHandlers handledSignals
      else .fail (ascii "Registration of atexit function for signal processing") :
        P7Program Unit).run (World.answer granted) world)).isSome ↔ RegistersAll granted := by
    intro world
    rw [run_p7_bind, RegistersAll]
    by_cases grants : granted .atexit = true
    · simp only [World.answer, grants, if_true, true_and]
      exact returned_registerSignalHandlers _ _
    · simp [World.answer, grants, Program.run, returned]
  rw [registerUnixCrashHandlers, run_p7_bind]
  dsimp only
  split
  · rw [run_p7_bind]
    exact rest _
  · exact rest _

/-- The pointer that a constructor returns, if it returns, and the registry it leaves. -/
def outcome (ended : Except Text Nat × World) : Option Nat × Registry :=
  (returned ended, ended.2.registry)

/-- What `createShared` does once the object is created; `keep` is what `retain` does. -/
theorem outcome_createShared {create : P7Program (Option Nat)}
    {createFailed shareFailed name : Text} {retain : Nat → P7Program Unit} {kind : Kind}
    {holds : Option Nat} {keep : Registry → Nat → Registry}
    (created : create.run (World.answer granted) world = (.ok (some world.registry.cells.length),
      { world with registry := world.registry.alloc ⟨kind, none⟩ holds }))
    (alive : ∀ held ∈ holds, 0 < world.registry.count held)
    (absent : world.registry.findShared kind (cStr name) = none)
    (retains : ∀ object world, (retain object).run (World.answer granted) world =
      (.ok (), { world with registry := keep world.registry object })) :
    outcome ((createShared kind create createFailed shareFailed retain name).run
        (World.answer granted) world) =
      if granted (.share kind world.registry.cells.length (cStr name)) then
        (some world.registry.cells.length,
          keep (world.registry.alloc ⟨kind, some (cStr name)⟩ holds) world.registry.cells.length)
      else (none, world.registry.alloc ⟨kind, none⟩ holds) := by
  rw [createShared, Program.run_bind, created]
  dsimp only
  rw [run_p7_bind, answer_share_created alive absent]
  split
  · simp only [if_true, Program.run_bind, retains, Program.run_pure]
    rfl
  · rfl

/-- P7 creates the client for which `Client(name)` registered the handlers. -/
def ClientMade (granted : P7Call → Bool) (world : World) : Prop :=
  RegistersAll granted ∧ granted (.createClient (cStr (createClientConfig world.flags))) = true

instance (granted : P7Call → Bool) (world : World) : Decidable (ClientMade granted world) :=
  inferInstanceAs (Decidable (_ ∧ _))

/-- What `Client(name)` returns, and the registry it leaves. -/
def Client.outcome (granted : P7Call → Bool) (world : World) (name : Text) :
    Option Nat × Registry :=
  match world.registry.findShared .client (cStr name) with
  | some client => (some client, world.registry.addRef client)
  | none =>
    if ClientMade granted world then
      if granted (.share .client world.registry.cells.length (cStr name)) then
        (some world.registry.cells.length,
          world.registry.alloc ⟨.client, some (cStr name)⟩ none)
      else (none, world.registry.alloc ⟨.client, none⟩ none)
    else (none, world.registry)

/-- `Client(name)` does what the outcome says. -/
theorem Client.outcome_construct (granted : P7Call → Bool) (world : World) (name : Text) :
    LoggerV2.outcome ((Client.construct name).run (World.answer granted) world) =
      Client.outcome granted world name := by
  rw [Client.construct, run_p7_bind, Client.outcome]
  cases found : world.registry.findShared .client (cStr name) with
  | some client =>
    rw [answer_getShared_some found]
    rfl
  | none =>
    rw [answer_getShared_none found]
    dsimp only
    have registers := @returned_registerUnixCrashHandlers granted world
    have registry := @registerUnixCrashHandlers_registry granted world
    have flags := @registerUnixCrashHandlers_flags granted world
    rw [Program.run_bind]
    rcases ended : registerUnixCrashHandlers.run (World.answer granted) world
      with ⟨error | _, middle⟩ <;> rw [ended] at registers registry flags <;>
      dsimp only at registry flags ⊢
    · have refused : ¬ ClientMade granted world := fun made => by
        simpa [returned] using registers.mpr made.1
      rw [if_neg refused, ← registry]
      rfl
    · have registered : RegistersAll granted := registers.mp rfl
      rw [run_p7_bind, ← registry]
      rw [← registry] at found
      dsimp only [World.answer]
      by_cases grants : granted (.createClient (cStr (createClientConfig world.flags))) = true
      · rw [if_pos (show ClientMade granted world from ⟨registered, grants⟩)]
        rw [← flags] at grants
        refine @outcome_createShared granted middle _ _ _ name _ .client none (fun heap _ => heap)
          ?_ (by simp) found fun _ _ => rfl
        rw [run_p7]
        simp only [World.answer, grants, if_true]
      · rw [if_neg (fun made : ClientMade granted world => grants made.2)]
        rw [← flags] at grants
        have created : (p7 (.createClient (cStr (createClientConfig middle.flags)))).run
            (World.answer granted) middle = (.ok none, middle) := by
          rw [run_p7]
          simp only [World.answer, grants]
          rfl
        rw [createShared, Program.run_bind, created]
        rfl

/-- The ways in which `Client(name)` ends. -/
inductive Client.Ends (granted : P7Call → Bool) (world : World) (name : Text) :
    Option Nat × Registry → Prop where
  | found {client : Nat}
      (isFound : world.registry.findShared .client (cStr name) = some client) :
      Ends granted world name (some client, world.registry.addRef client)
  | unmade (absent : world.registry.findShared .client (cStr name) = none)
      (refused : ¬ ClientMade granted world) : Ends granted world name (none, world.registry)
  | unshared (absent : world.registry.findShared .client (cStr name) = none)
      (made : ClientMade granted world)
      (refused : granted (.share .client world.registry.cells.length (cStr name)) = false) :
      Ends granted world name (none, world.registry.alloc ⟨.client, none⟩ none)
  | shared (absent : world.registry.findShared .client (cStr name) = none)
      (made : ClientMade granted world)
      (grants : granted (.share .client world.registry.cells.length (cStr name)) = true) :
      Ends granted world name (some world.registry.cells.length,
        world.registry.alloc ⟨.client, some (cStr name)⟩ none)

/-- The outcome is one of the four ends. -/
theorem Client.ends (granted : P7Call → Bool) (world : World) (name : Text) :
    Client.Ends granted world name (Client.outcome granted world name) := by
  rw [Client.outcome]
  cases found : world.registry.findShared .client (cStr name) with
  | some client => exact .found found
  | none =>
    dsimp only
    split_ifs with made shared
    · exact .shared found made shared
    · exact .unshared found made (Bool.not_eq_true _ ▸ shared)
    · exact .unmade found made

/-- A client that is returned is alive, and no channel was shared on the way. -/
theorem Client.Ends.alive {name : Text} {client : Nat} {registry : Registry}
    (ends : Client.Ends granted world name (some client, registry)) :
    0 < registry.count client ∧ ∀ kind ≠ Kind.client, ∀ other,
      world.registry.findShared kind other = none → registry.findShared kind other = none := by
  cases ends with
  | found isFound =>
    have alive := alive_of_findShared isFound
    refine ⟨?_, fun kind _ other absent => (findLive_addRef alive).trans absent⟩
    rw [count_addRef alive, if_pos rfl]
    omega
  | shared =>
    refine ⟨?_, fun kind isChannel other absent => ?_⟩
    · rw [count_alloc (by simp), if_pos rfl]
      omega
    · refine (findLive_alloc (by simp) absent).trans (if_neg ?_)
      simp [Ne.symm isChannel]

/-- What creating a channel on a client and sharing it leads to. -/
def sharedChannel (granted : P7Call → Bool) (kind : Kind) (keep : Registry → Nat → Registry)
    (client : Nat) (name : Text) (registry : Registry) : Option Nat × Registry :=
  if granted (.createChannel kind client (cStr name)) then
    if granted (.share kind registry.cells.length (cStr name)) then
      (some registry.cells.length,
        keep (registry.alloc ⟨kind, some (cStr name)⟩ (some client)) registry.cells.length)
    else (none, registry.alloc ⟨kind, none⟩ (some client))
  else (none, registry)

/-- What `Log(name)` or `Telemetry(name)` returns, and the registry it leaves. -/
def channelOutcome (granted : P7Call → Bool) (kind : Kind) (keep : Registry → Nat → Registry)
    (world : World) (name : Text) : Option Nat × Registry :=
  match world.registry.findShared kind (cStr name) with
  | some channel => (some channel, world.registry.addRef channel)
  | none =>
    match Client.outcome granted world (ascii "main") with
    | (none, registry) => (none, registry)
    | (some client, registry) =>
      let made := sharedChannel granted kind keep client name registry
      (made.1, made.2.release client)

/-- The ways in which `Log(name)` or `Telemetry(name)` ends. -/
inductive ChannelEnds (granted : P7Call → Bool) (kind : Kind) (keep : Registry → Nat → Registry)
    (world : World) (name : Text) : Option Nat × Registry → Prop where
  | found {channel : Nat} (isFound : world.registry.findShared kind (cStr name) = some channel) :
      ChannelEnds granted kind keep world name (some channel, world.registry.addRef channel)
  | clientless {registry : Registry}
      (absent : world.registry.findShared kind (cStr name) = none)
      (main : Client.Ends granted world (ascii "main") (none, registry)) :
      ChannelEnds granted kind keep world name (none, registry)
  | uncreated {client : Nat} {registry : Registry}
      (absent : world.registry.findShared kind (cStr name) = none)
      (main : Client.Ends granted world (ascii "main") (some client, registry))
      (refused : granted (.createChannel kind client (cStr name)) = false) :
      ChannelEnds granted kind keep world name (none, registry.release client)
  | unshared {client : Nat} {registry : Registry}
      (absent : world.registry.findShared kind (cStr name) = none)
      (main : Client.Ends granted world (ascii "main") (some client, registry))
      (created : granted (.createChannel kind client (cStr name)) = true)
      (refused : granted (.share kind registry.cells.length (cStr name)) = false) :
      ChannelEnds granted kind keep world name
        (none, (registry.alloc ⟨kind, none⟩ (some client)).release client)
  | shared {client : Nat} {registry : Registry}
      (absent : world.registry.findShared kind (cStr name) = none)
      (main : Client.Ends granted world (ascii "main") (some client, registry))
      (created : granted (.createChannel kind client (cStr name)) = true)
      (grants : granted (.share kind registry.cells.length (cStr name)) = true) :
      ChannelEnds granted kind keep world name (some registry.cells.length,
        (keep (registry.alloc ⟨kind, some (cStr name)⟩ (some client))
          registry.cells.length).release client)

/-- The outcome is one of the five ends. -/
theorem channel_ends (granted : P7Call → Bool) (kind : Kind) (keep : Registry → Nat → Registry)
    (world : World) (name : Text) :
    ChannelEnds granted kind keep world name (channelOutcome granted kind keep world name) := by
  rw [channelOutcome]
  cases found : world.registry.findShared kind (cStr name) with
  | some channel => exact .found found
  | none =>
    have main := Client.ends granted world (ascii "main")
    rcases made : Client.outcome granted world (ascii "main") with ⟨_ | client, registry⟩ <;>
      rw [made] at main
    · exact .clientless found main
    · dsimp only
      rw [sharedChannel]
      split_ifs with created shared
      · exact .shared found main created shared
      · exact .unshared found main created (Bool.not_eq_true _ ▸ shared)
      · exact .uncreated found main (Bool.not_eq_true _ ▸ created)

section Channel

variable {kind : Kind} {createFailed shareFailed : Text} {retain : Nat → P7Program Unit}
  {keep : Registry → Nat → Registry}

/-- With a client, the channel is created, shared and retained, or not. -/
theorem outcome_sharedChannel {client : Nat} {name : Text}
    (alive : 0 < world.registry.count client)
    (absent : world.registry.findShared kind (cStr name) = none)
    (retains : ∀ object world, (retain object).run (World.answer granted) world =
      (.ok (), { world with registry := keep world.registry object })) :
    outcome ((createShared kind (p7 (.createChannel kind client (cStr name))) createFailed
        shareFailed retain name).run (World.answer granted) world) =
      sharedChannel granted kind keep client name world.registry := by
  rw [sharedChannel]
  by_cases grants : granted (.createChannel kind client (cStr name)) = true
  · rw [if_pos grants]
    refine outcome_createShared ?_ (by simpa using alive) absent retains
    rw [run_p7]
    simp only [World.answer, grants, if_true]
  · have created : (p7 (.createChannel kind client (cStr name))).run (World.answer granted) world =
        (.ok none, world) := by
      rw [run_p7]
      simp only [World.answer, grants]
      rfl
    rw [if_neg grants, createShared, Program.run_bind, created]
    rfl

/-- A local client gives its reference back on both exits. -/
theorem outcome_ensure (body : P7Program Nat) (client : Nat) (world : World) :
    outcome ((body.ensure (destruct (some client))).run (World.answer granted) world) =
      let ended := outcome (body.run (World.answer granted) world)
      (ended.1, ended.2.release client) := by
  rw [Program.run_ensure]
  rcases body.run (World.answer granted) world with ⟨_ | _, middle⟩ <;> rfl

/-- A channel's constructor does what the outcome says. -/
theorem outcome_constructChannel (isChannel : kind ≠ .client) (world : World) (name : Text)
    (retains : ∀ object world, (retain object).run (World.answer granted) world =
      (.ok (), { world with registry := keep world.registry object })) :
    outcome ((constructChannel kind createFailed shareFailed retain name).run
        (World.answer granted) world) = channelOutcome granted kind keep world name := by
  rw [constructChannel, run_p7_bind, channelOutcome]
  cases found : world.registry.findShared kind (cStr name) with
  | some channel =>
    rw [answer_getShared_some found]
    rfl
  | none =>
    rw [answer_getShared_none found]
    dsimp only
    have main := Client.outcome_construct granted world (ascii "main")
    rw [Program.run_bind]
    rcases ended : (Client.construct (ascii "main")).run (World.answer granted) world
      with ⟨error | client, middle⟩ <;> rw [ended] at main
    · rw [← main]
      rfl
    · have ends := Client.ends granted world (ascii "main")
      rw [← main] at ends ⊢
      obtain ⟨alive, unshared⟩ := ends.alive
      dsimp only [outcome, returned]
      rw [← outcome_sharedChannel alive (unshared kind isChannel _ found) retains]
      exact outcome_ensure _ _ _

end Channel

/-- `Log(name)` takes no reference but the one it returns. -/
def Log.outcome (granted : P7Call → Bool) (world : World) (name : Text) :
    Option Nat × Registry :=
  channelOutcome granted .trace (fun registry _ => registry) world name

/-- `Telemetry(name)` takes one more. -/
def Telemetry.outcome (granted : P7Call → Bool) (world : World) (name : Text) :
    Option Nat × Registry :=
  channelOutcome granted .telemetry Heap.addRef world name

/-- `Log(name)` does what the outcome says. -/
theorem Log.outcome_construct (granted : P7Call → Bool) (world : World) (name : Text) :
    LoggerV2.outcome ((Log.construct name).run (World.answer granted) world) =
      Log.outcome granted world name :=
  outcome_constructChannel (by decide) world name fun _ _ => rfl

/-- `Telemetry(name)` does what the outcome says. -/
theorem Telemetry.outcome_construct (granted : P7Call → Bool) (world : World) (name : Text) :
    LoggerV2.outcome ((Telemetry.construct name).run (World.answer granted) world) =
      Telemetry.outcome granted world name :=
  outcome_constructChannel (by decide) world name fun _ _ => rfl

/-- Every constructor by name creates objects and changes none, and returns one that is
shared under the name. -/
structure Makes (registry : Registry) (tag : P7Tag) (made : Option Nat × Registry) : Prop where
  grown : registry.bones <+: made.2.bones
  tagged : ∀ object ∈ made.1, made.2.tag? object = some tag

/-- An object that is found is already shared under the name. -/
theorem Makes.of_found {registry : Registry} {kind : Kind} {name : Text} {object : Nat}
    (found : registry.findShared kind name = some object) :
    Makes registry ⟨kind, some name⟩ (some object, registry.addRef object) := by
  refine ⟨by simp, ?_⟩
  rintro _ ⟨⟩
  exact tag?_grown (tag?_of_findShared found) (by simp)

/-- However `Client(name)` ends. -/
theorem Client.Ends.makes {name : Text} {made : Option Nat × Registry}
    (ends : Client.Ends granted world name made) :
    Makes world.registry ⟨.client, some (cStr name)⟩ made := by
  cases ends with
  | found isFound => exact .of_found isFound
  | unmade => exact ⟨List.prefix_refl _, by simp⟩
  | unshared => exact ⟨by simp, by simp⟩
  | shared =>
    refine ⟨by simp, ?_⟩
    rintro _ ⟨⟩
    rw [tag?_alloc, if_pos rfl]

/-- However the constructor of a channel ends. -/
theorem ChannelEnds.makes {kind : Kind} {keep : Registry → Nat → Registry} {name : Text}
    {made : Option Nat × Registry}
    (keeps : ∀ registry object, (keep registry object).bones = registry.bones)
    (ends : ChannelEnds granted kind keep world name made) :
    Makes world.registry ⟨kind, some (cStr name)⟩ made := by
  cases ends with
  | found isFound => exact .of_found isFound
  | clientless _ main => exact ⟨main.makes.grown, by simp⟩
  | uncreated _ main => exact ⟨main.makes.grown.trans (by simp), by simp⟩
  | unshared _ main => exact ⟨main.makes.grown.trans (by simp), by simp⟩
  | shared _ main =>
    refine ⟨main.makes.grown.trans (by simp [keeps]), ?_⟩
    rintro _ ⟨⟩
    rw [tag?_of_bones (bones_release _ _), tag?_of_bones (keeps _ _), tag?_alloc, if_pos rfl]

/-- Every constructor by name, whatever is refused. -/
theorem construct_makes (granted : P7Call → Bool) (world : World) (kind : Kind) (name : Text) :
    Makes world.registry ⟨kind, some (cStr name)⟩
      (outcome ((construct kind name).run (World.answer granted) world)) := by
  cases kind with
  | client =>
    rw [construct, Client.outcome_construct]
    exact (Client.ends granted world name).makes
  | trace =>
    rw [construct, Log.outcome_construct]
    exact (channel_ends _ _ _ _ _).makes fun _ _ => rfl
  | telemetry =>
    rw [construct, Telemetry.outcome_construct]
    exact (channel_ends _ _ _ _ _).makes bones_addRef

end LoggerV2
