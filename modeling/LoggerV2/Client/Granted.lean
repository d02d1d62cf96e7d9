import LoggerV2.Client.Accounts

/-!
# Constructors when nothing is refused

The exact effect of `Client(name)`, `Log(name)` and `Telemetry(name)` on the world when P7
creates and shares, and the handlers can be registered.
-/

namespace LoggerV2

open Verification Verification.RefCount

variable {world : World}

/-- The world after `RegisterUnixCrashHandlers`. -/
def World.registered (world : World) : World :=
  { world with
    atexit := world.atexit + 1
    handlers := handledSignals.reverse ++ world.handlers
    atexitData :=
      if world.atexitData.backtraceData = none then
        { world.atexitData with
          backtraceData := some []
          backtraceDataSize := backtraceBufferSize }
      else world.atexitData }

/-- Without refusals every signal gets its handler. -/
theorem run_registerSignalHandlers (signals : List Signal) (world : World) :
    (registerSignalHandlers signals).run (World.answer allGranted) world =
      (.ok (), { world with handlers := signals.reverse ++ world.handlers }) := by
  induction signals generalizing world with
  | nil => rfl
  | cons signal rest ih =>
    rw [registerSignalHandlers, run_p7_bind]
    simp only [World.answer, allGranted, if_true, List.reverse_cons, List.append_assoc,
      List.singleton_append]
    exact ih _

/-- Without refusals the crash handlers are registered. -/
theorem run_registerUnixCrashHandlers (world : World) :
    registerUnixCrashHandlers.run (World.answer allGranted) world =
      (.ok (), world.registered) := by
  rw [registerUnixCrashHandlers, run_p7_bind]
  change Program.run _ (if world.atexitData.backtraceData = none then _ else _) world = _
  by_cases missing : world.atexitData.backtraceData = none
  · rw [if_pos missing, run_p7_bind, run_p7_bind]
    simp only [World.answer, allGranted, if_true]
    rw [run_registerSignalHandlers, World.registered, if_pos missing]
  · rw [if_neg missing, run_p7_bind]
    simp only [World.answer, allGranted, if_true]
    rw [run_registerSignalHandlers, World.registered, if_neg missing]

/-- An unshared object that was just created can be shared under a name not taken. -/
theorem answer_share_new {kind : Kind} {name : Text} {holds : Option Nat}
    (alive : ∀ held ∈ holds, 0 < world.registry.count held)
    (absent : world.registry.findShared kind name = none) :
    World.answer allGranted (.share kind world.registry.cells.length name)
        { world with registry := world.registry.alloc ⟨kind, none⟩ holds } =
      (true, { world with registry := world.registry.alloc ⟨kind, some name⟩ holds }) :=
  (answer_share_created alive absent).trans (if_pos rfl)

/-- Creating and sharing under a name not taken, when the call creates. -/
theorem run_createShared {create : P7Program (Option Nat)} {createFailed shareFailed name : Text}
    {retain : Nat → P7Program Unit} {kind : Kind} {holds : Option Nat}
    (created : create.run (World.answer allGranted) world = (.ok (some world.registry.cells.length),
      { world with registry := world.registry.alloc ⟨kind, none⟩ holds }))
    (alive : ∀ held ∈ holds, 0 < world.registry.count held)
    (absent : world.registry.findShared kind (cStr name) = none) :
    (createShared kind create createFailed shareFailed retain name).run (World.answer allGranted)
      world =
      (do retain world.registry.cells.length; pure world.registry.cells.length : P7Program Nat).run
        (World.answer allGranted)
        { world with registry := world.registry.alloc ⟨kind, some (cStr name)⟩ holds } := by
  rw [createShared, Program.run_bind, created]
  dsimp only
  rw [run_p7_bind, answer_share_new alive absent]
  rfl

/-- `Client(name)` under a name that is shared. -/
theorem Client.run_construct_hit {name : Text} {client : Nat}
    (found : world.registry.findShared .client (cStr name) = some client) :
    (Client.construct name).run (World.answer allGranted) world =
      (.ok client, { world with registry := world.registry.addRef client }) := by
  rw [Client.construct, run_p7_bind, answer_getShared_some found]
  rfl

/-- `Client(name)` under a name that is not. -/
theorem Client.run_construct_miss {name : Text}
    (absent : world.registry.findShared .client (cStr name) = none) :
    (Client.construct name).run (World.answer allGranted) world =
      (.ok world.registry.cells.length, { world.registered with
        registry := world.registry.alloc ⟨.client, some (cStr name)⟩ none }) := by
  rw [Client.construct, run_p7_bind, answer_getShared_none absent]
  dsimp only
  rw [Program.run_bind, run_registerUnixCrashHandlers]
  dsimp only
  rw [run_p7_bind]
  exact @run_createShared world.registered _ _ _ _ _ .client none rfl (by simp) absent

/-- `Client(name)` shares no channel. -/
theorem Client.findShared_construct {name other : Text} {kind : Kind} {client : Nat} {last : World}
    (ran : (Client.construct name).run (World.answer allGranted) world = (.ok client, last))
    (isChannel : kind ≠ .client) (absent : world.registry.findShared kind other = none) :
    last.registry.findShared kind other = none := by
  cases found : world.registry.findShared .client (cStr name) with
  | some client =>
    obtain ⟨-, rfl⟩ := Prod.mk.inj ((run_construct_hit found).symm.trans ran)
    exact (findLive_addRef (alive_of_findShared found)).trans absent
  | none =>
    obtain ⟨-, rfl⟩ := Prod.mk.inj ((run_construct_miss found).symm.trans ran)
    refine (findLive_alloc (by simp) absent).trans (if_neg ?_)
    simp [Ne.symm isChannel]

/-- `Log(name)` or `Telemetry(name)` under a name that is shared. -/
theorem run_constructChannel_hit {kind : Kind} {createFailed shareFailed name : Text}
    {retain : Nat → P7Program Unit} {channel : Nat}
    (found : world.registry.findShared kind (cStr name) = some channel) :
    (constructChannel kind createFailed shareFailed retain name).run (World.answer allGranted)
      world = (.ok channel, { world with registry := world.registry.addRef channel }) := by
  rw [constructChannel, run_p7_bind, answer_getShared_some found]
  rfl

/-- `Log(name)` or `Telemetry(name)` under a name that is not, after the local client. -/
theorem run_constructChannel_miss {kind : Kind} {createFailed shareFailed name : Text}
    {retain : Nat → P7Program Unit} {client : Nat} {middle last : World}
    (absent : world.registry.findShared kind (cStr name) = none)
    (constructed : (Client.construct (ascii "main")).run (World.answer allGranted) world =
      (.ok client, middle))
    (alive : 0 < middle.registry.count client)
    (still : middle.registry.findShared kind (cStr name) = none)
    (retained : (retain middle.registry.cells.length).run (World.answer allGranted) { middle with
      registry := middle.registry.alloc ⟨kind, some (cStr name)⟩ (some client) } = (.ok (), last)) :
    (constructChannel kind createFailed shareFailed retain name).run (World.answer allGranted)
      world = (.ok middle.registry.cells.length,
        { last with registry := last.registry.release client }) := by
  rw [constructChannel, run_p7_bind, answer_getShared_none absent]
  dsimp only
  rw [Program.run_bind, constructed]
  dsimp only
  rw [Program.run_ensure, @run_createShared middle _ _ _ _ _ kind (some client) rfl
    (by simpa using alive) still, Program.run_bind, retained]
  rfl

/-- How many P7 clients were ever created. -/
def Registry.clients (registry : Registry) : Nat :=
  registry.bones.countP fun bone => bone.1.kind = .client

/-- The name of the client that channels are created on. -/
def mainName : Text := cStr (ascii "main")

/-- The object was shared as the client `"main"`. -/
def IsMain (registry : Registry) (object : Nat) : Prop :=
  registry.bones[object]?.map Prod.fst = some ⟨.client, some mainName⟩

/-- Every channel holds a client that was shared as `"main"`. -/
def MainChannels (registry : Registry) : Prop :=
  ∀ bone ∈ registry.bones, bone.1.kind ≠ .client →
    ∃ client, bone.2 = some client ∧ IsMain registry client

/-- Whether a construction by name finds a client, so that it registers no handlers: the
client itself, or the client `"main"` of a channel. -/
def FindsClient (registry : Registry) (kind : Kind) (name : Text) : Prop :=
  (registry.findShared .client (if kind = .client then cStr name else mainName)).isSome

instance (registry : Registry) (kind : Kind) (name : Text) :
    Decidable (FindsClient registry kind name) :=
  inferInstanceAs (Decidable ((registry.findShared _ _).isSome = true))

/-- What a granted construction does to the world: a handler is registered, and a client
created, exactly when none is found. `kept` are the references the object keeps. -/
structure Built (world : World) (refs : List Nat) (finds : Prop) [Decidable finds]
    (object : Nat) (kept : List Nat) (last : World) : Prop where
  balanced : Balanced last.registry (object :: kept ++ refs)
  rest : ∃ registry, last = { (if finds then world else world.registered) with registry }
  grown : world.registry.bones <+: last.registry.bones
  clients : last.registry.clients = world.registry.clients + if finds then 0 else 1
  channels : MainChannels world.registry → MainChannels last.registry

variable {refs : List Nat}

theorem IsMain.grown {registry next : Registry} {object : Nat} (isMain : IsMain registry object)
    (grown : registry.bones <+: next.bones) : IsMain next object :=
  tag?_grown isMain grown

/-- Whose channels there are does not depend on counts. -/
theorem MainChannels.of_bones {registry next : Registry} (channels : MainChannels registry)
    (same : next.bones = registry.bones) : MainChannels next := by
  intro bone member notClient
  rw [same] at member
  obtain ⟨client, held, isMain⟩ := channels bone member notClient
  exact ⟨client, held, isMain.grown (by simp [same])⟩

/-- A new channel belongs to the client `"main"`. -/
theorem MainChannels.append {registry next : Registry} {bone : P7Tag × Option Nat}
    (channels : MainChannels registry) (grown : next.bones = registry.bones ++ [bone])
    (holds : bone.1.kind ≠ .client → ∃ client, bone.2 = some client ∧ IsMain registry client) :
    MainChannels next := by
  have later : registry.bones <+: next.bones := ⟨_, grown.symm⟩
  intro other member notClient
  rw [grown] at member
  rcases List.mem_append.mp member with old | new
  · obtain ⟨client, held, isMain⟩ := channels other old notClient
    exact ⟨client, held, isMain.grown later⟩
  · obtain rfl := List.mem_singleton.mp new
    obtain ⟨client, held, isMain⟩ := holds notClient
    exact ⟨client, held, isMain.grown later⟩

/-- While a channel is alive, the client `"main"` is. -/
theorem findShared_main_of_channel {registry : Registry} {kind : Kind} {name : Text} {object : Nat}
    (balanced : Balanced registry refs) (channels : MainChannels registry)
    (isChannel : kind ≠ .client) (found : registry.findShared kind name = some object) :
    (registry.findShared .client mainName).isSome := by
  obtain ⟨cell, isCell, alive, tag⟩ := findShared_eq_some found
  have member : (cell.tag, cell.holds) ∈ registry.bones :=
    List.mem_map.mpr ⟨cell, List.mem_of_getElem? isCell, rfl⟩
  obtain ⟨client, holds, isMain⟩ := channels _ member (by rw [tag]; exact isChannel)
  have clientAlive := balanced.alive_of_held isCell alive holds
  obtain ⟨clientCell, isClient⟩ := exists_cell clientAlive
  rw [count_of_found isClient] at clientAlive
  rw [IsMain, getElem?_bones, isClient, Option.map_some, Option.map_some,
    Option.some.injEq] at isMain
  have isMain : clientCell.tag = ⟨.client, some mainName⟩ := isMain
  exact findLive_isSome isClient clientAlive (by simp [isMain])

/-- `Client(name)` under a name that is shared. -/
theorem Client.built_hit {name : Text} {client : Nat} (balanced : Balanced world.registry refs)
    (found : world.registry.findShared .client (cStr name) = some client) :
    Built world refs (FindsClient world.registry .client name) client []
      { world with registry := world.registry.addRef client } := by
  have finds : FindsClient world.registry .client name := by simp [FindsClient, found]
  refine ⟨balanced.addRef (alive_of_findShared found), ⟨_, by rw [if_pos finds]⟩, by simp, ?_, ?_⟩
  · simp [Registry.clients, finds]
  · simp [MainChannels, IsMain]

/-- `Client(name)` under a name that is not. -/
theorem Client.built_miss {name : Text} (balanced : Balanced world.registry refs)
    (absent : world.registry.findShared .client (cStr name) = none) :
    Built world refs (FindsClient world.registry .client name) world.registry.cells.length []
      { world.registered with
        registry := world.registry.alloc ⟨.client, some (cStr name)⟩ none } := by
  have finds : ¬ FindsClient world.registry .client name := by simp [FindsClient, absent]
  refine ⟨balanced.alloc (by simp), ⟨_, by rw [if_neg finds]⟩, by simp, ?_, fun channels => ?_⟩
  · simp [Registry.clients, finds]
  · exact channels.append (bones_alloc _ _ _) fun notClient => absurd rfl notClient

/-- A granted `Client(name)`. -/
theorem Client.exists_built (name : Text) (balanced : Balanced world.registry refs) :
    ∃ client last,
      (Client.construct name).run (World.answer allGranted) world = (.ok client, last) ∧
      Built world refs (FindsClient world.registry .client name) client [] last ∧
      last.registry.bones[client]?.map Prod.fst = some ⟨.client, some (cStr name)⟩ := by
  cases found : world.registry.findShared .client (cStr name) with
  | some client =>
    refine ⟨client, _, run_construct_hit found, built_hit balanced found, ?_⟩
    exact tag?_grown (tag?_of_findShared found) (by simp)
  | none =>
    refine ⟨_, _, run_construct_miss found, built_miss balanced found, ?_⟩
    rw [getElem?_bones, getElem?_alloc_length]
    rfl

/-- A granted `Log(name)` or `Telemetry(name)`. -/
theorem exists_built_channel {kind : Kind} {createFailed shareFailed : Text}
    {retain : Nat → P7Program Unit} {kept : Nat → List Nat} (name : Text)
    (isChannel : kind ≠ .client) (keeps : Keeps retain kept)
    (balanced : Balanced world.registry refs) (channels : MainChannels world.registry) :
    ∃ channel taken last,
      (constructChannel kind createFailed shareFailed retain name).run (World.answer allGranted)
        world = (.ok channel, last) ∧
      Built world refs (FindsClient world.registry kind name) channel taken last ∧
      (taken = [] ∨ taken = kept channel) := by
  have same : FindsClient world.registry kind name =
      FindsClient world.registry .client (ascii "main") := by
    rw [FindsClient, FindsClient, if_neg isChannel]
    rfl
  simp only [same]
  cases found : world.registry.findShared kind (cStr name) with
  | some channel =>
    have finds : FindsClient world.registry .client (ascii "main") :=
      findShared_main_of_channel balanced channels isChannel found
    refine ⟨channel, [], _, run_constructChannel_hit found, ⟨?_, ⟨_, by rw [if_pos finds]⟩, by simp,
      ?_, ?_⟩, .inl rfl⟩
    · exact balanced.addRef (alive_of_findShared found)
    · simp [Registry.clients, finds]
    · simp [MainChannels, IsMain]
  | none =>
    obtain ⟨client, middle, constructed, built, isMain⟩ :=
      Client.exists_built (ascii "main") balanced
    have alive := built.balanced.alive_of_mem List.mem_cons_self
    have created : Balanced (middle.registry.alloc ⟨kind, some (cStr name)⟩ (some client))
        (middle.registry.cells.length :: client :: refs) :=
      built.balanced.alloc (by simpa using alive)
    obtain ⟨registry, retained, owns, bones⟩ := keeps allGranted _ _ { middle with
      registry := middle.registry.alloc ⟨kind, some (cStr name)⟩ (some client) } created
    have ran := @run_constructChannel_miss world _ createFailed shareFailed name _ _ _ _ found
      constructed alive (Client.findShared_construct constructed isChannel found) retained
    have whole : (registry.release client).bones =
        middle.registry.bones ++ [(⟨kind, some (cStr name)⟩, some client)] := by
      rw [bones_release, bones, bones_alloc]
    have later : middle.registry.bones <+: (registry.release client).bones := ⟨_, whole.symm⟩
    refine ⟨_, kept middle.registry.cells.length, _, ran, ⟨?_, ?_, built.grown.trans later, ?_, ?_⟩,
      .inr rfl⟩
    · exact (owns.perm List.perm_middle).release
    · obtain ⟨_, rest⟩ := built.rest
      exact ⟨_, by rw [rest]⟩
    · change Registry.clients (registry.release client) = _
      rw [Registry.clients, whole, List.countP_append, ← built.clients]
      simp [Registry.clients, isChannel]
    · intro channels
      exact (built.channels channels).append whole fun _ => ⟨client, rfl, isMain⟩

/-- A granted construction by name; only a telemetry object keeps a reference. -/
theorem exists_built (kind : Kind) (name : Text) (balanced : Balanced world.registry refs)
    (channels : MainChannels world.registry) :
    ∃ object kept last,
      (construct kind name).run (World.answer allGranted) world = (.ok object, last) ∧
      Built world refs (FindsClient world.registry kind name) object kept last ∧
      (kind ≠ .telemetry → kept = []) := by
  cases kind with
  | client =>
    obtain ⟨client, last, ran, built, -⟩ := Client.exists_built name balanced
    exact ⟨client, [], last, ran, built, fun _ => rfl⟩
  | trace =>
    obtain ⟨trace, kept, last, ran, built, taken⟩ :=
      @exists_built_channel world refs .trace (ascii "P7_Create_Trace failed")
        (ascii "trace_->Share(" ++ cStr name ++ ascii ") failed.") _ _ name (by decide)
        keeps_nothing balanced channels
    exact ⟨trace, kept, last, ran, built, fun _ => taken.elim id id⟩
  | telemetry =>
    obtain ⟨telemetry, kept, last, ran, built, -⟩ :=
      @exists_built_channel world refs .telemetry (ascii "P7_Create_Telemetry failed")
        (ascii "telemetry_->Share(" ++ name ++ ascii ") failed.") _ _ name (by decide)
        keeps_addRef balanced channels
    exact ⟨telemetry, kept, last, ran, built, fun other => absurd rfl other⟩

end LoggerV2
