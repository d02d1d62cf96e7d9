import LoggerV2.Client.Outcome

/-!
# Constructors that throw

A constructor that throws has no destructor run for it. A refused creation leaves the
registry as it was, since the local client gives its reference back; an object that P7
creates and then refuses to share is never released (`LosesShare`).
-/

namespace LoggerV2

open Verification Verification.RefCount

variable {granted : P7Call → Bool} {world : World} {registry : Registry}

/-- P7 creates the channel on the client, and refuses to share it. -/
def ChannelRefused (granted : P7Call → Bool) (kind : Kind) (name : Text) (client channel : Nat) :
    Prop :=
  granted (.createChannel kind client (cStr name)) = true ∧
    granted (.share kind channel (cStr name)) = false

/-- P7 creates the client, and refuses to share it. -/
def ClientRefused (granted : P7Call → Bool) (world : World) (name : Text) : Prop :=
  ClientMade granted world ∧
    granted (.share .client world.registry.cells.length (cStr name)) = false

/-- A channel is created on the client `"main"`, if it is found and otherwise on a new one:
P7 refuses to share that client or the channel. -/
def EitherRefused (granted : P7Call → Bool) (world : World) (kind : Kind) (name : Text) :
    (main : Option Nat) → Prop
  | some client => ChannelRefused granted kind name client world.registry.cells.length
  | none =>
    ClientRefused granted world (ascii "main") ∨
      ClientMade granted world ∧
        ChannelRefused granted kind name world.registry.cells.length
          (world.registry.cells.length + 1)

/-- A constructor by name creates an object that P7 then refuses to share. -/
def LosesShare (granted : P7Call → Bool) (world : World) (kind : Kind) (name : Text) : Prop :=
  world.registry.findShared kind (cStr name) = none ∧
    if kind = .client then ClientRefused granted world name
    else EitherRefused granted world kind name (world.registry.findShared .client mainName)

instance (granted : P7Call → Bool) (kind : Kind) (name : Text) (client channel : Nat) :
    Decidable (ChannelRefused granted kind name client channel) :=
  inferInstanceAs (Decidable (_ ∧ _))

instance (granted : P7Call → Bool) (world : World) (name : Text) :
    Decidable (ClientRefused granted world name) :=
  inferInstanceAs (Decidable (_ ∧ _))

instance (granted : P7Call → Bool) (world : World) (kind : Kind) (name : Text) :
    (main : Option Nat) → Decidable (EitherRefused granted world kind name main)
  | some client => inferInstanceAs (Decidable (ChannelRefused granted kind name client _))
  | none => inferInstanceAs (Decidable (_ ∨ _))

instance (granted : P7Call → Bool) (world : World) (kind : Kind) (name : Text) :
    Decidable (LosesShare granted world kind name) :=
  inferInstanceAs (Decidable (_ ∧ if kind = .client then ClientRefused granted world name
    else EitherRefused granted world kind name _))

/-- `Client(name)` throws only if the name is not shared. -/
theorem Client.Ends.absent {name : Text}
    (threw : Client.Ends granted world name (none, registry)) :
    world.registry.findShared .client (cStr name) = none := by
  cases threw with
  | unmade absent => exact absent
  | unshared absent => exact absent

/-- `Client(name)` that throws: a client that is not shared stays alive. -/
theorem Client.Ends.restores_iff {name : Text}
    (threw : Client.Ends granted world name (none, registry)) :
    (∀ object, registry.count object = world.registry.count object) ↔
      ¬ ClientRefused granted world name := by
  cases threw with
  | unmade _ unmade => exact iff_of_true (fun _ => rfl) fun refused => unmade refused.1
  | unshared _ made refused =>
    refine iff_of_false (fun same => ?_) (not_not_intro ⟨made, refused⟩)
    have leaked := same world.registry.cells.length
    rw [count_alloc (by simp), if_pos rfl, count_of_length_le (Nat.le_refl _)] at leaked
    cases leaked

/-- A client that is returned and given back leaves every count as it was. -/
theorem Client.Ends.count_release {name : Text} {client : Nat}
    (ends : Client.Ends granted world name (some client, registry)) (object : Nat) :
    (registry.release client).count object = world.registry.count object := by
  cases ends with
  | found isFound =>
    have alive := alive_of_findShared isFound
    rw [RefCount.count_release (by rw [count_addRef alive, if_pos rfl]; omega), count_addRef alive]
    omega
  | shared =>
    rw [count_release_last (getElem?_alloc_length _ _) rfl rfl, count_alloc (by simp)]
    by_cases last : object = world.registry.cells.length
    · rw [if_pos last, last, count_of_length_le (Nat.le_refl _)]
    · simp [last]

/-- Giving the local client back leaves the channel that was created on it. -/
theorem count_release_channel {client : Nat} (alive : 0 < registry.count client) (kind : Kind) :
    ((registry.alloc ⟨kind, none⟩ (some client)).release client).count registry.cells.length =
      1 := by
  have older : client ≠ registry.cells.length := Nat.ne_of_lt (lt_of_alive alive)
  have holds : ∀ held ∈ some client, 0 < registry.count held := by simpa using alive
  have spare : 2 ≤ (registry.alloc (⟨kind, none⟩ : P7Tag) (some client)).count client := by
    rw [count_alloc holds, if_neg older, if_pos rfl]
    omega
  rw [count_release spare, if_neg (Ne.symm older), count_alloc holds, if_pos rfl]

/-- `Client(name)` keeps every object in the registry. -/
theorem Client.Ends.length_le {name : Text} {made : Option Nat × Registry}
    (ends : Client.Ends granted world name made) :
    world.registry.cells.length ≤ made.2.cells.length := by
  have grown := ends.makes.grown.length_le
  simpa [Heap.bones] using grown

/-- Once the client `"main"` is there, only the channel can be refused. -/
theorem eitherRefused_iff_channelRefused {kind : Kind} {name : Text} {client : Nat}
    (main : Client.Ends granted world (ascii "main") (some client, registry)) :
    EitherRefused granted world kind name (world.registry.findShared .client mainName) ↔
      ChannelRefused granted kind name client registry.cells.length := by
  cases main with
  | found isFound => rw [mainName, isFound, EitherRefused, length_addRef]
  | shared absent made grants =>
    rw [mainName, absent, EitherRefused, length_alloc]
    constructor
    · rintro (⟨-, refused⟩ | ⟨-, refused⟩)
      · rw [grants] at refused
        cases refused
      · exact refused
    · exact fun refused => .inr ⟨made, refused⟩

/-- Without the client `"main"`, only that client can have been refused. -/
theorem eitherRefused_iff_clientRefused {kind : Kind} {name : Text}
    (main : Client.Ends granted world (ascii "main") (none, registry)) :
    EitherRefused granted world kind name (world.registry.findShared .client mainName) ↔
      ClientRefused granted world (ascii "main") := by
  cases main with
  | unmade absent unmade =>
    rw [mainName, absent, EitherRefused]
    exact ⟨fun refused => refused.elim id fun later => absurd later.1 unmade, .inl⟩
  | unshared absent made refused =>
    rw [mainName, absent, EitherRefused]
    exact iff_of_true (.inl ⟨made, refused⟩) ⟨made, refused⟩

/-- `Log(name)` or `Telemetry(name)` that throws. -/
theorem ChannelEnds.restores_iff {kind : Kind} {keep : Registry → Nat → Registry} {name : Text}
    (isChannel : kind ≠ .client)
    (threw : ChannelEnds granted kind keep world name (none, registry)) :
    (∀ object, registry.count object = world.registry.count object) ↔
      ¬ LosesShare granted world kind name := by
  have loses : world.registry.findShared kind (cStr name) = none →
      (LosesShare granted world kind name ↔
        EitherRefused granted world kind name (world.registry.findShared .client mainName)) := by
    intro absent
    rw [LosesShare, if_neg isChannel, absent]
    exact and_iff_right rfl
  cases threw with
  | clientless absent main =>
    rw [loses absent, eitherRefused_iff_clientRefused main]
    exact main.restores_iff
  | uncreated absent main refused =>
    rw [loses absent, eitherRefused_iff_channelRefused main]
    exact iff_of_true main.count_release fun both => absurd (refused.symm.trans both.1) (by decide)
  | @unshared client middle absent main created refused =>
    rw [loses absent, eitherRefused_iff_channelRefused main]
    refine iff_of_false (fun same => ?_) (not_not_intro ⟨created, refused⟩)
    have leaked := same middle.cells.length
    rw [count_release_channel main.alive.1, count_of_length_le main.length_le] at leaked
    cases leaked

/-- A constructor by name that throws leaves every object's count as it was, and so the
objects that are alive, exactly when no object was created and not shared. -/
theorem construct_restores_iff {kind : Kind} {name error : Text} {last : World}
    (threw : (construct kind name).run (World.answer granted) world = (.error error, last)) :
    (∀ object, last.registry.count object = world.registry.count object) ↔
      ¬ LosesShare granted world kind name := by
  have ended : outcome ((construct kind name).run (World.answer granted) world) =
      (none, last.registry) := by
    rw [threw]
    rfl
  cases kind with
  | client =>
    rw [construct, Client.outcome_construct] at ended
    have ends := Client.ends granted world name
    rw [ended] at ends
    rw [ends.restores_iff, LosesShare, if_pos rfl, ends.absent]
    exact not_congr (and_iff_right rfl).symm
  | trace =>
    have ends := channel_ends granted .trace (fun registry _ => registry) world name
    rw [construct, Log.outcome_construct, Log.outcome] at ended
    rw [ended] at ends
    exact ends.restores_iff (by decide)
  | telemetry =>
    have ends := channel_ends granted .telemetry Heap.addRef world name
    rw [construct, Telemetry.outcome_construct, Telemetry.outcome] at ended
    rw [ended] at ends
    exact ends.restores_iff (by decide)

/-- A telemetry object that is refused leaves no client behind. -/
theorem telemetry_refused_restores :
    ∃ error last, (construct .telemetry (ascii "load")).run
        (World.answer fun request => request ≠ .createChannel .telemetry 0 (ascii "load"))
        (World.initial Flags.Store.default) = (.error error, last) ∧
      ∀ object, last.registry.count object =
        (World.initial Flags.Store.default).registry.count object := by
  obtain ⟨error, threw⟩ := @exists_error ((construct .telemetry (ascii "load")).run
    (World.answer fun request => request ≠ .createChannel .telemetry 0 (ascii "load"))
    (World.initial Flags.Store.default)) (by decide +kernel)
  exact ⟨error, _, threw, (construct_restores_iff threw).mpr (by decide +kernel)⟩

/-- A client that is not shared stays alive. -/
theorem client_unshared_leaks :
    ∃ error last, (construct .client (ascii "main")).run
        (World.answer fun request => request ≠ .share .client 0 (ascii "main"))
        (World.initial Flags.Store.default) = (.error error, last) ∧
      last.registry.count 0 = 1 ∧
        (World.initial Flags.Store.default).registry.count 0 = 0 := by
  obtain ⟨error, threw⟩ := @exists_error ((construct .client (ascii "main")).run
    (World.answer fun request => request ≠ .share .client 0 (ascii "main"))
    (World.initial Flags.Store.default)) (by decide +kernel)
  exact ⟨error, _, threw, by decide +kernel, by decide +kernel⟩

end LoggerV2
