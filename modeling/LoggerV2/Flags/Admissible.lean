import LoggerV2.Flags.Assign

/-!
# Admissibility of the stored flags

A store is admissible when every non-default flag would still pass the sink test of
its own parser, and a non-default window the bound of the current pool and packet
size. Parsers consult the sink, the pool and the packet size only when they run, so an
assignment of the sink or the pool size can leave the set of admissible stores.
`Undisturbing` is the exact condition on an assignment that it does not.
-/

namespace LoggerV2.Flags

open Verification

/-- Every non-default flag is permitted by the current sink, and a non-default window
fits the current pool and packet size. -/
def Admissible (store : Store) : Prop :=
  (∀ flag, flag.isDefault (store flag) = false → SinkPermits store flag) ∧
    ((store .logWindow).isDefault = false →
      (store .logWindow).window ≤ LogWindow.bound store)

/-- An assignment of the sink names one that every non-default flag permits; an
assignment of the pool size leaves room for a non-default window. Every other
assignment is free. -/
def Undisturbing (absl : Absl) (store : Store) (assignment : Assignment) : Prop :=
  match assignment.flag with
  | .logSink => ∀ sink, LogSink.abslParseFlag assignment.text = .ok sink →
      ∀ flag, flag.isDefault (store flag) = false →
        ∀ permitted ∈ permittedSinks flag, sink ∈ permitted
  | .logPoolSize => ∀ poolSize, absl.parseInt assignment.text = .ok poolSize →
      LogPoolSize.kLogPoolSizeMin ≤ poolSize → (store .logWindow).isDefault = false →
        (store .logWindow).window ≤ poolSize / (store .logPacketSize).packetSize / 2
  | _ => True

variable {absl : Absl} {store : Store}

/-- The defaults are admissible. -/
theorem admissible_default : Admissible Store.default :=
  ⟨fun flag nonDefault => absurd (Store.isDefault_default flag) (by simp [nonDefault]),
    fun nonDefault => absurd nonDefault (by decide)⟩

/-- The flags that other parsers consult. -/
def Consulted (flag : FlagName) : Prop :=
  flag = .logSink ∨ flag = .logPoolSize ∨ flag = .logPacketSize

/-- Replacing a flag that no parser consults keeps the window bound. -/
theorem bound_set {flag : FlagName} {value : flag.Value} (free : ¬ Consulted flag) :
    LogWindow.bound (store.set flag value) = LogWindow.bound store := by
  simp only [Consulted, not_or] at free
  rw [LogWindow.bound, LogWindow.bound, Store.set_other _ _ (Ne.symm free.2.1),
    Store.set_other _ _ (Ne.symm free.2.2)]

/-- Replacing a flag other than the sink keeps what the sink permits. -/
theorem sinkPermits_set {flag other : FlagName} {value : flag.Value} (free : flag ≠ .logSink) :
    SinkPermits (store.set flag value) other ↔ SinkPermits store other := by
  simp only [SinkPermits, Store.set_other _ _ (Ne.symm free)]

/-- Committing an accepted value of a flag that no parser consults keeps the store
admissible. -/
theorem Admissible.set {flag : FlagName} {value : flag.Value} (admissible : Admissible store)
    (accepted : Accepts store flag value) (free : ¬ Consulted flag) :
    Admissible (store.set flag value) := by
  have notSink : flag ≠ .logSink := fun same => free (.inl same)
  constructor
  · intro other nonDefault
    rw [sinkPermits_set notSink]
    by_cases here : other = flag
    · subst here
      rw [Store.set_self] at nonDefault
      rcases accepted with isDefault | ⟨permits, -⟩
      · simp [isDefault] at nonDefault
      · exact permits
    · rw [Store.set_other _ _ here] at nonDefault
      exact admissible.1 other nonDefault
  · intro nonDefault
    rw [bound_set free]
    by_cases here : flag = .logWindow
    · subst here
      rw [Store.set_self] at nonDefault ⊢
      rcases accepted with isDefault | ⟨-, -, upper⟩
      · exact absurd isDefault (by simpa [FlagName.isDefault] using nonDefault)
      · exact upper
    · rw [Store.set_other _ _ (Ne.symm here)] at nonDefault ⊢
      exact admissible.2 nonDefault

/-- A new sink keeps the store admissible exactly when every non-default flag permits
it. -/
theorem admissible_set_sink_iff (admissible : Admissible store) (sink : LogSink) :
    Admissible (store.set .logSink sink) ↔
      ∀ flag, flag.isDefault (store flag) = false →
        ∀ permitted ∈ permittedSinks flag, sink ∈ permitted := by
  constructor
  · intro next flag nonDefault permitted restricted
    have notSink : flag ≠ .logSink := by
      rintro rfl
      simp [permittedSinks] at restricted
    have here := next.1 flag (by rwa [Store.set_other _ _ notSink]) permitted restricted
    rwa [Store.set_self] at here
  · intro all
    constructor
    · intro flag nonDefault permitted restricted
      have notSink : flag ≠ .logSink := by
        rintro rfl
        simp [permittedSinks] at restricted
      rw [Store.set_other _ _ notSink] at nonDefault
      rw [Store.set_self]
      exact all flag nonDefault permitted restricted
    · exact admissible.2

/-- A new pool size keeps the store admissible exactly when a non-default window still
fits. -/
theorem admissible_set_pool_iff (admissible : Admissible store) (pool : LogPoolSize) :
    Admissible (store.set .logPoolSize pool) ↔
      ((store .logWindow).isDefault = false → (store .logWindow).window ≤
        pool.poolSize / (store .logPacketSize).packetSize / 2) := by
  constructor
  · exact fun next => next.2
  · intro fits
    refine ⟨fun flag nonDefault => ?_, fits⟩
    rw [sinkPermits_set (by decide)]
    by_cases here : flag = .logPoolSize
    · subst here
      exact sinkPermits_of_unrestricted rfl
    · rw [Store.set_other _ _ here] at nonDefault
      exact admissible.1 flag nonDefault

/-- From an admissible store, the assignments that reach an admissible store are
exactly the undisturbing ones. -/
theorem undisturbing_iff (assignment : Assignment) (frozen : Frozen store)
    (admissible : Admissible store) :
    Undisturbing absl store assignment ↔ Admissible (store.assign absl assignment) := by
  obtain ⟨flag, text⟩ := assignment
  rcases assign_cases absl store ⟨flag, text⟩ with
    ⟨same, rejected⟩ | ⟨value, decoded, accepted, committed⟩
  · -- A rejected text is no sink's name, or no pool size of the required minimum.
    rw [same]
    refine iff_of_true ?_ admissible
    have refused : ∀ value, decode absl flag text = .ok value → ¬ Accepts store flag value := by
      intro value decoded accepted
      have committed : store.assign? absl ⟨flag, text⟩ = some (store.set flag value) :=
        assign?_eq_some_iff.mpr ⟨value, decoded, accepted, rfl⟩
      rw [rejected] at committed
      cases committed
    cases flag
    case logSink =>
      intro sink decoded
      exact absurd (.inr ⟨sinkPermits_of_unrestricted rfl, trivial⟩) (refused sink decoded)
    case logPoolSize =>
      intro poolSize parsed enough
      have decoded : decode absl .logPoolSize text = .ok ⟨poolSize⟩ := by
        simp [decode, parsed, Except.map]
      exact absurd (.inr ⟨sinkPermits_of_unrestricted rfl, enough⟩) (refused _ decoded)
    all_goals trivial
  · rw [committed]
    cases flag
    case logSink =>
      rw [admissible_set_sink_iff admissible]
      constructor
      · exact fun undisturbing => undisturbing value decoded
      · intro all sink parsed
        obtain rfl : value = sink := Except.ok.inj (decoded.symm.trans parsed)
        exact all
    case logPoolSize =>
      rw [admissible_set_pool_iff admissible]
      obtain ⟨poolSize⟩ := value
      have parsed : absl.parseInt text = .ok poolSize := by
        cases result : absl.parseInt text <;> simp_all [decode, Except.map]
      have enough : LogPoolSize.kLogPoolSizeMin ≤ poolSize := by
        rcases accepted with isDefault | ⟨-, enough⟩
        · exact @inRange_of_isDefault store .logPoolSize _ (by simp) isDefault
        · exact enough
      constructor
      · exact fun undisturbing => undisturbing poolSize parsed enough
      · intro fits other otherParsed
        obtain rfl : poolSize = other := Except.ok.inj (parsed.symm.trans otherParsed)
        exact fun _ => fits
    case logPacketSize =>
      -- Only the default is ever accepted, so the store does not change.
      have same : store.set .logPacketSize value = store := by
        rw [accepted.eq_default (.inr rfl)]
        exact Function.update_eq_self_iff.mpr frozen.2.symm
      rw [same]
      exact iff_of_true trivial admissible
    all_goals exact iff_of_true trivial (admissible.set accepted (by simp [Consulted]))

/-- The runs of assignments that stay inside the admissible stores are exactly the runs
whose every step is undisturbing. -/
theorem run_admissible_iff (absl : Absl) (assignments : List Assignment) (store : Store) :
    ((flagSystem absl).confine Admissible).Run assignments store ↔
      ((flagSystem absl).restrict (Undisturbing absl)).Run assignments store := by
  refine (System.restrict_run_iff_confine Frozen ?_ ?_ ?_).symm
  · rintro _ rfl
    exact ⟨frozen_default, admissible_default⟩
  · rintro state assignment _ frozen rfl
    exact frozen.assign
  · rintro state assignment _ frozen admissible rfl
    exact undisturbing_iff assignment frozen admissible

/-- `--log_address=10.0.0.1 --log_sink=text` ends in a store whose address no text sink
permits. -/
theorem address_then_sink_inadmissible :
    ∃ store, (flagSystem decimalAbsl).Run
        [⟨.logAddress, ascii "10.0.0.1"⟩, ⟨.logSink, ascii "text"⟩] store ∧
      ¬ Admissible store := by
  refine ⟨_, .step (.step (.initial rfl) rfl) rfl, fun admissible => ?_⟩
  have permitted := admissible.1 .logAddress (by decide +kernel) _ rfl
  exact absurd permitted (by decide +kernel)

end LoggerV2.Flags
