import LoggerV2.Library.Digits
import LoggerV2.Client.Config

/-!
# What P7 is told

The configuration string keeps apart the stores that differ in a flag it carries, as long as
their free texts can be read back (`createClientConfig_eq_iff`).
-/

namespace LoggerV2

open Verification Verification.OptionString Flags

/-- The flag's option is written when its value is not the default; the pool's when the
window is not. -/
def Transmits (store : Store) (flag : FlagName) : Prop :=
  (optionOf flag).isSome ∧ (flag = .logPoolSize → (store .logWindow).isDefault = false)

/-- The stores agree on every flag whose option is written. -/
def SameTransmitted (store other : Store) : Prop :=
  ∀ flag, Transmits store flag → store flag = other flag

variable {store other : Store} {flag : FlagName} {option : P7Option}

/-- The sinks have different names in P7. -/
theorem p7SinkName_injective : Function.Injective p7SinkName := by
  intro first second same
  cases first <;> cases second <;> first | rfl | exact absurd same (by decide +kernel)

/-- The internal verbosities have different numbers. -/
theorem toInt32_injective : Function.Injective LogInternalVerbosityLevel.toInt32 := by
  intro first second same
  cases first <;> cases second <;> first | rfl | exact absurd same (by decide)

/-- On and off are written differently. -/
theorem enabled_injective :
    Function.Injective fun enabled : Bool => decimal (if enabled then 1 else 0) := by
  intro first second same
  have numbers := decimal_injective same
  cases first <;> cases second <;> first | rfl | cases numbers

/-- The text of an option shows the flag's value. -/
theorem eq_of_storedText (carried : optionOf flag = some option)
    (same : storedText store flag = storedText other flag) : store flag = other flag := by
  have ints : ∀ {first second : Int32}, decimal first.toInt = decimal second.toInt →
      first = second := fun same => Int32.toInt_inj.mp (decimal_injective same)
  cases flag
  case logTraceVerb | logHelp => cases carried
  case logSink => exact p7SinkName_injective same
  case logName => exact congrArg LogName.mk same
  case logging => exact congrArg LoggingEnabled.mk (enabled_injective same)
  case logIntVerb => exact toInt32_injective (ints same)
  case logPoolSize => exact congrArg LogPoolSize.mk (ints same)
  case logAddress => exact congrArg LogAddress.mk same
  case logPort => exact congrArg LogPort.mk (ints same)
  case logPacketSize => exact congrArg LogPacketSize.mk (ints same)
  case logWindow => exact congrArg LogWindow.mk (ints same)
  case logEto => exact congrArg LogEto.mk (ints same)
  case logFormat => exact congrArg LogFormat.mk same
  case logFacility => exact congrArg LogFacility.mk (ints same)
  case logDir => exact congrArg LogDir.mk same
  case logRoll => exact congrArg LogRoll.mk same
  case logFiles => exact congrArg LogFiles.mk (ints same)
  case logFSize => exact congrArg LogFSize.mk (Int64.toInt_inj.mp (decimal_injective same))

/-- The values of an option, from the pairs that are read back. -/
theorem appendedValues_eq_of_pairs (store : Store) (option : P7Option) :
    appendedValues store option =
      (((appendedOptions store).map Field.pair).filter fun pair => pair.1 = option.text).map
        Prod.snd := by
  rw [appendedValues, List.filter_map, List.map_map]
  rfl

/-- What is written can be read off the configuration string. -/
theorem sameTransmitted_of_eq (one : Unambiguous store) (two : Unambiguous other)
    (same : createClientConfig store = createClientConfig other) : SameTransmitted store other := by
  have pairs := (decode_createClientConfig_iff store).mpr one
  rw [same, (decode_createClientConfig_iff other).mpr two] at pairs
  have values : ∀ option, appendedValues store option = appendedValues other option := by
    intro option
    rw [appendedValues_eq_of_pairs, appendedValues_eq_of_pairs, pairs]
  have agree : ∀ flag option, optionOf flag = some option → flag ≠ .logPoolSize →
      store flag = other flag := by
    intro flag option carried notPool
    have value := values option
    rw [appendedValues_eq store carried notPool, appendedValues_eq other carried notPool] at value
    split_ifs at value with first second second
    · exact eq_of_storedText carried (List.singleton_inj.mp value)
    · obtain ⟨-, one⟩ := not_or.mp first
      obtain ⟨-, two⟩ := not_or.mp second
      have here : flag.isDefault (store flag) = true := by simpa using one
      have there : flag.isDefault (other flag) = true := by simpa using two
      rw [eq_default_of_isDefault here, eq_default_of_isDefault there]
  rintro flag ⟨carried, written⟩
  by_cases isPool : flag = .logPoolSize
  · subst isPool
    have here : (store .logWindow).isDefault = false := written rfl
    have there : (other .logWindow).isDefault = false := by
      rw [← agree .logWindow .window rfl (by decide)]
      exact here
    have value := values .pool
    rw [appendedValues_pool, appendedValues_pool] at value
    simp only [FlagName.isDefault, here, there, if_true] at value
    exact @eq_of_storedText _ _ .logPoolSize .pool rfl (List.singleton_inj.mp value)
  · obtain ⟨option, carried⟩ := Option.isSome_iff_exists.mp carried
    exact agree flag option carried isPool

/-- The options depend on nothing else. -/
theorem appendedOptions_eq (agree : SameTransmitted store other) :
    appendedOptions store = appendedOptions other := by
  have carried : ∀ flag : FlagName, (optionOf flag).isSome → flag ≠ .logPoolSize →
      store flag = other flag :=
    fun flag carried notPool => agree flag ⟨carried, fun isPool => absurd isPool notPool⟩
  have pool :
      unlessDefault store .logWindow (bare .pool (decimal (store .logPoolSize).poolSize.toInt)) =
        unlessDefault other .logWindow
          (bare .pool (decimal (other .logPoolSize).poolSize.toInt)) := by
    have window : store .logWindow = other .logWindow := carried .logWindow rfl (by decide)
    rw [unlessDefault, unlessDefault, ← window]
    split_ifs with isDefault
    · rfl
    · have written : (store .logWindow).isDefault = false := by
        simpa [FlagName.isDefault] using isDefault
      rw [agree .logPoolSize ⟨rfl, fun _ => written⟩]
  rw [appendedOptions, appendedOptions, pool]
  simp only [unlessDefault, carried .logSink rfl (by decide), carried .logName rfl (by decide),
    carried .logging rfl (by decide), carried .logIntVerb rfl (by decide),
    carried .logAddress rfl (by decide), carried .logPort rfl (by decide),
    carried .logPacketSize rfl (by decide), carried .logWindow rfl (by decide),
    carried .logEto rfl (by decide), carried .logFormat rfl (by decide),
    carried .logFacility rfl (by decide), carried .logDir rfl (by decide),
    carried .logRoll rfl (by decide), carried .logFiles rfl (by decide),
    carried .logFSize rfl (by decide)]

/-- Two stores whose free texts can be read back configure the client alike exactly if they
agree on every flag that is written. -/
theorem createClientConfig_eq_iff (one : Unambiguous store) (two : Unambiguous other) :
    createClientConfig store = createClientConfig other ↔ SameTransmitted store other := by
  refine ⟨sameTransmitted_of_eq one two, fun agree => ?_⟩
  rw [createClientConfig, createClientConfig, appendedOptions_eq agree]

/-- With a name and a directory of its own, the pool size alone is not written, another
directory is. -/
theorem createClientConfig_dir :
    ∃ store, (store .logName).name = ascii "load" ∧ (store .logDir).dir = ascii "/var/log" ∧
      createClientConfig store = createClientConfig (store.set .logPoolSize ⟨1024⟩) ∧
      createClientConfig store ≠ createClientConfig (store.set .logDir ⟨ascii "/tmp"⟩) := by
  let named : Store :=
    (Store.default.set .logName ⟨ascii "load"⟩).set .logDir ⟨ascii "/var/log"⟩
  have readBack : Unambiguous named := by decide +kernel
  have pooled : Unambiguous (named.set .logPoolSize ⟨1024⟩) := by decide +kernel
  have moved : Unambiguous (named.set .logDir ⟨ascii "/tmp"⟩) := by decide +kernel
  refine ⟨named, rfl, rfl, (createClientConfig_eq_iff readBack pooled).mpr fun flag written => ?_,
    (createClientConfig_eq_iff readBack moved).not.mpr fun agree => ?_⟩
  · by_cases isPool : flag = .logPoolSize
    · exact absurd (written.2 isPool) (by decide)
    · exact (Store.set_other _ _ isPool).symm
  · have sameDir := agree .logDir ⟨rfl, by decide⟩
    exact absurd sameDir (by decide +kernel)

end LoggerV2
