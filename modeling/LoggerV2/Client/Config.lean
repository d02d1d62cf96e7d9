import LoggerV2.Library.OptionString
import LoggerV2.Flags.Assign

/-!
# The client configuration string

`Client::CreateClientConfig` appends one option per flag that is not the default and
trims the result. `carriesSettings_iff` says for which stores the options are those of
the flags themselves, `decode_createClientConfig_iff` for which stores they can be read
back from the string.
-/

namespace LoggerV2

open Verification Verification.OptionString Flags

/-- The options the client configuration knows, in the order they are appended. -/
inductive P7Option where
  | sink | name | on | verb | pool | addr | port | pSize | window | eto | format | facility
  | dir | roll | files | fSize
deriving DecidableEq, Repr

namespace P7Option

/-- What is written before the `=`. -/
def text : P7Option → Text
  | sink => ascii "/P7.Sink"
  | name => ascii "/P7.Name"
  | on => ascii "/P7.On"
  | verb => ascii "/P7.Verb"
  | pool => ascii "/P7.Pool"
  | addr => ascii "/P7.Addr"
  | port => ascii "/P7.Port"
  | pSize => ascii "/P7.PSize"
  | window => ascii "/P7.Window"
  | eto => ascii "/P7.Eto"
  | format => ascii "/P7.Format"
  | facility => ascii "/P7.Facility"
  | dir => ascii "/P7.Dir"
  | roll => ascii "/P7.Roll"
  | files => ascii "/P7.Files"
  | fSize => ascii "/P7.FSize"

/-- The option as a key of the option string. -/
def key (option : P7Option) : Key where
  text := option.text
  nonempty := by cases option <;> decide
  plain := by cases option <;> decide +kernel

/-- The options in the order in which they are appended. -/
def all : List P7Option :=
  [sink, name, on, verb, pool, addr, port, pSize, window, eto, format, facility, dir, roll,
    files, fSize]

theorem mem_all (option : P7Option) : option ∈ all := by
  cases option <;> decide

/-- The options have different texts. -/
theorem text_injective : Function.Injective text := by
  have distinct : ∀ first ∈ all, ∀ second ∈ all, first.text = second.text → first = second := by
    decide +kernel
  exact fun first second same => distinct first (mem_all first) second (mem_all second) same

@[simp] theorem key_text_eq_iff {first second : P7Option} :
    first.key.text = second.key.text ↔ first = second :=
  text_injective.eq_iff

end P7Option

/-- The name the sink has in the configuration. -/
def p7SinkName : LogSink → Text
  | .kBaical => ascii "Baical"
  | .kBinary => ascii "FileBin"
  | .kText => ascii "FileTxt"
  | .kSyslog => ascii "Syslog"
  | .kConsole => ascii "Console"
  | .kAuto => ascii "Auto"
  | .kNull => ascii "Null"

/-- `"/P7.Option=", value, " "`. -/
def bare (option : P7Option) (value : Text) : Field := ⟨option.key, value, false⟩

/-- `"/P7.Option=\"", value, "\" "`. -/
def inQuotes (option : P7Option) (value : Text) : Field := ⟨option.key, value, true⟩

/-- `if (!absl::GetFlag(FLAGS_flag).IsDefault()) { absl::StrAppend(…); }`. -/
def unlessDefault (store : Store) (flag : FlagName) (field : Field) : List Field :=
  if flag.isDefault (store flag) then [] else [field]

/-- What `CreateClientConfig` appends, in order. The pool size is appended under the
window's test. -/
def appendedOptions (store : Store) : List Field :=
  bare .sink (p7SinkName (store .logSink)) ::
    (unlessDefault store .logName (bare .name (store .logName).name) ++
    (unlessDefault store .logging
      (bare .on (decimal (if (store .logging).enabled then 1 else 0))) ++
    (unlessDefault store .logIntVerb (bare .verb (decimal (store .logIntVerb).toInt32.toInt)) ++
    (unlessDefault store .logWindow (bare .pool (decimal (store .logPoolSize).poolSize.toInt)) ++
    (unlessDefault store .logAddress (bare .addr (store .logAddress).address) ++
    (unlessDefault store .logPort (bare .port (decimal (store .logPort).port.toInt)) ++
    (unlessDefault store .logPacketSize
      (bare .pSize (decimal (store .logPacketSize).packetSize.toInt)) ++
    (unlessDefault store .logWindow (bare .window (decimal (store .logWindow).window.toInt)) ++
    (unlessDefault store .logEto (bare .eto (decimal (store .logEto).eto.toInt)) ++
    (unlessDefault store .logFormat (inQuotes .format (store .logFormat).format) ++
    (unlessDefault store .logFacility
      (bare .facility (decimal (store .logFacility).facility.toInt)) ++
    (unlessDefault store .logDir (bare .dir (store .logDir).dir) ++
    (unlessDefault store .logRoll (bare .roll (store .logRoll).roll) ++
    (unlessDefault store .logFiles (bare .files (decimal (store .logFiles).files.toInt)) ++
    unlessDefault store .logFSize
      (bare .fSize (decimal (store .logFSize).fsize.toInt))))))))))))))))

/-- `Client::CreateClientConfig`. -/
def createClientConfig (store : Store) : Text := trim (render (appendedOptions store))

/-- The option meant for each flag; two flags have none. -/
def optionOf : FlagName → Option P7Option
  | .logSink => some .sink
  | .logName => some .name
  | .logging => some .on
  | .logIntVerb => some .verb
  | .logTraceVerb => none
  | .logPoolSize => some .pool
  | .logHelp => none
  | .logAddress => some .addr
  | .logPort => some .port
  | .logPacketSize => some .pSize
  | .logWindow => some .window
  | .logEto => some .eto
  | .logFormat => some .format
  | .logFacility => some .facility
  | .logDir => some .dir
  | .logRoll => some .roll
  | .logFiles => some .files
  | .logFSize => some .fSize

/-- A flag's stored value, as the text of its option. -/
def storedText (store : Store) : FlagName → Text
  | .logSink => p7SinkName (store .logSink)
  | .logName => (store .logName).name
  | .logging => decimal (if (store .logging).enabled then 1 else 0)
  | .logIntVerb => decimal (store .logIntVerb).toInt32.toInt
  | .logTraceVerb => []
  | .logPoolSize => decimal (store .logPoolSize).poolSize.toInt
  | .logHelp => []
  | .logAddress => (store .logAddress).address
  | .logPort => decimal (store .logPort).port.toInt
  | .logPacketSize => decimal (store .logPacketSize).packetSize.toInt
  | .logWindow => decimal (store .logWindow).window.toInt
  | .logEto => decimal (store .logEto).eto.toInt
  | .logFormat => (store .logFormat).format
  | .logFacility => decimal (store .logFacility).facility.toInt
  | .logDir => (store .logDir).dir
  | .logRoll => (store .logRoll).roll
  | .logFiles => decimal (store .logFiles).files.toInt
  | .logFSize => decimal (store .logFSize).fsize.toInt

/-- The values appended for an option. -/
def appendedValues (store : Store) (option : P7Option) : List Text :=
  ((appendedOptions store).filter (·.key.text = option.text)).map Field.value

/-- Each flag's option is appended once, with the flag's value, when the flag is the sink
or not the default, and not at all otherwise. -/
def CarriesSettings (store : Store) : Prop :=
  ∀ flag option, optionOf flag = some option → appendedValues store option =
    if flag = .logSink ∨ flag.isDefault (store flag) = false then [storedText store flag] else []

/-- A test keeps the appended field or drops it. -/
theorem filter_unlessDefault (store : Store) (flag : FlagName) (field : Field)
    (test : Field → Bool) : (unlessDefault store flag field).filter test =
      if test field then unlessDefault store flag field else [] := by
  rw [unlessDefault]
  split_ifs <;> simp_all

/-- The appended value, if there is one. -/
theorem map_value_unlessDefault (store : Store) (flag : FlagName) (field : Field) :
    (unlessDefault store flag field).map Field.value =
      if flag.isDefault (store flag) = false then [field.value] else [] := by
  rw [unlessDefault]
  split_ifs <;> simp_all

/-- Every flag but the pool size guards its own option. -/
theorem appendedValues_eq (store : Store) {flag : FlagName} {option : P7Option}
    (carries : optionOf flag = some option) (notPool : flag ≠ .logPoolSize) :
    appendedValues store option =
      if flag = .logSink ∨ flag.isDefault (store flag) = false then [storedText store flag]
      else [] := by
  have texts : ∀ {first second : P7Option}, first.text = second.text ↔ first = second :=
    P7Option.text_injective.eq_iff
  cases flag
  case logPoolSize => exact absurd rfl notPool
  case logTraceVerb | logHelp => cases carries
  all_goals
    obtain rfl := Option.some.inj carries
    simp [appendedValues, appendedOptions, filter_unlessDefault, map_value_unlessDefault, bare,
      inQuotes, P7Option.key, texts, storedText]

/-- The pool size is appended when the window is not the default. -/
theorem appendedValues_pool (store : Store) :
    appendedValues store .pool =
      if FlagName.isDefault .logWindow (store .logWindow) = false then
        [storedText store .logPoolSize]
      else [] := by
  have texts : ∀ {first second : P7Option}, first.text = second.text ↔ first = second :=
    P7Option.text_injective.eq_iff
  simp [appendedValues, appendedOptions, filter_unlessDefault, map_value_unlessDefault, bare,
    inQuotes, P7Option.key, texts, storedText]

/-- The configuration carries the settings exactly when the pool size and the window are
both the default or both not. -/
theorem carriesSettings_iff (store : Store) :
    CarriesSettings store ↔
      (store .logPoolSize).isDefault = (store .logWindow).isDefault := by
  constructor
  · intro carries
    have pool := carries .logPoolSize .pool rfl
    rw [appendedValues_pool] at pool
    simp only [FlagName.isDefault, reduceCtorEq, false_or] at pool
    cases poolDefault : (store .logPoolSize).isDefault <;>
      cases windowDefault : (store .logWindow).isDefault <;> simp_all
  · intro agree flag option carries
    by_cases isPool : flag = .logPoolSize
    · subst isPool
      obtain rfl := Option.some.inj carries
      rw [appendedValues_pool]
      refine if_congr ?_ rfl rfl
      simp only [FlagName.isDefault, agree, reduceCtorEq, false_or]
    · exact appendedValues_eq store carries isPool

/-- `--log_pool_size=1024` alone leaves the pool size out of the configuration. -/
theorem pool_size_not_carried :
    ∃ store, (flagSystem decimalAbsl).Run [⟨.logPoolSize, ascii "1024"⟩] store ∧
      ¬ CarriesSettings store := by
  refine ⟨_, .step (.initial rfl) rfl, fun carries => ?_⟩
  have pool := carries .logPoolSize .pool rfl
  exact absurd pool (by decide +kernel)

/-- The flags that guard an append, in order. -/
def appendGuards : List FlagName :=
  [.logName, .logging, .logIntVerb, .logWindow, .logAddress, .logPort, .logPacketSize,
    .logWindow, .logEto, .logFormat, .logFacility, .logDir, .logRoll, .logFiles, .logFSize]

/-- No option is appended after the flag's own. -/
def IsLast (store : Store) (flag : FlagName) : Prop :=
  ∀ later ∈ (appendGuards.dropWhile (· ≠ flag)).tail, later.isDefault (store later) = true

instance (store : Store) (flag : FlagName) : Decidable (IsLast store flag) :=
  inferInstanceAs (Decidable (∀ later ∈ _, _))

/-- The flags whose values are free texts, with the options that carry them. -/
def freeTexts (store : Store) : List (FlagName × Field) :=
  [(.logName, bare .name (store .logName).name),
    (.logAddress, bare .addr (store .logAddress).address),
    (.logFormat, inQuotes .format (store .logFormat).format),
    (.logDir, bare .dir (store .logDir).dir),
    (.logRoll, bare .roll (store .logRoll).roll)]

/-- Every free text that is not the default reads back. -/
def Unambiguous (store : Store) : Prop :=
  ∀ text ∈ freeTexts store, text.1.isDefault (store text.1) = false →
    ReadsBack (decide (IsLast store text.1)) text.2

instance (store : Store) : Decidable (Unambiguous store) :=
  inferInstanceAs (Decidable (∀ text ∈ freeTexts store, _ → _))

/-- A field that is not appended need not survive. -/
theorem allReadBack_append (store : Store) (flag : FlagName) (field : Field)
    (rest : List Field) :
    AllReadBack (unlessDefault store flag field ++ rest) ↔
      (flag.isDefault (store flag) = false → ReadsBack rest.isEmpty field) ∧
        AllReadBack rest := by
  rw [unlessDefault]
  split_ifs <;> simp_all [AllReadBack]

/-- Nothing is appended exactly if the flags have their defaults. -/
theorem isEmpty_append_unlessDefault (store : Store) (flag : FlagName) (field : Field)
    (rest : List Field) : (unlessDefault store flag field ++ rest).isEmpty =
      (flag.isDefault (store flag) && rest.isEmpty) := by
  rw [unlessDefault]
  split_ifs <;> simp_all

/-- A default is not appended. -/
theorem isEmpty_unlessDefault (store : Store) (flag : FlagName) (field : Field) :
    (unlessDefault store flag field).isEmpty = flag.isDefault (store flag) := by
  rw [unlessDefault]
  split_ifs <;> simp_all

/-- A decimal numeral always reads back. -/
theorem readsBack_decimal (last : Bool) (option : P7Option) (value : Int) :
    ReadsBack last (bare option (decimal value)) := by
  refine readsBack_of_plain last option.key fun byte member => ?_
  rcases mem_decimal member with digit | rfl
  · grind [isDigit, quote, isSpace]
  · decide

/-- The name of a sink survives. -/
theorem readsBack_sinkName (last : Bool) (sink : LogSink) :
    ReadsBack last (bare .sink (p7SinkName sink)) := by
  refine readsBack_of_plain last _ ?_
  cases sink <;> decide +kernel

/-- Only the free texts can fail to survive. -/
theorem allReadBack_iff (store : Store) :
    AllReadBack (appendedOptions store) ↔ Unambiguous store := by
  have last : ∀ store flag field, AllReadBack (unlessDefault store flag field) ↔
      (flag.isDefault (store flag) = false → ReadsBack true field) := by
    intro store flag field
    simpa [AllReadBack] using allReadBack_append store flag field []
  simp [appendedOptions, AllReadBack, allReadBack_append, last,
    isEmpty_append_unlessDefault, isEmpty_unlessDefault, readsBack_decimal, readsBack_sinkName,
    Unambiguous, freeTexts, IsLast, appendGuards]

/-- The options come back from the configuration string exactly when the free texts are
unambiguous. -/
theorem decode_createClientConfig_iff (store : Store) :
    decode (createClientConfig store) = (appendedOptions store).map Field.pair ↔
      Unambiguous store := by
  rw [createClientConfig, decode_trim_render_iff, allReadBack_iff]

/-- A client name can switch the log engine off. -/
theorem name_sets_option :
    ∃ store, (flagSystem decimalAbsl).Run [⟨.logName, ascii "a /P7.On=0"⟩] store ∧
      decode (createClientConfig store) ≠ (appendedOptions store).map Field.pair := by
  refine ⟨_, .step (.initial rfl) rfl, ?_⟩
  decide +kernel

end LoggerV2
