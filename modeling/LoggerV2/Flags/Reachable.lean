import LoggerV2.Flags.Admissible
import LoggerV2.Flags.Order
import LoggerV2.Flags.RoundTrip
import LoggerV2.Flags.Window

/-!
# The stores that command lines reach

Parsers look at other flags, but they see only the moment at which they run. Every value
that some sink and some pool size let in can therefore be combined with every other
(`reachable_iff`); the port and the packet size, whose parsers let in no value but the
default, never change. Written out in the order of the declarations, a reachable store is read
back exactly when it is admissible (`commandLine_restores_iff`).
-/

namespace LoggerV2.Flags

open Verification

/-- The flags in the order in which they are declared. -/
def FlagName.all : List FlagName :=
  [.logSink, .logName, .logging, .logIntVerb, .logTraceVerb, .logPoolSize, .logHelp, .logAddress,
    .logPort, .logPacketSize, .logWindow, .logEto, .logFormat, .logFacility, .logDir, .logRoll,
    .logFiles, .logFSize]

/-- No flag is left out. -/
theorem FlagName.mem_all (flag : FlagName) : flag ∈ FlagName.all := by
  cases flag <;> decide

/-- The largest pool there is. -/
def largestPool : LogPoolSize := ⟨Int32.maxValue⟩

/-- The default, or a value that the flag's parser stores under the largest pool and a sink
it permits. The port and the packet size have their defaults only. -/
def Attainable (flag : FlagName) (value : flag.Value) : Prop :=
  flag.isDefault value = true ∨ InRange (storeUnder kLogSinkDefault largestPool) flag value

namespace Store

theorem set_set (store : Store) {flag : FlagName} (first second : flag.Value) :
    (store.set flag first).set flag second = store.set flag second :=
  Function.update_idem first second store

/-- Setting a flag to the value it has changes nothing. -/
theorem set_same (store : Store) (flag : FlagName) : store.set flag (store flag) = store :=
  Function.update_eq_self flag store

/-- The values of some flags, with the defaults of the others. -/
def only (store : Store) (flags : List FlagName) : Store :=
  fun flag => if flag ∈ flags then store flag else default flag

variable {store : Store} {flags : List FlagName} {flag : FlagName}

/-- A flag of the list has the store's value. -/
theorem only_of_mem (member : flag ∈ flags) : store.only flags flag = store flag := if_pos member

theorem only_nil (store : Store) : store.only [] = default := by
  funext flag
  simp [only]

theorem only_all (all : ∀ flag, flag ∈ flags) : store.only flags = store := by
  funext flag
  exact only_of_mem (all flag)

/-- One more flag is one more assignment. -/
theorem only_append (store : Store) (flags : List FlagName) (flag : FlagName) :
    store.only (flags ++ [flag]) = (store.only flags).set flag (store flag) := by
  funext other
  by_cases same : other = flag
  · subst same
    rw [set_self, only_of_mem (List.mem_append_right _ List.mem_cons_self)]
  · rw [set_other _ _ same]
    simp [only, same]

end Store

variable {absl : Absl} {store : Store} {flag : FlagName} {value : flag.Value}

section Attainable

/-- Only the window's range depends on the store. -/
theorem inRange_of_bound_le {other : Store} (inRange : InRange store flag value)
    (wider : flag = .logWindow → LogWindow.bound store ≤ LogWindow.bound other) :
    InRange other flag value := by
  cases flag
  case logWindow => exact ⟨inRange.1, Int32.le_trans inRange.2 (wider rfl)⟩
  all_goals exact inRange

/-- The bound is exact under the largest pool too. -/
theorem sizesInRange_largest : SizesInRange (storeUnder kLogSinkDefault largestPool) := by
  constructor <;> decide

/-- The bound of the window grows with the pool. -/
theorem bound_le_largest (sizes : SizesInRange store) (frozen : Frozen store) :
    LogWindow.bound store ≤ LogWindow.bound (storeUnder kLogSinkDefault largestPool) := by
  have pool : (store .logPoolSize).poolSize.toInt ≤ largestPool.poolSize.toInt :=
    (store .logPoolSize).poolSize.toInt_le
  rw [Int32.le_iff_toInt_le, sizes.toInt_bound, sizesInRange_largest.toInt_bound, frozen.2]
  exact Int.ediv_le_ediv (by decide) (Int.ediv_le_ediv (by decide) pool)

/-- Every value that was stored is attainable. -/
theorem attainable_of_reachable (reachable : (flagSystem absl).Reachable store) (flag : FlagName) :
    Attainable flag (store flag) := by
  obtain ⟨assignments, run⟩ := reachable
  induction run with
  | initial valid =>
    obtain rfl := valid
    exact .inl (Store.isDefault_default flag)
  | @step assignments store assignment next prior transition ih =>
    obtain rfl := transition
    rcases assign_cases absl store assignment with ⟨same, -⟩ | ⟨value, -, accepted, committed⟩
    · rwa [same]
    · rw [committed]
      by_cases here : flag = assignment.flag
      · subst here
        rw [Store.set_self]
        refine accepted.imp_right fun passed => inRange_of_bound_le passed.2 fun _ => ?_
        exact bound_le_largest (sizesInRange_of_reachable ⟨_, prior⟩)
          (frozen_of_reachable ⟨_, prior⟩)
      · rwa [Store.set_other _ _ here]

end Attainable

section Reach

/-- An accepted value can be assigned. -/
theorem reachable_of_accepts (inverts : absl.Inverts)
    (reachable : (flagSystem absl).Reachable store)
    (accepted : Accepts store flag value) : (flagSystem absl).Reachable (store.set flag value) := by
  obtain ⟨assignments, run⟩ := reachable
  let assignment : Assignment := ⟨flag, abslUnparseFlag absl flag value⟩
  have committed : store.assign? absl assignment = some (store.set flag value) :=
    assign?_eq_some_iff.mpr ⟨value, decode_abslUnparseFlag inverts flag value, accepted, rfl⟩
  have step : store.set flag value = store.assign absl assignment := by
    rw [Store.assign, committed]
    rfl
  exact ⟨_, run.step step⟩

/-- A sink that permits the flag. -/
def FlagName.someSink (flag : FlagName) : LogSink :=
  match permittedSinks flag with
  | some (sink :: _) => sink
  | _ => kLogSinkDefault

/-- Under a sink that permits the flag and the largest pool, every attainable value is
accepted. -/
theorem accepts_of_attainable (consults : Consults flag.someSink largestPool store)
    (attainable : Attainable flag value) : Accepts store flag value := by
  rw [consults.accepts_iff]
  refine attainable.imp_right fun inRange => ⟨?_, inRange_of_bound_le inRange fun _ => ?_⟩
  · cases flag <;> simp [SinkPermits, permittedSinks, FlagName.someSink, storeUnder, Store.set]
  · exact Int32.le_of_eq rfl

/-- Any one value can be replaced by an attainable one: choose the sink and the pool it needs,
assign it, and assign the old sink and pool again. -/
theorem reachable_set (inverts : absl.Inverts) (reachable : (flagSystem absl).Reachable store)
    (attainable : Attainable flag value) : (flagSystem absl).Reachable (store.set flag value) := by
  by_cases isSink : flag = .logSink
  · subst isSink
    exact reachable_of_accepts inverts reachable (.inr ⟨sinkPermits_of_unrestricted rfl, trivial⟩)
  by_cases isPool : flag = .logPoolSize
  · subst isPool
    exact reachable_of_accepts inverts reachable
      (attainable.imp_right fun inRange => ⟨sinkPermits_of_unrestricted rfl, inRange⟩)
  have pool : ∀ {store : Store} {pool : LogPoolSize}, (flagSystem absl).Reachable store →
      LogPoolSize.kLogPoolSizeMin ≤ pool.poolSize →
      (flagSystem absl).Reachable (store.set .logPoolSize pool) :=
    fun reachable enough => reachable_of_accepts inverts reachable
      (.inr ⟨sinkPermits_of_unrestricted rfl, enough⟩)
  have sink : ∀ {store : Store} (sink : LogSink), (flagSystem absl).Reachable store →
      (flagSystem absl).Reachable (store.set .logSink sink) :=
    fun _ reachable => reachable_of_accepts inverts reachable
      (.inr ⟨sinkPermits_of_unrestricted rfl, trivial⟩)
  have enough := (sizesInRange_of_reachable reachable).pool
  let prepared := (store.set .logSink flag.someSink).set .logPoolSize largestPool
  have isReachable : (flagSystem absl).Reachable prepared := pool (sink _ reachable) (by decide)
  have consults : Consults flag.someSink largestPool prepared :=
    ⟨rfl, rfl, (frozen_of_reachable reachable).2⟩
  have assigned :=
    reachable_of_accepts inverts isReachable (accepts_of_attainable consults attainable)
  have restored := sink (store .logSink) (pool assigned enough)
  have same : ((prepared.set flag value).set .logPoolSize (store .logPoolSize)).set .logSink
      (store .logSink) = store.set flag value := by
    have pools : prepared.set .logPoolSize (store .logPoolSize) =
        store.set .logSink flag.someSink := by
      rw [Store.set_set]
      exact Store.set_same (store.set .logSink flag.someSink) .logPoolSize
    rw [Store.set_comm _ isPool, pools, Store.set_comm _ isSink, Store.set_set, Store.set_same]
  rwa [same] at restored

/-- The reachable stores are all combinations of attainable values. -/
theorem reachable_iff (inverts : absl.Inverts) :
    (flagSystem absl).Reachable store ↔ ∀ flag, Attainable flag (store flag) := by
  constructor
  · exact attainable_of_reachable
  · intro attainable
    rw [← @Store.only_all store _ FlagName.mem_all]
    induction FlagName.all using List.reverseRecOn with
    | nil =>
      rw [Store.only_nil]
      exact ⟨[], .initial rfl⟩
    | append_singleton flags flag ih =>
      rw [Store.only_append]
      exact reachable_set inverts ih (attainable flag)

/-- A window that only the largest pool admits, with the smallest pool. -/
theorem reachable_window :
    (flagSystem decimalAbsl).Reachable
      ((Store.default.set .logPoolSize ⟨16⟩).set .logWindow ⟨2097151⟩) := by
  refine (reachable_iff decimalAbsl_inverts).mpr fun flag => ?_
  cases flag
  case logPoolSize => exact .inr (by decide)
  case logWindow => exact .inr (by decide)
  all_goals exact .inl (by decide)

end Reach

section Restore

/-- All flags with the texts of their values, in the order of the declarations. -/
def commandLine (absl : Absl) (store : Store) : List Assignment :=
  FlagName.all.map fun flag => ⟨flag, abslUnparseFlag absl flag (store flag)⟩

/-- What the flag's parser consults was assigned before. -/
def Ready (before : List FlagName) (flag : FlagName) : Prop :=
  (permittedSinks flag ≠ none → .logSink ∈ before) ∧
    (flag = .logWindow → .logPoolSize ∈ before ∧ .logPacketSize ∈ before)

instance (before : List FlagName) (flag : FlagName) : Decidable (Ready before flag) :=
  inferInstanceAs (Decidable (_ ∧ (_ → _)))

/-- Each flag comes after those its parser consults. -/
def InOrder : List FlagName → List FlagName → Prop
  | _, [] => True
  | before, flag :: rest => Ready before flag ∧ InOrder (before ++ [flag]) rest

instance decidableInOrder : (before flags : List FlagName) → Decidable (InOrder before flags)
  | _, [] => isTrue trivial
  | before, flag :: rest =>
    have := decidableInOrder (before ++ [flag]) rest
    inferInstanceAs (Decidable (Ready before flag ∧ _))

/-- The flags are declared after those their parsers consult. -/
theorem inOrder_all : InOrder [] FlagName.all := by decide

/-- Once what it consults is there, a parser decides as in the whole store. -/
theorem Ready.accepts_iff {before : List FlagName} (ready : Ready before flag) :
    Accepts (store.only before) flag value ↔ Accepts store flag value := by
  have sinks : SinkPermits (store.only before) flag ↔ SinkPermits store flag := by
    by_cases restricted : permittedSinks flag = none
    · exact iff_of_true (sinkPermits_of_unrestricted restricted)
        (sinkPermits_of_unrestricted restricted)
    · rw [SinkPermits, SinkPermits, Store.only_of_mem (ready.1 restricted)]
  have bounds : flag = .logWindow →
      LogWindow.bound (store.only before) = LogWindow.bound store := by
    intro isWindow
    obtain ⟨pool, packet⟩ := ready.2 isWindow
    rw [LogWindow.bound, LogWindow.bound, Store.only_of_mem pool, Store.only_of_mem packet]
  rw [Accepts, Accepts, sinks]
  refine or_congr_right (and_congr_right fun _ => ⟨fun inRange => ?_, fun inRange => ?_⟩)
  · exact inRange_of_bound_le inRange fun isWindow => Int32.le_of_eq (bounds isWindow)
  · exact inRange_of_bound_le inRange fun isWindow => Int32.le_of_eq (bounds isWindow).symm

/-- Reading the rest of the flags back. -/
theorem processArguments_only (inverts : absl.Inverts) {before rest : List FlagName}
    (ordered : InOrder before rest) (all : ∀ flag, flag ∈ before ++ rest) :
    (store.only before).processArguments absl
        (rest.map fun flag => ⟨flag, abslUnparseFlag absl flag (store flag)⟩) = some store ↔
      ∀ flag ∈ rest, Accepts store flag (store flag) := by
  induction rest generalizing before with
  | nil =>
    rw [List.append_nil] at all
    simp [Store.processArguments, Store.only_all all]
  | cons flag rest ih =>
    obtain ⟨ready, ordered⟩ := ordered
    have next := ih ordered (by simpa using all)
    have read := decode_abslUnparseFlag inverts flag (store flag)
    let assignment : Assignment := ⟨flag, abslUnparseFlag absl flag (store flag)⟩
    rw [List.map_cons, Store.processArguments, List.forall_mem_cons, ← next, ← ready.accepts_iff]
    by_cases accepted : Accepts (store.only before) flag (store flag)
    · have committed : (store.only before).assign? absl assignment =
          some ((store.only before).set flag (store flag)) :=
        assign?_eq_some_iff.mpr ⟨store flag, read, accepted, rfl⟩
      rw [committed, Option.bind_some, Store.only_append]
      simp [accepted]
    · have refused : (store.only before).assign? absl assignment = none := by
        refine Option.eq_none_iff_forall_ne_some.mpr fun next committed => ?_
        obtain ⟨value, decoded, passed, -⟩ := assign?_eq_some_iff.mp committed
        obtain rfl : store flag = value := Except.ok.inj (read.symm.trans decoded)
        exact accepted passed
      rw [refused, Option.bind_none]
      simp [accepted]

/-- In a reachable store, each value passes its parser's checks exactly if the store is
admissible. -/
theorem forall_accepts_iff (reachable : (flagSystem absl).Reachable store) :
    (∀ flag, Accepts store flag (store flag)) ↔ Admissible store := by
  constructor
  · intro accepted
    refine ⟨fun flag nonDefault => ?_, fun nonDefault => ?_⟩
    · exact ((accepted flag).resolve_left (by simp [nonDefault])).1
    · have passed := (accepted .logWindow).resolve_left (by
        simpa [FlagName.isDefault] using nonDefault)
      exact passed.2.2
  · intro admissible flag
    rcases attainable_of_reachable reachable flag with isDefault | inRange
    · exact .inl isDefault
    · cases nonDefault : flag.isDefault (store flag)
      case true => exact .inl nonDefault
      case false =>
        refine .inr ⟨admissible.1 flag nonDefault, ?_⟩
        cases flag
        case logWindow => exact ⟨inRange.1, admissible.2 nonDefault⟩
        all_goals exact inRange

/-- Written out in the order of the declarations, the settings of a reachable store are read
back exactly if it is admissible. -/
theorem commandLine_restores_iff (inverts : absl.Inverts)
    (reachable : (flagSystem absl).Reachable store) :
    Store.default.processArguments absl (commandLine absl store) = some store ↔
      Admissible store := by
  rw [← forall_accepts_iff reachable, ← Store.only_nil store, commandLine,
    processArguments_only inverts inOrder_all FlagName.mem_all]
  exact ⟨fun accepted flag => accepted flag (FlagName.mem_all flag),
    fun accepted flag _ => accepted flag⟩

/-- A window that the pool does not admit any more is not read back. -/
theorem commandLine_misses_window :
    Store.default.processArguments decimalAbsl (commandLine decimalAbsl
        ((Store.default.set .logPoolSize ⟨16⟩).set .logWindow ⟨4⟩)) ≠
      some ((Store.default.set .logPoolSize ⟨16⟩).set .logWindow ⟨4⟩) := by
  have reachable : (flagSystem decimalAbsl).Reachable
      ((Store.default.set .logPoolSize ⟨16⟩).set .logWindow ⟨4⟩) :=
    reachable_set decimalAbsl_inverts (reachable_set decimalAbsl_inverts ⟨[], .initial rfl⟩
      (.inr (by decide))) (.inr (by decide))
  refine (commandLine_restores_iff decimalAbsl_inverts reachable).not.mpr fun admissible => ?_
  exact absurd (admissible.2 (by decide)) (by decide)

end Restore

end LoggerV2.Flags
