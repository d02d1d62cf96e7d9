import LoggerV2.Flags.Assign

/-!
# The bound of the transmission window

The bound is computed from the pool size and the packet size in `int` arithmetic. In every
reachable store it is defined, exact and not negative. The help texts give the pool size
in KiB and the packet size in bytes; the quotient leaves the factor out, so it refuses the
windows between its own bound and the documented one.
-/

namespace LoggerV2.Flags

open Verification

variable {absl : Absl} {store : Store} {text : Text}

/-- A quotient of nonnegative `int`s is that of the integers. -/
theorem toInt_div_of_nonneg {left right : Int32} (nonneg : 0 ≤ left) :
    (left / right).toInt = left.toInt / right.toInt := by
  have notMin : left ≠ Int32.minValue := by
    rintro rfl
    exact absurd nonneg (by decide)
  rw [Int32.toInt_div_of_ne_left _ _ notMin]
  exact Int.tdiv_eq_ediv_of_nonneg (Int32.le_iff_toInt_le.mp nonneg)

/-- The sizes that the parsers of the pool and the packet size let in. -/
structure SizesInRange (store : Store) : Prop where
  pool : LogPoolSize.kLogPoolSizeMin ≤ (store .logPoolSize).poolSize
  packetMin : LogPacketSize.kPacketSizeMin ≤ (store .logPacketSize).packetSize
  packetMax : (store .logPacketSize).packetSize ≤ LogPacketSize.kPacketSizeMax

namespace SizesInRange

theorem pool_toInt (sizes : SizesInRange store) : 16 ≤ (store .logPoolSize).poolSize.toInt :=
  Int32.le_iff_toInt_le.mp sizes.pool

theorem packet_toInt (sizes : SizesInRange store) :
    512 ≤ (store .logPacketSize).packetSize.toInt :=
  Int32.le_iff_toInt_le.mp sizes.packetMin

/-- The first dividend is not negative. -/
theorem pool_nonneg (sizes : SizesInRange store) : 0 ≤ (store .logPoolSize).poolSize := by
  have pool := sizes.pool_toInt
  exact Int32.le_iff_toInt_le.mpr (by simp; omega)

/-- The first divisor is positive. -/
theorem packet_pos (sizes : SizesInRange store) : 0 < (store .logPacketSize).packetSize := by
  have packet := sizes.packet_toInt
  exact Int32.lt_iff_toInt_lt.mpr (by simp; omega)

/-- The first quotient is that of the integers. -/
theorem toInt_ratio (sizes : SizesInRange store) :
    ((store .logPoolSize).poolSize / (store .logPacketSize).packetSize).toInt =
      (store .logPoolSize).poolSize.toInt / (store .logPacketSize).packetSize.toInt :=
  toInt_div_of_nonneg sizes.pool_nonneg

/-- The second dividend is not negative. -/
theorem ratio_nonneg (sizes : SizesInRange store) :
    0 ≤ (store .logPoolSize).poolSize / (store .logPacketSize).packetSize := by
  have pool := sizes.pool_toInt
  have packet := sizes.packet_toInt
  rw [Int32.le_iff_toInt_le, sizes.toInt_ratio]
  exact Int.ediv_nonneg (by omega) (by omega)

/-- The bound is the quotient of the integers. -/
theorem toInt_bound (sizes : SizesInRange store) :
    (LogWindow.bound store).toInt =
      (store .logPoolSize).poolSize.toInt / (store .logPacketSize).packetSize.toInt / 2 := by
  rw [LogWindow.bound, toInt_div_of_nonneg sizes.ratio_nonneg, sizes.toInt_ratio]
  rfl

theorem bound_nonneg (sizes : SizesInRange store) : 0 ≤ LogWindow.bound store := by
  have pool := sizes.pool_toInt
  have packet := sizes.packet_toInt
  rw [Int32.le_iff_toInt_le, sizes.toInt_bound]
  exact Int.ediv_nonneg (Int.ediv_nonneg (by omega) (by omega)) (by decide)

end SizesInRange

/-- `absl::ParseFlag` at `int` on the numeral of an integer: its value, or an error where no
`int` has it. -/
def Absl.ReadsInt (absl : Absl) (text : Text) (value : Int) : Prop :=
  (∃ read : Int32, absl.parseInt text = .ok read ∧ read.toInt = value) ∨
    (∀ read : Int32, read.toInt ≠ value) ∧ ∃ message, absl.parseInt text = .error message

/-- Half the number of packets in the pool, with the pool in KiB and the packet in bytes. -/
def documentedBound (store : Store) : Int :=
  (store .logPoolSize).poolSize.toInt * 1024 / (store .logPacketSize).packetSize.toInt / 2

/-- A nonzero window is accepted when that many packets, twice, are no more than the number
that the pool size is. -/
theorem LogWindow.accepts_iff {window : Int} (sizes : SizesInRange store)
    (sink : store .logSink ∈ [LogSink.kBaical, .kAuto]) (nonzero : window ≠ 0)
    (reads : absl.ReadsInt text window) :
    (∃ flag, LogWindow.abslParseFlag absl store text = .ok flag) ↔
      1 ≤ window ∧ window * ((store .logPacketSize).packetSize.toInt * 2) ≤
        (store .logPoolSize).poolSize.toInt := by
  have pool := sizes.pool_toInt
  have packet := sizes.packet_toInt
  have bound : window ≤ (LogWindow.bound store).toInt ↔
      window * ((store .logPacketSize).packetSize.toInt * 2) ≤
        (store .logPoolSize).poolSize.toInt := by
    rw [sizes.toInt_bound, Int.ediv_ediv_of_nonneg (by omega), Int.le_ediv_iff_mul_le (by omega)]
  rw [← bound]
  simp only [LogWindow.abslParseFlag_eq_ok_iff, LogWindow.isDefault, decide_eq_true_eq]
  rcases reads with ⟨read, parsed, rfl⟩ | ⟨unfit, message, refused⟩
  · have notDefault : read ≠ kLogWindowDefault.window := by
      rintro rfl
      exact nonzero rfl
    simp only [parsed, Except.map, Except.ok.injEq]
    constructor
    · rintro ⟨_, rfl, isDefault | ⟨-, lower, upper⟩⟩
      · exact absurd isDefault notDefault
      · exact ⟨Int32.le_iff_toInt_le.mp lower, Int32.le_iff_toInt_le.mp upper⟩
    · rintro ⟨lower, upper⟩
      exact ⟨⟨read⟩, rfl, .inr ⟨sink, Int32.le_iff_toInt_le.mpr lower,
        Int32.le_iff_toInt_le.mpr upper⟩⟩
  · -- An integer up to the bound is the value of an `int`.
    simp only [refused, Except.map, reduceCtorEq, false_and, exists_false, false_iff]
    rintro ⟨lower, upper⟩
    have small := (LogWindow.bound store).toInt_lt
    exact unfit (Int32.ofInt window) (Int32.toInt_ofInt_of_le (by omega) (by omega))

/-- A window is accepted as the documented units say, unless the packets it stands for,
twice, outnumber the pool size and still fit into the pool. -/
theorem LogWindow.in_units_iff {window : Int} (sizes : SizesInRange store)
    (sink : store .logSink ∈ [LogSink.kBaical, .kAuto]) (nonzero : window ≠ 0)
    (reads : absl.ReadsInt text window) :
    ((∃ flag, LogWindow.abslParseFlag absl store text = .ok flag) ↔
      1 ≤ window ∧ window ≤ documentedBound store) ↔
    ¬ ((store .logPoolSize).poolSize.toInt <
        window * ((store .logPacketSize).packetSize.toInt * 2) ∧
      window * ((store .logPacketSize).packetSize.toInt * 2) ≤
        (store .logPoolSize).poolSize.toInt * 1024) := by
  have pool := sizes.pool_toInt
  have packet := sizes.packet_toInt
  have documented : window ≤ documentedBound store ↔
      window * ((store .logPacketSize).packetSize.toInt * 2) ≤
        (store .logPoolSize).poolSize.toInt * 1024 := by
    rw [documentedBound, Int.ediv_ediv_of_nonneg (by omega), Int.le_ediv_iff_mul_le (by omega)]
  have negative : ¬ 1 ≤ window →
      window * ((store .logPacketSize).packetSize.toInt * 2) ≤ 0 := fun below =>
    Int.mul_nonpos_of_nonpos_of_nonneg (by omega) (by omega)
  rw [LogWindow.accepts_iff sizes sink nonzero reads, documented]
  by_cases positive : 1 ≤ window
  · simp only [positive, true_and]
    omega
  · have below := negative positive
    simp only [positive, false_and, true_iff]
    omega

/-- The default sizes are in range. -/
theorem sizesInRange_default : SizesInRange Store.default := by
  constructor <;> decide

/-- The window 4 under the default sizes. -/
theorem LogWindow.in_units_four :
    ((∃ flag, LogWindow.abslParseFlag decimalAbsl Store.default (ascii "4") = .ok flag) ↔
      (1 : Int) ≤ 4 ∧ 4 ≤ documentedBound Store.default) ↔
    ¬ ((Store.default .logPoolSize).poolSize.toInt <
        4 * ((Store.default .logPacketSize).packetSize.toInt * 2) ∧
      4 * ((Store.default .logPacketSize).packetSize.toInt * 2) ≤
        (Store.default .logPoolSize).poolSize.toInt * 1024) :=
  LogWindow.in_units_iff sizesInRange_default (by decide) (by decide)
    (.inl ⟨4, by decide +kernel, by decide⟩)

/-- Under the default sizes, 4096 packets, twice, fit into the pool; the window 5 is refused. -/
theorem LogWindow.five_refused :
    ¬ ((∃ flag, LogWindow.abslParseFlag decimalAbsl Store.default (ascii "5") = .ok flag) ↔
      (1 : Int) ≤ 5 ∧ 5 ≤ documentedBound Store.default) := by
  intro asDocumented
  obtain ⟨flag, accepted⟩ := asDocumented.mpr (by decide)
  have refused : LogWindow.abslParseFlag decimalAbsl Store.default (ascii "5") = .error (ascii
      "Value must be between 1 and (log_pool_size / log_packet_size) / 2 = (4).") := by
    decide +kernel
  rw [refused] at accepted
  cases accepted

/-- `left / right` on `int`; `none` where C++ leaves it undefined. -/
def divide? (left right : Int32) : Option Int32 :=
  if right = 0 ∨ left = Int32.minValue ∧ right = -1 then none else some (left / right)

/-- `pool_size / packet_size / 2`. -/
def LogWindow.bound? (store : Store) : Option Int32 := do
  divide? (← divide? (store .logPoolSize).poolSize (store .logPacketSize).packetSize) 2

/-- `AbslParseFlag(LogWindow)` with both evaluations of the bound where the source has them;
`none` when one of them is undefined. -/
def LogWindow.parseFlag? (absl : Absl) (store : Store) (text : Text) :
    Option (Except Text LogWindow) :=
  match (absl.parseInt text).map LogWindow.mk with
  | .error message => some (.error message)
  | .ok flag =>
    if flag.isDefault then some (.ok flag)
    else if store .logSink ∉ [LogSink.kBaical, .kAuto] then
      some (.error (sinkError store
        ".  Flag may only be used with log_sink=biacal or log_sink=auto."))
    else do
      let outside ← if flag.window < LogWindow.kLogWindowSizeMin then some true
        else (LogWindow.bound? store).map fun tested => decide (flag.window > tested)
      if outside then
        let shown ← LogWindow.bound? store
        some (.error (ascii "Value must be between " ++ decimal LogWindow.kLogWindowSizeMin.toInt ++
          ascii " and (log_pool_size / log_packet_size) / 2 = (" ++ decimal shown.toInt ++
          ascii ")."))
      else some (.ok flag)

/-- A nonnegative `int` can be divided by a positive one. -/
theorem divide?_eq_some {left right : Int32} (nonneg : 0 ≤ left) (positive : 0 < right) :
    divide? left right = some (left / right) := by
  refine if_neg ?_
  rintro (rfl | ⟨rfl, -⟩)
  · exact absurd positive (by decide)
  · exact absurd nonneg (by decide)

namespace SizesInRange

/-- Neither division is by zero or overflows. -/
theorem bound?_eq (sizes : SizesInRange store) :
    LogWindow.bound? store = some (LogWindow.bound store) := by
  rw [LogWindow.bound?, divide?_eq_some sizes.pool_nonneg sizes.packet_pos]
  exact divide?_eq_some sizes.ratio_nonneg (by decide)

/-- The parser is defined whatever it reads. -/
theorem parseFlag?_eq (sizes : SizesInRange store) (absl : Absl) (text : Text) :
    LogWindow.parseFlag? absl store text = some (LogWindow.abslParseFlag absl store text) := by
  rw [LogWindow.parseFlag?, LogWindow.abslParseFlag, sizes.bound?_eq]
  cases (absl.parseInt text).map LogWindow.mk with
  | error message => rfl
  | ok flag =>
    dsimp only
    split
    · rfl
    · split
      · rfl
      · by_cases below : flag.window < LogWindow.kLogWindowSizeMin
        · simp [below]
        · by_cases above : flag.window > LogWindow.bound store <;> simp [below, above]

end SizesInRange

/-- A pool size that its parser accepts is no less than the minimum. -/
theorem pool_assign (assignment : Assignment)
    (enough : LogPoolSize.kLogPoolSizeMin ≤ (store .logPoolSize).poolSize) :
    LogPoolSize.kLogPoolSizeMin ≤ (store.assign absl assignment .logPoolSize).poolSize := by
  rcases assign_cases absl store assignment with ⟨same, -⟩ | ⟨value, -, accepted, committed⟩
  · rwa [same]
  · rw [committed]
    obtain ⟨flag, text⟩ := assignment
    by_cases here : flag = .logPoolSize
    · subst here
      rw [Store.set_self]
      rcases accepted with isDefault | ⟨-, inRange⟩
      · exact @inRange_of_isDefault store .logPoolSize value (by simp) isDefault
      · exact inRange
    · rwa [Store.set_other _ _ (Ne.symm here)]

/-- The parsers of the pool and the packet size keep both in range. -/
theorem sizesInRange_of_reachable (reachable : (flagSystem absl).Reachable store) :
    SizesInRange store := by
  have frozen := frozen_of_reachable reachable
  obtain ⟨assignments, run⟩ := reachable
  have pool : LogPoolSize.kLogPoolSizeMin ≤ (store .logPoolSize).poolSize := by
    refine @System.Run.invariant _ _ _ _ _
      (fun store => LogPoolSize.kLogPoolSizeMin ≤ (store .logPoolSize).poolSize) ?_ ?_ run
    · rintro _ rfl
      decide
    · rintro state assignment _ enough rfl
      exact pool_assign assignment enough
  refine ⟨pool, ?_, ?_⟩ <;> rw [frozen.2] <;> decide

/-- The sizes do not depend on the sink. -/
theorem SizesInRange.set_sink (sizes : SizesInRange store) (sink : LogSink) :
    SizesInRange (store.set .logSink sink) := by
  constructor
  · exact sizes.pool
  · exact sizes.packetMin
  · exact sizes.packetMax

/-- In every reachable store and under every sink, both evaluations of the bound are
defined and yield the quotient of the integers; only windows up to it are accepted, and
the error of any other shows it. -/
theorem LogWindow.parse_defined (reachable : (flagSystem absl).Reachable store) (sink : LogSink)
    (text : Text) :
    SizesInRange store ∧ ∃ bound : Int32,
      LogWindow.bound? (store.set .logSink sink) = some bound ∧ 0 ≤ bound ∧
      bound.toInt = (store .logPoolSize).poolSize.toInt /
        (store .logPacketSize).packetSize.toInt / 2 ∧
      LogWindow.parseFlag? absl (store.set .logSink sink) text =
        some (LogWindow.abslParseFlag absl (store.set .logSink sink) text) ∧
      (∀ flag, LogWindow.abslParseFlag absl (store.set .logSink sink) text = .ok flag →
        flag.isDefault = false → 1 ≤ flag.window ∧ flag.window ≤ bound) ∧
      ∀ window, absl.parseInt text = .ok window → window ≠ 0 →
        sink ∈ [LogSink.kBaical, .kAuto] → ¬ (1 ≤ window ∧ window ≤ bound) →
        LogWindow.abslParseFlag absl (store.set .logSink sink) text =
          .error (ascii "Value must be between " ++ decimal LogWindow.kLogWindowSizeMin.toInt ++
            ascii " and (log_pool_size / log_packet_size) / 2 = (" ++ decimal bound.toInt ++
            ascii ").") := by
  have sizes := sizesInRange_of_reachable reachable
  have here := sizes.set_sink sink
  refine ⟨sizes, LogWindow.bound (store.set .logSink sink), here.bound?_eq, here.bound_nonneg,
    here.toInt_bound, here.parseFlag?_eq absl text, ?_, ?_⟩
  · intro flag accepted other
    obtain ⟨-, isDefault | ⟨-, inRange⟩⟩ := LogWindow.abslParseFlag_eq_ok_iff.mp accepted
    · simp [isDefault] at other
    · exact inRange
  · intro window parsed nonzero permitted outside
    have other : ¬ (LogWindow.mk window).isDefault = true := fun isDefault =>
      nonzero (of_decide_eq_true isDefault)
    have range : window < LogWindow.kLogWindowSizeMin ∨
        window > LogWindow.bound (store.set .logSink sink) := by
      rw [not_and_or, Int32.not_le, Int32.not_le] at outside
      exact outside
    rw [LogWindow.abslParseFlag, parsed]
    dsimp only [Except.map]
    rw [if_neg other, if_neg (fun refused => refused permitted), if_pos range]

/-- The pool of 8192, assigned after the pool of 8 was refused, admits eight packets: the
window 9 is refused with that bound. -/
theorem LogWindow.parse_defined_pool :
    ∃ store, (flagSystem decimalAbsl).Run
        [⟨.logPoolSize, ascii "8"⟩, ⟨.logPoolSize, ascii "8192"⟩] store ∧
      SizesInRange store ∧
      LogWindow.bound? (store.set .logSink .kBaical) = some 8 ∧
      LogWindow.parseFlag? decimalAbsl (store.set .logSink .kBaical) (ascii "9") =
        some (.error (ascii
          "Value must be between 1 and (log_pool_size / log_packet_size) / 2 = (8).")) := by
  have run : (flagSystem decimalAbsl).Run
      [⟨.logPoolSize, ascii "8"⟩, ⟨.logPoolSize, ascii "8192"⟩] _ :=
    .step (.step (.initial rfl) rfl) rfl
  obtain ⟨sizes, bound, isBound, -, exactly, isDefined, -, refused⟩ :=
    LogWindow.parse_defined ⟨_, run⟩ .kBaical (ascii "9")
  have eight : bound = 8 := by
    have quotient : bound.toInt = 8 := exactly.trans (by decide +kernel)
    exact Int32.toInt_inj.mp quotient
  subst eight
  refine ⟨_, run, sizes, isBound, ?_⟩
  rw [isDefined, refused 9 (by decide +kernel) (by decide) (by decide) (by decide)]
  decide +kernel

end LoggerV2.Flags
