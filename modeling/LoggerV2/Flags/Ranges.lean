import LoggerV2.Flags.Assign

/-!
# The stated ranges of the name, the port and the file size

The name and the port stay in their ranges in every run of assignments. The parser of the
file size has no lower limit, so a negative size leaves its range under the three sinks
that permit one; every other assignment keeps it.
-/

namespace LoggerV2.Flags

open Verification

/-- The ranges that the help texts and the errors state. -/
structure InStatedRanges (store : Store) : Prop where
  name : (store .logName).name.length ≤ 96
  port : 1 ≤ (store .logPort).port ∧ (store .logPort).port ≤ 65535
  fsize : 0 ≤ (store .logFSize).fsize ∧ (store .logFSize).fsize ≤ 4294967296

/-- The assignment is not a negative file size under a sink that permits file sizes. -/
def NotNegativeSize (absl : Absl) (store : Store) (assignment : Assignment) : Prop :=
  assignment.flag = .logFSize → store .logSink ∈ [LogSink.kBinary, .kText, .kAuto] →
    ∀ size, absl.parseInt64 assignment.text = .ok size → 0 ≤ size

variable {absl : Absl} {store : Store}

/-- The defaults are in the stated ranges. -/
theorem inStatedRanges_default : InStatedRanges Store.default := by
  constructor <;> decide

/-- A negative size is below the limit that is checked. -/
theorem accepts_negative {size : Int64} (negative : size < 0)
    (permitted : store .logSink ∈ [LogSink.kBinary, .kText, .kAuto]) :
    Accepts store .logFSize ⟨size⟩ := by
  refine .inr ⟨?_, ?_⟩
  · rintro _ ⟨⟩
    exact permitted
  · exact Int64.le_trans (Int64.le_of_lt negative) (by decide)

/-- Committing an accepted value keeps the ranges, unless it is a negative size. -/
theorem InStatedRanges.set_iff {flag : FlagName} {value : flag.Value}
    (ranges : InStatedRanges store) (accepted : Accepts store flag value) :
    InStatedRanges (store.set flag value) ↔ 0 ≤ (store.set flag value .logFSize).fsize := by
  refine ⟨fun next => next.fsize.1, fun nonneg => ⟨?_, ?_, nonneg, ?_⟩⟩
  · by_cases here : flag = .logName
    · subst here
      rw [Store.set_self]
      rcases accepted with isDefault | ⟨-, inRange⟩
      · exact @inRange_of_isDefault store .logName value (by simp) isDefault
      · exact inRange
    · rw [Store.set_other _ _ (Ne.symm here)]
      exact ranges.name
  · by_cases here : flag = .logPort
    · subst here
      rw [Store.set_self, accepted.eq_default (.inl rfl)]
      decide
    · rw [Store.set_other _ _ (Ne.symm here)]
      exact ranges.port
  · by_cases here : flag = .logFSize
    · subst here
      rw [Store.set_self]
      rcases accepted with isDefault | ⟨-, inRange⟩
      · rw [eq_default_of_isDefault isDefault]
        decide
      · exact inRange
    · rw [Store.set_other _ _ (Ne.symm here)]
      exact ranges.fsize.2

/-- A file size is read as an integer of 64 bits. -/
theorem decode_fsize {text : Text} {size : Int64} :
    decode absl .logFSize text = .ok ⟨size⟩ ↔ absl.parseInt64 text = .ok size := by
  cases result : absl.parseInt64 text <;> simp [decode, result, Except.map]

/-- Inside the stated ranges, the assignments that stay inside are those that do not set a
negative size. -/
theorem notNegativeSize_iff (assignment : Assignment) (ranges : InStatedRanges store) :
    NotNegativeSize absl store assignment ↔ InStatedRanges (store.assign absl assignment) := by
  obtain ⟨flag, text⟩ := assignment
  rcases assign_cases absl store ⟨flag, text⟩ with
    ⟨same, rejected⟩ | ⟨value, decoded, accepted, committed⟩
  · -- A negative size that a sink permits is not rejected.
    rw [same]
    refine iff_of_true ?_ ranges
    rintro rfl permitted size parsed
    by_contra negative
    have accepted := accepts_negative (Int64.not_le.mp negative) permitted
    have committed : store.assign? absl ⟨.logFSize, text⟩ = some (store.set .logFSize ⟨size⟩) :=
      assign?_eq_some_iff.mpr ⟨_, decode_fsize.mpr parsed, accepted, rfl⟩
    rw [rejected] at committed
    cases committed
  · rw [committed, ranges.set_iff accepted]
    by_cases here : flag = .logFSize
    · subst here
      rw [Store.set_self]
      constructor
      · intro notNegative
        rcases accepted with isDefault | ⟨permits, -⟩
        · rw [eq_default_of_isDefault isDefault]
          exact inStatedRanges_default.fsize.1
        · exact notNegative rfl (permits _ rfl) value.fsize (decode_fsize.mp decoded)
      · rintro nonneg - - size parsed
        rw [decode_fsize.mpr parsed] at decoded
        cases decoded
        exact nonneg
    · rw [Store.set_other _ _ (Ne.symm here)]
      exact iff_of_true (fun same => absurd same here) ranges.fsize.1

/-- The runs of assignments that stay inside the stated ranges are exactly those without a
negative file size under a sink that permits one. -/
theorem run_inStatedRanges_iff (absl : Absl) (assignments : List Assignment) (store : Store) :
    ((flagSystem absl).restrict (NotNegativeSize absl)).Run assignments store ↔
      ((flagSystem absl).confine InStatedRanges).Run assignments store := by
  refine System.restrict_run_iff_confine (fun _ => True) ?_ ?_ ?_
  · rintro _ rfl
    exact ⟨trivial, inStatedRanges_default⟩
  · rintro state assignment _ - -
    trivial
  · rintro state assignment _ - ranges rfl
    exact notNegativeSize_iff assignment ranges

/-- `--log_fsize=-5` is accepted. -/
theorem negative_fsize_accepted :
    ∃ store, (flagSystem decimalAbsl).Run [⟨.logFSize, ascii "-5"⟩] store ∧
      ¬ InStatedRanges store := by
  refine ⟨_, .step (.initial rfl) rfl, fun ranges => ?_⟩
  exact absurd ranges.fsize.1 (by decide +kernel)

end LoggerV2.Flags
