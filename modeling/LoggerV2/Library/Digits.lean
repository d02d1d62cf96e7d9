import Mathlib.Algebra.Ring.Nat
import LoggerV2.Library.Text

/-!
# Numerals in a base

`digitBytes` is the numeral of a number in a base up to sixteen. It shows the number, it is
made of digits, and its length is bounded by the number's size.
-/

namespace Verification

/-- The byte of a digit. -/
def digitByte (digit : Nat) : UInt8 := UInt8.ofNat digit.digitChar.toNat

/-- The digits of a number, most significant first. -/
def digitBytes (base value : Nat) : Text :=
  (Nat.toDigits base value).map fun char => UInt8.ofNat char.toNat

variable {base value first second : Nat} {byte : UInt8}

/-- Different digits are written differently. -/
theorem digitByte_inj : ∀ first < 16, ∀ second < 16, digitByte first = digitByte second →
    first = second := by
  decide

/-- A number below the base is one digit. -/
theorem digitBytes_of_lt (small : value < base) : digitBytes base value = [digitByte value] := by
  rw [digitBytes, Nat.toDigits_of_lt_base small]
  rfl

/-- Any other is its front and its last digit. -/
theorem digitBytes_of_le (isBase : 1 < base) (large : base ≤ value) :
    digitBytes base value = digitBytes base (value / base) ++ [digitByte (value % base)] := by
  rw [digitBytes, Nat.toDigits_of_base_le isBase large, List.map_append]
  rfl

theorem digitBytes_ne_nil (base value : Nat) : digitBytes base value ≠ [] := by
  simp [digitBytes]

/-- A number below a power of the base has no more digits than that. -/
theorem length_digitBytes_le {count : Nat} (isBase : 1 < base) (positive : 0 < count)
    (bound : value < base ^ count) : (digitBytes base value).length ≤ count := by
  rw [digitBytes, List.length_map]
  exact (Nat.length_toDigits_le_iff isBase positive).mpr bound

/-- A number is its last digit, or its front and its last digit. -/
theorem digitBytes_induction (isBase : 1 < base) {motive : Nat → Prop}
    (last : ∀ value < base, motive value)
    (more : ∀ value, base ≤ value → motive (value / base) → motive value) (value : Nat) :
    motive value := by
  induction value using Nat.strongRecOn with
  | ind value ih =>
    rcases Nat.lt_or_ge value base with small | large
    · exact last value small
    · exact more value large (ih _ (Nat.div_lt_self (by omega) isBase))

/-- A numeral consists of digits. -/
theorem exists_digit (isBase : 1 < base) (member : byte ∈ digitBytes base value) :
    ∃ digit < base, byte = digitByte digit := by
  induction value using digitBytes_induction isBase with
  | last value small =>
    rw [digitBytes_of_lt small, List.mem_singleton] at member
    exact ⟨value, small, member⟩
  | more value large ih =>
    rw [digitBytes_of_le isBase large, List.mem_append, List.mem_singleton] at member
    rcases member with front | last
    · exact ih front
    · exact ⟨value % base, Nat.mod_lt _ (by omega), last⟩

/-- A numeral of one digit is that of a number below the base. -/
theorem lt_of_digitBytes_eq_singleton (isBase : 1 < base)
    (single : digitBytes base value = [byte]) :
    value < base := by
  by_contra large
  rw [digitBytes_of_le isBase (Nat.le_of_not_lt large)] at single
  have length := congrArg List.length single
  have front := List.length_pos_iff.mpr (digitBytes_ne_nil base (value / base))
  rw [List.length_append, List.length_singleton, List.length_singleton] at length
  omega

/-- Numerals are read in one way. -/
theorem digitBytes_injective (isBase : 1 < base) (small : base ≤ 16) :
    Function.Injective (digitBytes base) := by
  intro first
  induction first using digitBytes_induction isBase with
  | last first isDigit =>
    intro second same
    rw [digitBytes_of_lt isDigit] at same
    have isDigit' := lt_of_digitBytes_eq_singleton isBase same.symm
    rw [digitBytes_of_lt isDigit', List.singleton_inj] at same
    exact digitByte_inj _ (by omega) _ (by omega) same
  | more first large ih =>
    intro second same
    have large' : base ≤ second := by
      by_contra isDigit
      rw [digitBytes_of_lt (Nat.lt_of_not_ge isDigit)] at same
      exact absurd (lt_of_digitBytes_eq_singleton isBase same) (Nat.not_lt.mpr large)
    rw [digitBytes_of_le isBase large, digitBytes_of_le isBase large'] at same
    obtain ⟨fronts, lasts⟩ := List.append_inj' same rfl
    have bound : ∀ value, value % base < 16 := fun value =>
      Nat.lt_of_lt_of_le (Nat.mod_lt _ (by omega)) small
    have digits := digitByte_inj _ (bound first) _ (bound second) (List.singleton_inj.mp lasts)
    rw [← Nat.div_add_mod first base, ← Nat.div_add_mod second base, ih fronts, digits]

/-- Different integers are written differently. -/
theorem decimal_injective : Function.Injective decimal := by
  intro first second same
  have read := congrArg readDecimal same
  rwa [readDecimal_decimal, readDecimal_decimal, Option.some.injEq] at read

/-- The numeral of an integer below a power of ten, with its sign. -/
theorem length_decimal_le {value : Int} {count : Nat} (positive : 0 < count)
    (bound : value.natAbs < 10 ^ count) : (decimal value).length ≤ count + 1 := by
  cases value with
  | ofNat value => exact Nat.le_succ_of_le (length_digitBytes_le (by decide) positive bound)
  | negSucc value => exact Nat.succ_le_succ (length_digitBytes_le (by decide) positive bound)

end Verification
