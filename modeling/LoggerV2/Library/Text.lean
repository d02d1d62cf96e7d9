import Mathlib.Order.Basic
import Mathlib.Data.Nat.Find

/-!
# Byte texts and decimal numerals

A `Text` is a sequence of bytes. `ascii` reads a literal, one byte a character;
`find` searches a text; `decimal` writes an integer and `readDecimal` reads one
back.
-/

namespace Verification

/-- A byte string. -/
abbrev Text := List UInt8

/-- The bytes of an ASCII literal. -/
def ascii (literal : String) : Text :=
  literal.toList.map fun char => UInt8.ofNat char.toNat

/-- The byte that ends a line. -/
def newline : UInt8 := 10

/-- The first occurrence of `needle` in a suffix that starts at index `start`. -/
def findIn (needle : Text) : Text → Nat → Option Nat
  | [], start => if needle = [] then some start else none
  | byte :: rest, start =>
    if needle.isPrefixOf (byte :: rest) then some start else findIn needle rest (start + 1)

/-- The index of the first occurrence of `needle` at or after `pos`. -/
def find (text needle : Text) (pos : Nat) : Option Nat :=
  if pos ≤ text.length then findIn needle (text.drop pos) pos else none

/-- `findIn` finds the first suffix that starts with the needle. -/
theorem findIn_eq_some_iff {needle suffix : Text} {start index : Nat} :
    findIn needle suffix start = some index ↔
      start ≤ index ∧ index ≤ start + suffix.length ∧ needle <+: suffix.drop (index - start) ∧
        ∀ earlier, start ≤ earlier → earlier < index →
          ¬ needle <+: suffix.drop (earlier - start) := by
  induction suffix generalizing start with
  | nil =>
    by_cases empty : needle = []
    · subst empty
      simp only [findIn, if_pos, Option.some.injEq, List.length_nil, List.nil_prefix]
      constructor
      · rintro rfl
        exact ⟨le_rfl, le_rfl, trivial, fun earlier least before => by omega⟩
      · rintro ⟨lower, upper, -, -⟩
        omega
    · simp [findIn, empty]
  | cons byte rest ih =>
    have behind : ∀ {index}, start < index →
        (byte :: rest).drop (index - start) = rest.drop (index - (start + 1)) := by
      intro index later
      have shift : index - start = index - (start + 1) + 1 := by omega
      rw [shift, List.drop_succ_cons]
    rw [findIn]
    by_cases here : needle <+: byte :: rest
    · rw [if_pos (List.isPrefixOf_iff_prefix.mpr here), Option.some.injEq]
      constructor
      · rintro rfl
        refine ⟨le_rfl, by simp, by simpa using here, fun earlier lower upper => ?_⟩
        omega
      · rintro ⟨lower, -, -, first⟩
        by_contra different
        exact first start le_rfl (by omega) (by simpa using here)
    · rw [if_neg (fun found => here (List.isPrefixOf_iff_prefix.mp found)), ih,
        List.length_cons]
      constructor
      · rintro ⟨lower, upper, found, first⟩
        refine ⟨by omega, by omega, by rwa [behind lower], fun earlier least before => ?_⟩
        obtain rfl | later := Nat.eq_or_lt_of_le least
        · simpa using here
        · rw [behind later]
          exact first earlier later before
      · rintro ⟨lower, upper, found, first⟩
        obtain rfl | later := Nat.eq_or_lt_of_le lower
        · exact absurd (by simpa using found) here
        · rw [behind later] at found
          refine ⟨later, by omega, found, fun earlier least before => ?_⟩
          have absent := first earlier (Nat.le_of_lt least) before
          rwa [behind least] at absent

/-- `find` returns the least index from `pos` on at which the needle occurs. -/
theorem find_eq_some_iff {text needle : Text} {pos index : Nat} :
    find text needle pos = some index ↔
      pos ≤ index ∧ index ≤ text.length ∧ needle <+: text.drop index ∧
        ∀ earlier, pos ≤ earlier → earlier < index → ¬ needle <+: text.drop earlier := by
  have dropped : ∀ {start}, pos ≤ start → (text.drop pos).drop (start - pos) = text.drop start := by
    intro start bounded
    rw [List.drop_drop, Nat.add_sub_of_le bounded]
  rw [find]
  split
  · rename_i inside
    rw [findIn_eq_some_iff, List.length_drop]
    constructor
    · rintro ⟨lower, upper, found, first⟩
      refine ⟨lower, by omega, by rwa [dropped lower] at found, fun earlier least before => ?_⟩
      have absent := first earlier least before
      rwa [dropped least] at absent
    · rintro ⟨lower, upper, found, first⟩
      refine ⟨lower, by omega, by rwa [dropped lower], fun earlier least before => ?_⟩
      rw [dropped least]
      exact first earlier least before
  · constructor
    · intro impossible
      cases impossible
    · rintro ⟨lower, upper, -, -⟩
      omega

/-- `find` fails exactly when the needle occurs nowhere from `pos` on. -/
theorem find_eq_none_iff {text needle : Text} {pos : Nat} :
    find text needle pos = none ↔
      ∀ index, pos ≤ index → index ≤ text.length → ¬ needle <+: text.drop index := by
  constructor
  · intro missing index lower upper occurs
    -- The least occurrence from `pos` on would have been returned.
    have exists_occurrence : ∃ index, pos ≤ index ∧ index ≤ text.length ∧
        needle <+: text.drop index := ⟨index, lower, upper, occurs⟩
    classical
    obtain ⟨least, bounded, found⟩ := Nat.find_spec exists_occurrence
    have returned : find text needle pos = some (Nat.find exists_occurrence) := by
      refine find_eq_some_iff.mpr ⟨least, bounded, found, fun earlier later before occurs => ?_⟩
      exact Nat.find_min exists_occurrence before ⟨later, by omega, occurs⟩
    rw [missing] at returned
    cases returned
  · intro absent
    cases result : find text needle pos with
    | none => rfl
    | some index =>
      obtain ⟨lower, upper, occurs, -⟩ := find_eq_some_iff.mp result
      exact absurd occurs (absent index lower upper)

/-- Behind `before`, a needle that nothing precedes is found where it stands. -/
theorem find_leftmost {before gap needle rest : Text}
    (leftmost : ∀ index < gap.length, ¬ needle <+: (gap ++ (needle ++ rest)).drop index) :
    find (before ++ (gap ++ (needle ++ rest))) needle before.length =
      some (before.length + gap.length) := by
  refine find_eq_some_iff.mpr ⟨Nat.le_add_right _ _, ?_, ?_, fun earlier least less found => ?_⟩
  · simp only [List.length_append]
    omega
  · rw [List.drop_length_add_append, List.drop_append_length]
    exact List.prefix_append _ _
  · obtain ⟨index, rfl⟩ := Nat.exists_eq_add_of_le least
    rw [List.drop_length_add_append] at found
    exact leftmost index (Nat.add_lt_add_iff_left.mp less) found

/-- Behind `before`, a needle that does not occur is not found. -/
theorem find_absent {before text needle : Text} (absent : ¬ needle <:+: text) :
    find (before ++ text) needle before.length = none := by
  refine find_eq_none_iff.mpr fun index least _ found => ?_
  obtain ⟨offset, rfl⟩ := Nat.exists_eq_add_of_le least
  rw [List.drop_length_add_append] at found
  exact absent (found.isInfix.trans (List.drop_suffix offset text).isInfix)

/-- The decimal digits of a natural number, most significant first. -/
def decimalDigits (value : Nat) : Text :=
  (Nat.toDigits 10 value).map fun char => UInt8.ofNat char.toNat

/-- The decimal numeral of an integer. -/
def decimal : Int → Text
  | .ofNat value => decimalDigits value
  | .negSucc value => 45 :: decimalDigits (value + 1)

/-- One of the bytes `0` to `9`. -/
def isDigit (byte : UInt8) : Bool := 48 ≤ byte && byte ≤ 57

/-- Read a nonempty digit sequence. -/
def readDigits (text : Text) : Option Nat :=
  if text ≠ [] ∧ text.all isDigit then
    some (text.foldl (fun value byte => 10 * value + (byte.toNat - 48)) 0)
  else none

/-- Read an optionally signed decimal numeral. -/
def readDecimal : Text → Option Int
  | 45 :: digits => (readDigits digits).map fun value => -(value : Int)
  | text => (readDigits text).map Int.ofNat

private theorem digit_range {char : Char} (digit : char.isDigit) :
    48 ≤ char.toNat ∧ char.toNat ≤ 57 := by
  simpa [Char.isDigit, UInt32.le_iff_toNat_le] using digit

private theorem digit_byte {char : Char} (digit : char.isDigit) :
    (UInt8.ofNat char.toNat).toNat = char.toNat := by
  have range := digit_range digit
  simp only [UInt8.toNat_ofNat']
  omega

/-- Every byte of a digit sequence is a digit. -/
theorem isDigit_of_mem_decimalDigits {value : Nat} {byte : UInt8}
    (member : byte ∈ decimalDigits value) : isDigit byte := by
  obtain ⟨char, charMember, rfl⟩ := List.mem_map.mp member
  have digit := Nat.isDigit_of_mem_toDigits (by decide) (by decide) charMember
  have range := digit_range digit
  simp only [isDigit, Bool.and_eq_true, decide_eq_true_eq, UInt8.le_iff_toNat_le,
    digit_byte digit]
  exact range

/-- Every byte of a numeral is a digit or the minus sign. -/
theorem mem_decimal {value : Int} {byte : UInt8} (member : byte ∈ decimal value) :
    isDigit byte ∨ byte = 45 := by
  cases value with
  | ofNat value => exact .inl (isDigit_of_mem_decimalDigits member)
  | negSucc value =>
    rcases List.mem_cons.mp member with minus | digit
    · exact .inr minus
    · exact .inl (isDigit_of_mem_decimalDigits digit)

theorem decimalDigits_ne_nil (value : Nat) : decimalDigits value ≠ [] := by
  simp [decimalDigits]

/-- Reading the bytes of digit characters folds their values. -/
private theorem foldl_digit_bytes (chars : List Char) (digits : ∀ char ∈ chars, char.isDigit)
    (start : Nat) :
    (chars.map fun char => UInt8.ofNat char.toNat).foldl
      (fun value byte => 10 * value + (byte.toNat - 48)) start =
      Nat.ofDigitChars 10 chars start := by
  induction chars generalizing start with
  | nil => rfl
  | cons char rest ih =>
    have here := digit_byte (digits char List.mem_cons_self)
    rw [List.map_cons, List.foldl_cons, Nat.ofDigitChars_cons, here]
    exact ih (fun other member => digits other (List.mem_cons_of_mem _ member)) _

/-- Digits read back. -/
theorem readDigits_decimalDigits (value : Nat) :
    readDigits (decimalDigits value) = some value := by
  have all : (decimalDigits value).all isDigit := by
    simpa [List.all_eq_true] using fun byte => isDigit_of_mem_decimalDigits
  rw [readDigits, if_pos ⟨decimalDigits_ne_nil value, all⟩]
  congr 1
  rw [decimalDigits, foldl_digit_bytes _ fun char member =>
    Nat.isDigit_of_mem_toDigits (by decide) (by decide) member]
  exact Nat.ofDigitChars_ten_toDigits

/-- Numerals read back. -/
theorem readDecimal_decimal (value : Int) : readDecimal (decimal value) = some value := by
  cases value with
  | ofNat value =>
    have unsigned : ∀ digits, decimalDigits value ≠ 45 :: digits := by
      intro digits same
      have member : 45 ∈ decimalDigits value := by
        rw [same]
        exact List.mem_cons_self
      have digit := isDigit_of_mem_decimalDigits member
      exact absurd digit (by decide)
    rw [decimal, readDecimal, readDigits_decimalDigits]
    · rfl
    · exact unsigned
  | negSucc value =>
    rw [decimal, readDecimal, readDigits_decimalDigits]
    simp [Int.negSucc_eq]

end Verification
