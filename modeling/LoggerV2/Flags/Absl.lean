import LoggerV2.Library.Text

/-!
# The flag library at the built-in types

`Absl` stands for `absl::ParseFlag` and `absl::UnparseFlag` at the built-in types,
which are not part of this repository. `decimalAbsl` is one lawful instance; it reads
and writes plain decimal numerals and the two words `true` and `false`.
-/

namespace LoggerV2.Flags

open Verification

/-- `absl::ParseFlag` and `absl::UnparseFlag` at `int`, `int64`, `bool` and
`std::string`. -/
structure Absl where
  parseInt : Text → Except Text Int32
  parseInt64 : Text → Except Text Int64
  parseBool : Text → Except Text Bool
  parseString : Text → Except Text Text
  unparseInt : Int32 → Text
  unparseInt64 : Int64 → Text
  unparseBool : Bool → Text
  unparseString : Text → Text

/-- `absl::ParseFlag` reads back what `absl::UnparseFlag` writes. -/
structure Absl.Inverts (absl : Absl) : Prop where
  int : ∀ value, absl.parseInt (absl.unparseInt value) = .ok value
  int64 : ∀ value, absl.parseInt64 (absl.unparseInt64 value) = .ok value
  bool : ∀ value, absl.parseBool (absl.unparseBool value) = .ok value
  string : ∀ value, absl.parseString (absl.unparseString value) = .ok value

/-- `absl::ParseFlag` at `std::string` copies the text. -/
def Absl.CopiesStrings (absl : Absl) : Prop := ∀ text, absl.parseString text = .ok text

/-- Decimal numerals in the range of the type, the two Boolean words, and strings as
they are. -/
def decimalAbsl : Absl where
  parseInt text :=
    match readDecimal text with
    | some value =>
      if Int32.minValue.toInt ≤ value ∧ value ≤ Int32.maxValue.toInt then .ok (Int32.ofInt value)
      else .error []
    | none => .error []
  parseInt64 text :=
    match readDecimal text with
    | some value =>
      if Int64.minValue.toInt ≤ value ∧ value ≤ Int64.maxValue.toInt then .ok (Int64.ofInt value)
      else .error []
    | none => .error []
  parseBool text :=
    if text = ascii "true" then .ok true
    else if text = ascii "false" then .ok false
    else .error []
  parseString := .ok
  unparseInt value := decimal value.toInt
  unparseInt64 value := decimal value.toInt
  unparseBool value := if value then ascii "true" else ascii "false"
  unparseString := id

/-- Decimal numerals read back. -/
theorem decimalAbsl_inverts : decimalAbsl.Inverts where
  int value := by
    simp only [decimalAbsl, readDecimal_decimal, value.minValue_le_toInt, value.toInt_le,
      and_self, if_true, Int32.ofInt_toInt]
  int64 value := by
    simp only [decimalAbsl, readDecimal_decimal, value.minValue_le_toInt, value.toInt_le,
      and_self, if_true, Int64.ofInt_toInt]
  bool value := by cases value <;> decide
  string _ := rfl

/-- A string is taken as it is. -/
theorem decimalAbsl_copiesStrings : decimalAbsl.CopiesStrings := fun _ => rfl

end LoggerV2.Flags
