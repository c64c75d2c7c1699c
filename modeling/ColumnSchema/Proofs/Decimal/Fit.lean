import ColumnSchema.Literal
import ColumnSchema.Proofs.Decimal.Value
import Mathlib.Order.Bounds.Defs

/-!
# Which decimals fit a column

A column counts the digits of a decimal, and counting them comes to the same as comparing
numbers. The precision is the least number of digits that can show the mantissa, and the
whole digits are few enough exactly if the number is below the power of ten that the
column leaves for them. A scale above the precision leaves no whole digits.
-/

namespace ColumnSchema

namespace Decimal

/-- Enough digits can show the mantissa. A row of digits has one at least. -/
theorem precision_le_iff {value : Decimal} {places : Nat} (positive : 0 < places) :
    value.precision ≤ places ↔ value.mantissa < 10 ^ places :=
  Nat.length_toDigits_le_iff (by decide) positive

theorem precision_pos (value : Decimal) : 0 < value.precision :=
  Nat.length_toDigits_pos

/-- The precision is the least number of digits that can show the mantissa, one at
least. -/
theorem isLeast_precision (value : Decimal) :
    IsLeast {places | 1 ≤ places ∧ value.mantissa < 10 ^ places} value.precision := by
  constructor
  · exact ⟨value.precision_pos, (precision_le_iff value.precision_pos).mp le_rfl⟩
  · rintro places ⟨positive, shown⟩
    exact (precision_le_iff positive).mpr shown

/-- The digits before the point bound the number. -/
theorem wholeDigits_le_iff {value : Decimal} {places : Nat} :
    value.wholeDigits ≤ places ↔ value.mantissa < 10 ^ (places + value.scale) := by
  rw [wholeDigits]
  split
  next zero =>
    rw [zero]
    exact iff_of_true (Nat.zero_le _) (Nat.pow_pos (by decide))
  next nonzero =>
    rw [Nat.sub_le_iff_le_add]
    rcases Nat.eq_zero_or_pos (places + value.scale) with none | some
    · have digits := value.precision_pos
      rw [none]
      omega
    · exact precision_le_iff some

/-- A column holds a decimal exactly if its fraction digits fit and its number is
below the bound that the column sets. -/
theorem fits_iff {value : Decimal} {precision scale : Nat} :
    value.Fits precision scale ↔
      value.scale ≤ scale ∧ |value.toRat| < 10 ^ (precision - scale) := by
  rw [Fits, wholeDigits_le_iff, toRat, Sign.abs_decimalRat_lt_iff]

end Decimal

namespace Literal

theorem checkDigits_eq_ok {value : Decimal} {precision scale : Nat} :
    checkDigits value precision scale = .ok () ↔ value.Fits precision scale := by
  rw [checkDigits]
  split
  next fits => simp [fits]
  next unfit => simp [unfit]

/-- Counting digits decides whether a number has few enough fraction digits and is below
the power of ten that the column leaves for whole digits, which is one if the scale of the
column is above its precision. The digits counted are the fewest that show the mantissa. -/
theorem checkDigits_by_bound (value : Decimal) (precision scale : Nat) :
    (checkDigits value precision scale = .ok () ↔
        value.scale ≤ scale ∧ |value.toRat| < 10 ^ max ((precision : ℤ) - scale) 0) ∧
      IsLeast {places | 1 ≤ places ∧ value.mantissa < 10 ^ places} value.precision := by
  refine ⟨?_, value.isLeast_precision⟩
  have places : max ((precision : ℤ) - scale) 0 = ((precision - scale : ℕ) : ℤ) := by omega
  rw [checkDigits_eq_ok, Decimal.fits_iff, places, zpow_natCast]

/-- A column whose scale is above its precision takes a number below one with more fraction
digits than digits. A column without fraction digits does not take the power of ten after
the largest number of its precision. -/
example :
    checkDigits ⟨.negative, 5, 3, by decide, by decide⟩ 2 4 = .ok () ∧
      checkDigits ⟨.positive, 100, 0, by decide, by decide⟩ 2 0 =
        .error (.decimalOverflow 2 0 3 0) :=
  ⟨rfl, rfl⟩

end Literal

end ColumnSchema
