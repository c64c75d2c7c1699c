import ColumnSchema.Number.Decimal
import ColumnSchema.Proofs.Numeral
import Mathlib.Algebra.Order.Field.Basic
import Mathlib.Algebra.Order.Field.Rat
import Mathlib.Algebra.Order.Field.Power
import Mathlib.Tactic.FieldSimp
import Mathlib.Tactic.Linarith
import Mathlib.Tactic.NormNum
import Mathlib.Tactic.Ring

/-!
# The numbers that decimals denote

A decimal and a numeral denote rational numbers, each its digits over the power of ten
that its fraction digits give. Equality and size of such numbers are those of natural
numbers.
-/

namespace ColumnSchema

/-- The rational number of a sign, a magnitude and a number of fraction digits. -/
def Sign.decimalRat (sign : Sign) (magnitude scale : Nat) : ℚ :=
  (sign.apply magnitude : ℚ) / 10 ^ scale

/-- The number that a decimal denotes. -/
def Decimal.toRat (value : Decimal) : ℚ :=
  value.sign.decimalRat value.mantissa value.scale

/-- The number that a numeral denotes. -/
def Numeral.toRat (numeral : Numeral) : ℚ :=
  numeral.sign.decimalRat numeral.significand numeral.fraction.length

/-- The number has no digit beyond the given place after the point. -/
def IsMultiple (number : ℚ) (scale : Nat) : Prop :=
  ∃ units : ℤ, number = units / 10 ^ scale

namespace Sign

theorem cast_apply (sign : Sign) (magnitude : Nat) :
    (sign.apply magnitude : ℚ) = sign.apply 1 * magnitude := by
  cases sign with
  | positive => simp [apply]
  | negative => simp [apply]

theorem cast_apply_one_ne_zero (sign : Sign) : (sign.apply 1 : ℚ) ≠ 0 := by
  cases sign with
  | positive => simp [apply]
  | negative => simp [apply]

theorem abs_cast_apply_one (sign : Sign) : |(sign.apply 1 : ℚ)| = 1 := by
  cases sign with
  | positive => simp [apply]
  | negative => simp [apply]

/-- Equality of numbers is equality of magnitudes over a common power of ten. -/
theorem decimalRat_eq_iff (sign : Sign) {left right leftScale rightScale : Nat} :
    sign.decimalRat left leftScale = sign.decimalRat right rightScale ↔
      left * 10 ^ rightScale = right * 10 ^ leftScale := by
  rw [decimalRat, decimalRat, cast_apply, cast_apply sign right,
    div_eq_div_iff (by positivity) (by positivity), mul_assoc, mul_assoc,
    mul_right_inj' sign.cast_apply_one_ne_zero]
  exact_mod_cast Iff.rfl

/-- A power of ten moves the point. -/
theorem decimalRat_mul_zpow (sign : Sign) (magnitude : Nat) {scale scale' : Nat}
    {power : Int} (moved : (scale' : Int) = scale - power) :
    sign.decimalRat magnitude scale * 10 ^ power = sign.decimalRat magnitude scale' := by
  have ten : (10 : ℚ) ≠ 0 := by norm_num
  have shifted : (10 : ℚ) ^ scale = 10 ^ scale' * 10 ^ power := by
    rw [← zpow_natCast, ← zpow_natCast, ← zpow_add₀ ten, moved, sub_add_cancel]
  rw [decimalRat, decimalRat, shifted]
  field_simp

theorem abs_decimalRat (sign : Sign) (magnitude scale : Nat) :
    |sign.decimalRat magnitude scale| = magnitude / 10 ^ scale := by
  have power : |(10 : ℚ) ^ scale| = 10 ^ scale := abs_of_pos (by positivity)
  rw [decimalRat, abs_div, power, cast_apply, abs_mul, abs_cast_apply_one, one_mul,
    Nat.abs_cast]

/-- A number is below a power of ten if its digits are few enough. -/
theorem abs_decimalRat_lt_iff {sign : Sign} {magnitude scale places : Nat} :
    |sign.decimalRat magnitude scale| < 10 ^ places ↔
      magnitude < 10 ^ (places + scale) := by
  rw [abs_decimalRat, div_lt_iff₀ (by positivity), ← pow_add]
  exact_mod_cast Iff.rfl

/-- Fewer fraction digits are a multiple of a smaller unit. -/
theorem isMultiple_decimalRat (sign : Sign) (magnitude : Nat) {scale scale' : Nat}
    (fits : scale ≤ scale') : IsMultiple (sign.decimalRat magnitude scale) scale' := by
  refine ⟨sign.apply magnitude * 10 ^ (scale' - scale), ?_⟩
  rw [decimalRat, div_eq_div_iff (by positivity) (by positivity)]
  push_cast
  rw [mul_assoc, ← pow_add, Nat.sub_add_cancel fits]

end Sign

/-- A numeral with a power of ten is its sign and its digits with the power that is left
when the point has moved behind them. -/
theorem Numeral.toRat_mul_zpow (numeral : Numeral) (power : Int) :
    numeral.toRat * 10 ^ power =
      numeral.sign.apply 1 *
        (numeral.significand * 10 ^ (power - numeral.fraction.length : Int)) := by
  rw [toRat, Sign.decimalRat, Sign.cast_apply, zpow_sub₀ (by norm_num), zpow_natCast]
  ring

namespace Decimal

/-- A decimal with few fraction digits is a multiple of a smaller unit. -/
theorem isMultiple_toRat {value : Decimal} {scale : Nat} (fits : value.scale ≤ scale) :
    IsMultiple value.toRat scale :=
  value.sign.isMultiple_decimalRat value.mantissa fits

end Decimal

end ColumnSchema
