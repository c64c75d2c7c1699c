import ColumnSchema.Proofs.Binary.Nearest

/-!
# Rounding quotients and decimal numbers

The rounding of a quotient counts its units: the binary logarithm gives the unit, and
the quotient of the count is rounded to the nearest whole number. A quotient is thus
rounded to the nearest magnitude, and there is one as long as the quotient lies below
the point halfway from the largest magnitude to the next power of two. The same holds of
decimal numbers, also where powers of ten are compared by their exponents only.
-/

namespace ColumnSchema

/-! ## Quotients and powers -/

/-- Halfway between two whole numbers, the even one of them is the nearest. -/
theorem nearestWhole_half (floor : ℕ) :
    NearestWhole (floor + 1 / 2) (floor + floor % 2) := by
  cases Nat.mod_two_eq_zero_or_one floor with
  | inl even =>
      rw [even, Nat.add_zero]
      refine ⟨?_, fun _ => Nat.even_iff.mpr even⟩
      rw [add_sub_cancel_left, abs_of_pos one_half_pos]
  | inr odd =>
      rw [odd]
      refine ⟨?_, fun _ => (Nat.odd_iff.mpr odd).add_one⟩
      rw [Nat.cast_succ, abs_le]
      constructor
      · linarith
      · linarith

theorem nearestWhole_roundQuotient {numerator denominator : ℕ} (positive : 0 < denominator) :
    NearestWhole (numerator / denominator) (roundQuotient numerator denominator) := by
  have unit : (0 : ℚ) < denominator := by exact_mod_cast positive
  have division : (numerator : ℚ) =
      denominator * (numerator / denominator : ℕ) + (numerator % denominator : ℕ) := by
    exact_mod_cast (Nat.div_add_mod numerator denominator).symm
  have remainder := Nat.mod_lt numerator positive
  rw [roundQuotient]
  generalize numerator / denominator = floor at division ⊢
  generalize numerator % denominator = rest at division remainder ⊢
  have quotient : (numerator : ℚ) / denominator = floor + rest / denominator := by
    rw [division]
    field_simp
  rw [quotient]
  split
  next below =>
    have small : (rest : ℚ) / denominator < 1 / 2 := by
      rw [div_lt_div_iff₀ unit two_pos]
      exact_mod_cast (by omega : rest * 2 < 1 * denominator)
    have nonneg : (0 : ℚ) ≤ rest / denominator := by positivity
    apply NearestWhole.of_lt
    rwa [add_sub_cancel_left, abs_of_nonneg nonneg]
  next notBelow =>
    split
    next above =>
      have large : 1 / 2 < (rest : ℚ) / denominator := by
        rw [div_lt_div_iff₀ two_pos unit]
        exact_mod_cast (by omega : 1 * denominator < rest * 2)
      have less : (rest : ℚ) / denominator < 1 := by
        rw [div_lt_one unit]
        exact_mod_cast remainder
      apply NearestWhole.of_lt
      rw [Nat.cast_succ, abs_lt]
      constructor
      · linarith
      · linarith
    next notAbove =>
      have half : (rest : ℚ) / denominator = 1 / 2 := by
        rw [div_eq_div_iff unit.ne' two_ne_zero]
        exact_mod_cast (by omega : rest * 2 = 1 * denominator)
      rw [half]
      exact nearestWhole_half floor

/-- A power with an integer exponent is a quotient of whole numbers. -/
theorem zpow_eq_div (base : ℕ) (exponent : ℤ) :
    (base : ℚ) ^ exponent =
      (Nat.pow base exponent.toNat : ℕ) / (Nat.pow base (-exponent).toNat : ℕ) := by
  obtain ⟨size, rfl | rfl⟩ := exponent.eq_nat_or_neg
  · simp
  · simp

theorem two_zpow_eq_div (exponent : ℤ) :
    (2 : ℚ) ^ exponent =
      (Nat.pow 2 exponent.toNat : ℕ) / (Nat.pow 2 (-exponent).toNat : ℕ) := by
  rw [← zpow_eq_div, Nat.cast_ofNat]

theorem log2_bounds {number : ℕ} (positive : 0 < number) :
    (2 : ℚ) ^ (number.log2 : ℤ) ≤ number ∧ (number : ℚ) < 2 ^ (number.log2 + 1 : ℤ) := by
  have lower := Nat.log2_self_le positive.ne'
  have upper := Nat.lt_log2_self (n := number)
  constructor
  · rw [zpow_natCast]
    exact_mod_cast lower
  · rw [← Nat.cast_succ, zpow_natCast]
    exact_mod_cast upper

/-- The binary logarithm of a quotient, rounded down. -/
theorem floorLog2_bounds {numerator denominator : ℕ} (positive : 0 < numerator)
    (positive' : 0 < denominator) :
    (2 : ℚ) ^ floorLog2 numerator denominator ≤ numerator / denominator ∧
      (numerator / denominator : ℚ) < 2 ^ (floorLog2 numerator denominator + 1) := by
  obtain ⟨lower, upper⟩ := log2_bounds positive
  obtain ⟨lower', upper'⟩ := log2_bounds positive'
  have unit : (0 : ℚ) < denominator := by exact_mod_cast positive'
  rw [floorLog2]
  generalize (numerator.log2 : ℤ) = log at lower upper ⊢
  generalize (denominator.log2 : ℤ) = log' at lower' upper' ⊢
  have above : (numerator / denominator : ℚ) < 2 ^ (log - log' + 1) := by
    calc (numerator / denominator : ℚ)
        < 2 ^ (log + 1) / denominator := by gcongr
      _ ≤ 2 ^ (log + 1) / 2 ^ log' := by gcongr
      _ = 2 ^ (log - log' + 1) := by
        rw [← zpow_sub₀ two_ne_zero]
        ring_nf
  have below : (2 : ℚ) ^ (log - log' - 1) ≤ numerator / denominator := by
    calc (2 : ℚ) ^ (log - log' - 1)
        = 2 ^ log / 2 ^ (log' + 1) := by
          rw [← zpow_sub₀ two_ne_zero]
          ring_nf
      _ ≤ numerator / denominator := by gcongr
  have reached : denominator * Nat.pow 2 (log - log').toNat ≤
      numerator * Nat.pow 2 (-(log - log')).toNat ↔
        (2 : ℚ) ^ (log - log') ≤ numerator / denominator := by
    rw [two_zpow_eq_div, div_le_div_iff₀ (by simp) unit, mul_comm denominator]
    exact_mod_cast Iff.rfl
  split
  next fits => exact ⟨reached.mp fits, above⟩
  next exceeds =>
    rw [reached, not_le] at exceeds
    rw [sub_add_cancel]
    exact ⟨below, exceeds⟩

namespace BinaryFormat

variable {format : BinaryFormat}

/-! ## Rounding quotients -/

theorem isUnit_unitExponent {numerator denominator : ℕ} (positive : 0 < numerator)
    (positive' : 0 < denominator) :
    format.IsUnit (numerator / denominator) (format.unitExponent numerator denominator) := by
  obtain ⟨lower, upper⟩ := floorLog2_bounds positive positive'
  rw [unitExponent]
  generalize floorLog2 numerator denominator = log at lower upper ⊢
  refine ⟨le_max_left _ _, ?_, ?_⟩
  · have exponents : log + 1 ≤
        max format.minExponent (log + 1 - format.precision) + format.precision := by
      have right := le_max_right format.minExponent (log + 1 - format.precision)
      linarith
    exact upper.trans_le (zpow_le_zpow_right₀ one_le_two exponents)
  · cases le_total (log + 1 - format.precision) format.minExponent with
    | inl small => exact .inl (max_eq_left small)
    | inr large =>
        right
        rw [max_eq_right large, sub_add_cancel, add_sub_cancel_right]
        exact lower

/-- The scaled quotient that is rounded to a whole number counts the units. -/
theorem scaled_eq_div (numerator denominator : ℕ) (unit : ℤ) :
    ((numerator * Nat.pow 2 (-unit).toNat : ℕ) : ℚ) / (denominator * Nat.pow 2 unit.toNat : ℕ) =
      (numerator / denominator) / 2 ^ unit := by
  rw [two_zpow_eq_div]
  push_cast
  have whole : (2 : ℚ) ^ unit.toNat ≠ 0 := by positivity
  have fraction : (2 : ℚ) ^ (-unit).toNat ≠ 0 := by positivity
  field_simp

theorem nearestWhole_scaled (numerator : ℕ) {denominator : ℕ} (positive : 0 < denominator)
    (unit : ℤ) :
    NearestWhole (numerator / denominator / 2 ^ unit)
      (roundQuotient (numerator * Nat.pow 2 (-unit).toNat)
        (denominator * Nat.pow 2 unit.toNat)) := by
  rw [← scaled_eq_div]
  exact nearestWhole_roundQuotient (Nat.mul_pos positive (Nat.two_pow_pos _))

/-- A positive quotient is rounded by settling the number of its units. -/
theorem round?_eq_settle? {numerator denominator : ℕ} (positive : 0 < numerator)
    (positive' : 0 < denominator) :
    ∃ unit whole, format.IsUnit (numerator / denominator) unit ∧
      NearestWhole (numerator / denominator / 2 ^ unit) whole ∧
      format.round? numerator denominator = format.settle? ⟨whole, unit⟩ :=
  ⟨_, _, isUnit_unitExponent positive positive', nearestWhole_scaled numerator positive' _,
    if_neg positive.ne'⟩

/-- A quotient is rounded to the nearest magnitude. -/
theorem nearest_of_round? {numerator denominator : ℕ} {value : Binary}
    (proper : format.Proper) (positive : 0 < denominator)
    (rounded : format.round? numerator denominator = some value) :
    format.Nearest (numerator / denominator) value := by
  cases Nat.eq_zero_or_pos numerator with
  | inl zero =>
      rw [round?, if_pos zero] at rounded
      cases rounded
      rw [zero, Nat.cast_zero, zero_div]
      exact nearest_zero proper le_rfl (by positivity)
  | inr nonzero =>
      obtain ⟨unit, whole, unitOf, nearest, roundEq⟩ := round?_eq_settle? nonzero positive
      exact unitOf.nearest proper nearest (roundEq ▸ rounded)

theorem overflow_pos (proper : format.Proper) : 0 < format.overflow :=
  lt_of_lt_of_le (by positivity) (two_zpow_le_overflow proper)

/-- A quotient is rounded exactly if it does not overflow. -/
theorem exists_round?_iff {numerator denominator : ℕ} (proper : format.Proper)
    (positive : 0 < denominator) :
    (∃ value, format.round? numerator denominator = some value) ↔
      (numerator / denominator : ℚ) < format.overflow := by
  cases Nat.eq_zero_or_pos numerator with
  | inl zero =>
      rw [round?, if_pos zero, zero, Nat.cast_zero, zero_div]
      exact iff_of_true ⟨_, rfl⟩ (overflow_pos proper)
  | inr nonzero =>
      obtain ⟨unit, whole, unitOf, nearest, roundEq⟩ := round?_eq_settle? nonzero positive
      rw [roundEq]
      exact unitOf.exists_settle?_iff proper nearest

/-! ## Rounding decimal numbers -/

/-- A power of ten with a negative exponent is below that of eight. -/
theorem mul_zpow_ten_lt {significand : ℕ} {exponent : ℤ} (positive : 0 < significand)
    (negative : exponent < 0) :
    (significand : ℚ) * 10 ^ exponent < 2 ^ (significand.log2 + 1 + 3 * exponent) := by
  have eight : (2 : ℚ) ^ (3 * exponent) = 8 ^ exponent := by
    rw [zpow_mul]
    norm_num
  have tenth : (10 : ℚ) ^ exponent ≤ 8 ^ exponent := by
    obtain ⟨size, rfl⟩ := Int.exists_eq_neg_ofNat negative.le
    rw [zpow_neg, zpow_neg, zpow_natCast, zpow_natCast]
    gcongr
    norm_num
  calc (significand : ℚ) * 10 ^ exponent
      < 2 ^ (significand.log2 + 1 : ℤ) * 10 ^ exponent := by
        have upper := (log2_bounds positive).2
        gcongr
    _ ≤ 2 ^ (significand.log2 + 1 : ℤ) * 8 ^ exponent := by gcongr
    _ = 2 ^ (significand.log2 + 1 + 3 * exponent) := by
        rw [← eight, ← zpow_add₀ two_ne_zero]

/-- A power of ten with a positive exponent is above that of eight. -/
theorem le_mul_zpow_ten {significand : ℕ} {exponent : ℤ} (positive : 0 < significand)
    (nonneg : 0 ≤ exponent) :
    (2 : ℚ) ^ (significand.log2 + 3 * exponent) ≤ significand * 10 ^ exponent := by
  have eight : (2 : ℚ) ^ (3 * exponent) = 8 ^ exponent := by
    rw [zpow_mul]
    norm_num
  rw [zpow_add₀ two_ne_zero, eight]
  have lower := (log2_bounds positive).1
  have tenfold : (8 : ℚ) ^ exponent ≤ 10 ^ exponent := by
    lift exponent to ℕ using nonneg
    rw [zpow_natCast, zpow_natCast]
    gcongr
    norm_num
  gcongr

/-- A scaled decimal number is the quotient that is rounded. -/
theorem mul_zpow_ten_eq_div (significand : ℕ) (exponent : ℤ) :
    (significand : ℚ) * 10 ^ exponent =
      (significand * Nat.pow 10 exponent.toNat : ℕ) / (Nat.pow 10 (-exponent).toNat : ℕ) := by
  rw [Nat.cast_mul, mul_div_assoc, ← zpow_eq_div, Nat.cast_ofNat]

/-- A decimal number is rounded to the nearest magnitude. -/
theorem nearest_of_roundDecimal? {significand : ℕ} {exponent : ℤ} {value : Binary}
    (proper : format.Proper)
    (rounded : format.roundDecimal? significand exponent = some value) :
    format.Nearest (significand * 10 ^ exponent) value := by
  rw [roundDecimal?] at rounded
  split at rounded
  next zero =>
    cases rounded
    rw [zero, Nat.cast_zero, zero_mul]
    exact nearest_zero proper le_rfl (by positivity)
  next nonzero =>
    split at rounded
    next => cases rounded
    next =>
      split at rounded
      next tiny =>
        cases rounded
        apply nearest_zero proper (by positivity)
        apply (mul_zpow_ten_lt (Nat.pos_of_ne_zero nonzero) tiny.1).trans_le
        exact zpow_le_zpow_right₀ one_le_two (by omega)
      next =>
        rw [mul_zpow_ten_eq_div]
        exact nearest_of_round? proper (Nat.pow_pos (by decide)) rounded

/-- A decimal number is rounded exactly if it does not overflow. -/
theorem exists_roundDecimal?_iff {significand : ℕ} {exponent : ℤ} (proper : format.Proper) :
    (∃ value, format.roundDecimal? significand exponent = some value) ↔
      significand * 10 ^ exponent < format.overflow := by
  rw [roundDecimal?]
  split
  next zero =>
    rw [zero, Nat.cast_zero, zero_mul]
    exact iff_of_true ⟨_, rfl⟩ (overflow_pos proper)
  next nonzero =>
    have positive := Nat.pos_of_ne_zero nonzero
    split
    next huge =>
      have above : format.overflow ≤ significand * 10 ^ exponent := by
        calc format.overflow
            ≤ 2 ^ (format.maxExponent + format.precision) := overflow_lt.le
          _ ≤ 2 ^ (significand.log2 + 3 * exponent) :=
              zpow_le_zpow_right₀ one_le_two huge.2
          _ ≤ significand * 10 ^ exponent := le_mul_zpow_ten positive huge.1
      exact iff_of_false nofun (not_lt.mpr above)
    next =>
      split
      next tiny =>
        have precise := proper.precise
        have ordered := proper.ordered
        have below : significand * 10 ^ exponent < format.overflow := by
          calc (significand * 10 ^ exponent : ℚ)
              < 2 ^ (significand.log2 + 1 + 3 * exponent) := mul_zpow_ten_lt positive tiny.1
            _ ≤ 2 ^ (format.maxExponent + format.precision - 1) :=
                zpow_le_zpow_right₀ one_le_two (by omega)
            _ ≤ format.overflow := two_zpow_le_overflow proper
        exact iff_of_true ⟨_, rfl⟩ below
      next =>
        rw [mul_zpow_ten_eq_div]
        exact exists_round?_iff proper (Nat.pow_pos (by decide))

end BinaryFormat

end ColumnSchema
