import ColumnSchema.Proofs.Binary.Rounding

/-!
# Numbers that rounding keeps

A number belongs to a format if it is a multiple of one of the units with few enough
digits. It has a magnitude with all digits of the format then, unless the format has no
smaller unit. Rounding keeps a number exactly if it belongs to the format: the nearest
magnitude is the number itself, and it does not overflow.
-/

namespace ColumnSchema

namespace Binary

theorem denominator_pos (value : Binary) : 0 < value.denominator :=
  Nat.two_pow_pos _

theorem toRat_eq_div (value : Binary) : value.toRat = value.numerator / value.denominator := by
  rw [toRat, two_zpow_eq_div, numerator, denominator, Nat.cast_mul, mul_div_assoc]

/-- Magnitudes are compared by the numbers that they denote. -/
theorem sameValue_iff {left right : Binary} :
    left.sameValue right = true ↔ left.toRat = right.toRat := by
  have leftUnit : (left.denominator : ℚ) ≠ 0 := by exact_mod_cast left.denominator_pos.ne'
  have rightUnit : (right.denominator : ℚ) ≠ 0 := by exact_mod_cast right.denominator_pos.ne'
  rw [toRat_eq_div, toRat_eq_div, div_eq_div_iff leftUnit rightUnit, sameValue, beq_iff_eq]
  exact_mod_cast Iff.rfl

end Binary

namespace BinaryFormat

/-- The number belongs to the format: it is a multiple of a unit, and counted in this
unit it has no more digits than a mantissa. -/
def Represents (format : BinaryFormat) (number : ℚ) : Prop :=
  ∃ mantissa exponent : ℤ, |mantissa| < 2 ^ format.precision ∧
    format.minExponent ≤ exponent ∧ exponent ≤ format.maxExponent ∧
    number = mantissa * 2 ^ exponent

variable {format : BinaryFormat} {number : ℚ}

theorem Represents.neg (represents : format.Represents number) :
    format.Represents (-number) := by
  obtain ⟨mantissa, exponent, digits, le_exponent, exponent_le, rfl⟩ := represents
  refine ⟨-mantissa, exponent, ?_, le_exponent, exponent_le, ?_⟩
  · rwa [abs_neg]
  · rw [Int.cast_neg, neg_mul]

theorem Holds.represents {value : Binary} (holds : format.Holds value) :
    format.Represents value.toRat := by
  refine ⟨value.mantissa, value.exponent, ?_, holds.le_exponent, holds.exponent_le, ?_⟩
  · rw [Nat.abs_cast]
    exact_mod_cast holds.mantissa_lt
  · rw [Binary.toRat, Int.cast_natCast]

/-- A mantissa takes in digits from smaller units until it has all its own. -/
theorem exists_holds {mantissa steps : ℕ} (digits : mantissa < 2 ^ format.precision)
    (exponent_le : format.minExponent + steps ≤ format.maxExponent) :
    ∃ value, format.Holds value ∧
      value.toRat = mantissa * 2 ^ (format.minExponent + steps) := by
  induction steps generalizing mantissa with
  | zero =>
      rw [Nat.cast_zero, add_zero] at exponent_le ⊢
      exact ⟨⟨mantissa, format.minExponent⟩, ⟨digits, le_rfl, exponent_le, .inl rfl⟩, rfl⟩
  | succ steps ih =>
      rw [Nat.cast_succ, ← add_assoc] at exponent_le ⊢
      by_cases full : 2 ^ (format.precision - 1) ≤ mantissa
      · have least : format.minExponent ≤ format.minExponent + steps + 1 := by omega
        exact ⟨⟨mantissa, _⟩, ⟨digits, least, exponent_le, .inr full⟩, rfl⟩
      · have room : 2 * mantissa < 2 ^ format.precision := by
          cases precision : format.precision with
          | zero =>
              rw [precision] at full
              omega
          | succ places =>
              rw [precision, Nat.add_sub_cancel] at full
              rw [pow_succ]
              omega
        obtain ⟨value, holds, valueEq⟩ := ih room (by omega)
        refine ⟨value, holds, ?_⟩
        rw [valueEq, zpow_add_one₀ two_ne_zero]
        push_cast
        ring

/-- A number of the format has a magnitude of its own. -/
theorem Represents.exists_holds (represents : format.Represents number) :
    ∃ value, format.Holds value ∧ value.toRat = |number| := by
  obtain ⟨mantissa, exponent, digits, le_exponent, exponent_le, rfl⟩ := represents
  obtain ⟨steps, rfl⟩ := Int.exists_add_of_le le_exponent
  have digits' : mantissa.natAbs < 2 ^ format.precision := by
    zify
    exact digits
  obtain ⟨value, holds, valueEq⟩ := BinaryFormat.exists_holds digits' exponent_le
  refine ⟨value, holds, ?_⟩
  have unit : |(2 : ℚ) ^ (format.minExponent + steps)| = 2 ^ (format.minExponent + steps) :=
    abs_of_pos (by positivity)
  rw [valueEq, abs_mul, unit, Nat.cast_natAbs, Int.cast_abs]

/-- The magnitudes of a format lie below the point of overflow. -/
theorem Holds.toRat_lt_overflow {value : Binary} (holds : format.Holds value) :
    value.toRat < format.overflow := by
  have digits : (value.mantissa : ℚ) + 1 ≤ 2 ^ format.precision := by
    exact_mod_cast holds.mantissa_lt
  calc value.toRat
      ≤ value.mantissa * 2 ^ format.maxExponent := by
        rw [Binary.toRat]
        gcongr
        · exact one_le_two
        · exact holds.exponent_le
    _ < format.overflow := by
        rw [overflow]
        gcongr
        linarith

/-- No magnitude is nearer to a number of the format than its own. -/
theorem Nearest.toRat_eq {value other : Binary} (nearest : format.Nearest number value)
    (holds : format.Holds other) (exact : other.toRat = number) : value.toRat = number := by
  have distance := nearest.le other holds
  rw [exact, sub_self, abs_zero, abs_nonpos_iff, sub_eq_zero] at distance
  exact distance.symm

/-- Rounding keeps exactly the numbers of the format. -/
theorem exists_round?_eq_iff {numerator denominator : ℕ} (proper : format.Proper)
    (positive : 0 < denominator) :
    (∃ value, format.round? numerator denominator = some value ∧
        value.toRat = numerator / denominator) ↔
      format.Represents (numerator / denominator) := by
  constructor
  · rintro ⟨value, rounded, same⟩
    exact same ▸ (nearest_of_round? proper positive rounded).holds.represents
  · intro represents
    obtain ⟨other, holds, exact⟩ := represents.exists_holds
    rw [abs_of_nonneg (by positivity)] at exact
    obtain ⟨value, rounded⟩ :=
      (exists_round?_iff proper positive).mpr (exact ▸ holds.toRat_lt_overflow)
    exact ⟨value, rounded, (nearest_of_round? proper positive rounded).toRat_eq holds exact⟩

end BinaryFormat

end ColumnSchema
