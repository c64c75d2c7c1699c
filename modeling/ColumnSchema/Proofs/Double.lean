import ColumnSchema.Number.Binary
import ColumnSchema.Proofs.Binary.Rounding
import ColumnSchema.Proofs.Decimal.Value

/-!
# The nearest double

A double is read by rounding the magnitude of a number and keeping its sign. The result
is nearest to the number among all doubles, those with the other sign included.
-/

namespace ColumnSchema.Double

/-- The number that a double denotes. -/
def toRat (value : Double) : ℚ :=
  value.sign.apply 1 * value.magnitude.toRat

/-- The number is rounded to the double: no other double is nearer, and the mantissa is
even if another number is as near. -/
structure IsNearest (value : Double) (number : ℚ) : Prop where
  holds : BinaryFormat.double.Holds value.magnitude
  le : ∀ other : Double, BinaryFormat.double.Holds other.magnitude →
    |number - value.toRat| ≤ |number - other.toRat|
  even : ∀ other : Double, BinaryFormat.double.Holds other.magnitude →
    other.toRat ≠ value.toRat → |number - value.toRat| = |number - other.toRat| →
      Even value.magnitude.mantissa

theorem proper_double : BinaryFormat.double.Proper where
  precise := by decide
  ordered := by decide

/-- A sign does not change distances. -/
theorem distance_signed (sign : Sign) (left right : ℚ) :
    |sign.apply 1 * left - sign.apply 1 * right| = |left - right| := by
  rw [← mul_sub, abs_mul, sign.abs_cast_apply_one, one_mul]

/-- The number of a double has the sign of choice if a magnitude may be negative. -/
theorem exists_signed (value : Double) (sign : Sign) :
    ∃ signed, (signed = value.magnitude.toRat ∨ signed = -value.magnitude.toRat) ∧
      value.toRat = sign.apply 1 * signed := by
  rw [toRat]
  cases value.sign with
  | positive =>
      cases sign with
      | positive => exact ⟨_, .inl rfl, rfl⟩
      | negative => exact ⟨_, .inr rfl, by simp [Sign.apply]⟩
  | negative =>
      cases sign with
      | positive => exact ⟨_, .inr rfl, by simp [Sign.apply]⟩
      | negative => exact ⟨_, .inl rfl, rfl⟩

/-- With the sign of the number the nearest magnitude gives the nearest double. A double
of the other sign is not nearer than zero is. -/
theorem isNearest_of_nearest (sign : Sign) {size : ℚ} {magnitude : Binary} (nonneg : 0 ≤ size)
    (nearest : BinaryFormat.double.Nearest size magnitude) :
    IsNearest ⟨sign, magnitude⟩ (sign.apply 1 * size) := by
  have zero := BinaryFormat.holds_zero proper_double
  have atZero := nearest.le _ zero
  rw [BinaryFormat.toRat_zero, sub_zero, abs_of_nonneg nonneg] at atZero
  have others (other : Double) (held : BinaryFormat.double.Holds other.magnitude)
      (signed : ℚ) (parts : signed = other.magnitude.toRat ∨ signed = -other.magnitude.toRat) :
      |size - magnitude.toRat| ≤ |size - signed| ∧
        (signed ≠ magnitude.toRat → |size - magnitude.toRat| = |size - signed| →
          Even magnitude.mantissa) := by
    cases parts with
    | inl same =>
        rw [same]
        exact ⟨nearest.le _ held, nearest.even _ held⟩
    | inr opposite =>
        have magnitude_nonneg : 0 ≤ other.magnitude.toRat := by
          rw [Binary.toRat]
          positivity
        rw [opposite, sub_neg_eq_add, abs_of_nonneg (add_nonneg nonneg magnitude_nonneg)]
        constructor
        · linarith
        · intro different tie
          have none : other.magnitude.toRat = 0 := by linarith
          have tieZero :
              |size - magnitude.toRat| = |size - BinaryFormat.double.zero.toRat| := by
            rw [tie, none, BinaryFormat.toRat_zero, sub_zero, add_zero, abs_of_nonneg nonneg]
          apply nearest.even _ zero _ tieZero
          rw [none, neg_zero] at different
          rw [BinaryFormat.toRat_zero]
          exact different
  refine ⟨nearest.holds, ?_, ?_⟩
  · intro other held
    obtain ⟨signed, parts, otherEq⟩ := other.exists_signed sign
    rw [otherEq, toRat, distance_signed, distance_signed]
    exact (others other held signed parts).1
  · intro other held different tie
    obtain ⟨signed, parts, otherEq⟩ := other.exists_signed sign
    rw [otherEq, toRat] at different tie
    rw [distance_signed, distance_signed] at tie
    apply (others other held signed parts).2 _ tie
    intro same
    exact different (by rw [same])

variable {text rest : List Char} {numeral : Numeral} {power : Int}

/-- The magnitude of a numeral with a power of ten is rounded, and its sign is kept. -/
theorem read?_eq_map (scanned : Numeral.scan? text = some (numeral, rest))
    (powerRead : exponent? rest = some power) :
    read? text =
      (BinaryFormat.double.roundDecimal? numeral.significand
        (power - numeral.fraction.length)).map fun magnitude => ⟨numeral.sign, magnitude⟩ := by
  simp only [read?, scanned, powerRead, Option.bind_eq_bind, Option.bind_some,
    Option.pure_def, Option.map_eq_bind]
  rfl

/-- A text is read as the double nearest to the number that it denotes. -/
theorem isNearest_of_read? {value : Double}
    (scanned : Numeral.scan? text = some (numeral, rest))
    (powerRead : exponent? rest = some power) (read : read? text = some value) :
    value.IsNearest (numeral.toRat * 10 ^ power) := by
  rw [read?_eq_map scanned powerRead, Option.map_eq_some_iff] at read
  obtain ⟨magnitude, rounded, rfl⟩ := read
  have nearest := BinaryFormat.nearest_of_roundDecimal? proper_double rounded
  rw [numeral.toRat_mul_zpow]
  exact isNearest_of_nearest numeral.sign (by positivity) nearest

/-- A text is read exactly if its number does not overflow. -/
theorem exists_read?_iff (scanned : Numeral.scan? text = some (numeral, rest))
    (powerRead : exponent? rest = some power) :
    (∃ value, read? text = some value) ↔
      |numeral.toRat * 10 ^ power| < BinaryFormat.double.overflow := by
  have size : |numeral.toRat * 10 ^ power| =
      numeral.significand * 10 ^ (power - numeral.fraction.length : Int) := by
    rw [numeral.toRat_mul_zpow, abs_mul, numeral.sign.abs_cast_apply_one, one_mul,
      abs_of_nonneg (by positivity)]
  rw [size, ← BinaryFormat.exists_roundDecimal?_iff proper_double,
    read?_eq_map scanned powerRead]
  simp only [Option.map_eq_some_iff]
  constructor
  · rintro ⟨_, magnitude, rounded, -⟩
    exact ⟨magnitude, rounded⟩
  · rintro ⟨magnitude, rounded⟩
    exact ⟨_, magnitude, rounded, rfl⟩

end ColumnSchema.Double
