import ColumnSchema.Proofs.Decimal.Exactness

/-!
# Plain decimal defaults

A numeral without a power of ten is judged by a decimal column as if it were never
rounded: a column whose digits it fits has room to read all of them, and whatever is
rounded when it is read has too many digits for every column.
-/

namespace ColumnSchema

namespace Numeral

/-- The number of a numeral is below a power of ten if its digits are few enough. -/
theorem abs_toRat_lt_iff {numeral : Numeral} {places : Nat} :
    |numeral.toRat| < 10 ^ places ↔
      numeral.significand < 10 ^ (places + numeral.fraction.length) :=
  Sign.abs_decimalRat_lt_iff

/-- The numeral has few enough digits on both sides of the point for a column of the
precision and scale. Zeros at the end count as digits, zeros in front do not. -/
def Fits (numeral : Numeral) (precision scale : Nat) : Prop :=
  numeral.fraction.length ≤ scale ∧ |numeral.toRat| < 10 ^ (precision - scale)

/-- Zero has no digits but those after its point. -/
theorem fits_iff_of_toRat_eq_zero {numeral : Numeral} {precision scale : Nat}
    (zero : numeral.toRat = 0) :
    numeral.Fits precision scale ↔ numeral.fraction.length ≤ scale := by
  apply and_iff_left
  rw [zero, abs_zero]
  positivity

end Numeral

namespace Decimal

variable {numeral : Numeral} {text : List Char} {precision scale : Nat}

/-- A decimal that fits a column has all the digits of the numeral it was read from. -/
theorem Fits.numeral_fits {value : Decimal} (fits : value.Fits precision scale)
    (legal : scale ≤ precision ∧ precision ≤ 27 ∧ scale ≤ 9)
    (written : numeral.Written text) (read : read? text = some value) :
    numeral.Fits precision scale := by
  obtain ⟨ordered, precisionLe, scaleLe⟩ := legal
  obtain ⟨few, bounded⟩ := fits_iff.mp fits
  rw [read?_eq_ofNumeral? written] at read
  obtain ⟨kept, exact⟩ := scale_and_toRat_of_ofNumeral? written.fraction read
    (fits.mantissa_lt ordered precisionLe)
  have places : numeral.fraction.length ≤ scale := by omega
  have noneDropped : numeral.fraction.drop 28 = [] := List.drop_eq_nil_of_le (by omega)
  rw [exact.mpr (by rw [noneDropped]; exact nofun)] at bounded
  exact ⟨places, bounded⟩

/-- A numeral that fits a column is read digit for digit. -/
theorem exists_fits_of_numeral_fits (fits : numeral.Fits precision scale)
    (legal : scale ≤ precision ∧ precision ≤ 27 ∧ scale ≤ 9)
    (written : numeral.Written text) :
    ∃ value, read? text = some value ∧ value.Fits precision scale := by
  obtain ⟨ordered, precisionLe, scaleLe⟩ := legal
  obtain ⟨places, bounded⟩ := fits
  have room : numeral.significand < 2 ^ 96 :=
    calc numeral.significand
        < 10 ^ (precision - scale + numeral.fraction.length) :=
          Numeral.abs_toRat_lt_iff.mp bounded
      _ ≤ 10 ^ 27 := Nat.pow_le_pow_right (by decide) (by omega)
      _ < 2 ^ 96 := by decide
  obtain ⟨value, read, -, valueScale, exact⟩ := exists_ofNumeral?_of_room room (by omega)
  refine ⟨value, (read?_eq_ofNumeral? written).trans read, ?_⟩
  rw [fits_iff, valueScale, exact]
  exact ⟨places, bounded⟩

end Decimal

namespace ScalarType

/-- A decimal column accepts a numeral as a default exactly if it has no more fraction
digits than the scale and its number is below the bound that the column sets. So zero
is accepted however it is written, even if the column has no room for whole digits, as
long as its fraction digits fit. -/
theorem checkDefault_numeral_iff {precision scale : UInt32} {numeral : Numeral}
    {text : String} (legal : (decimal precision scale).Legal)
    (written : numeral.Written text.toList) :
    ((decimal precision scale).checkDefault text = .ok () ↔
        numeral.fraction.length ≤ scale.toNat ∧
          |numeral.toRat| < 10 ^ (precision.toNat - scale.toNat)) ∧
      (numeral.toRat = 0 →
        ((decimal precision scale).checkDefault text = .ok () ↔
          numeral.fraction.length ≤ scale.toNat)) := by
  obtain ⟨-, precisionLe, scaleLe, ordered⟩ := legal_decimal.mp legal
  have fits : (decimal precision scale).checkDefault text = .ok () ↔
      numeral.Fits precision.toNat scale.toNat := by
    simp only [checkDefault_decimal_eq_ok, Literal.decimal_eq_ok]
    constructor
    · intro ⟨value, read, fits⟩
      exact fits.numeral_fits ⟨ordered, precisionLe, scaleLe⟩ written read
    · intro fits
      exact Decimal.exists_fits_of_numeral_fits fits ⟨ordered, precisionLe, scaleLe⟩ written
  refine ⟨fits, ?_⟩
  intro zero
  exact fits.trans (Numeral.fits_iff_of_toRat_eq_zero zero)

/-- Zero without whole digits. -/
def zeroPointZeros : Numeral where
  sign := .negative
  whole := []
  fraction := ['0', '0']

/-- Twelve and a half with a digit more than it needs. -/
def twelvePointFive : Numeral where
  sign := .positive
  whole := ['0', '1', '2']
  fraction := ['5', '0']

/-- A column without whole digits takes zero. A column with one fraction digit does not
take a number that needs no more but is written with two. -/
theorem checkDefault_numeral_twelvePointFive :
    (decimal 2 2).checkDefault "-.00" = .ok () ∧
      (decimal 4 2).checkDefault "+012.50" = .ok () ∧
      (decimal 4 1).checkDefault "+012.50" ≠ .ok () := by
  have zeros : zeroPointZeros.Written "-.00".toList := {
    whole := by decide
    fraction := by decide
    nonempty := by decide
    spelled := ⟨['-'], ['.', '0', '0'], .minus, .pointed _, rfl⟩ }
  have twelve : twelvePointFive.Written "+012.50".toList := {
    whole := by decide
    fraction := by decide
    nonempty := by decide
    spelled := ⟨['+'], ['.', '5', '0'], .plus, .pointed _, rfl⟩ }
  have zero : zeroPointZeros.toRat = 0 := by
    have significand : zeroPointZeros.significand = 0 := rfl
    rw [Numeral.toRat, significand]
    simp [Sign.decimalRat, zeroPointZeros, Sign.apply]
  have below : |twelvePointFive.toRat| < 10 ^ (4 - 2) := by
    rw [Numeral.abs_toRat_lt_iff]
    decide
  refine ⟨((checkDefault_numeral_iff (by simp) zeros).2 zero).mpr (by decide),
    (checkDefault_numeral_iff (by simp) twelve).1.mpr ⟨by decide, below⟩, ?_⟩
  intro accepted
  have places := ((checkDefault_numeral_iff (by simp) twelve).1.mp accepted).1
  exact absurd places (by decide)

end ScalarType

end ColumnSchema
