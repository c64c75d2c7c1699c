import ColumnSchema.Literal
import ColumnSchema.Proofs.Decimal.Fit
import ColumnSchema.Proofs.Decimal.Scientific
import ColumnSchema.Proofs.Outcome
import ColumnSchema.Proofs.Resolution

/-!
# Which decimal defaults are exact

A decimal column judges a default by the decimal that is read from it, and such a
decimal is too small for its mantissa to have lost a digit. Fraction digits after
the 28th are another matter. They are rounded away before the power of ten is
applied, so a power that moves the point to the right can bring the rounded digit
within the scale of the column, where the rounding no longer shows.
-/

namespace ColumnSchema

/-- The number can be stored with the given precision and scale, digit for digit. -/
structure IsStorable (number : ℚ) (precision scale : Nat) : Prop where
  multiple : IsMultiple number scale
  bounded : |number| < 10 ^ (precision - scale)

theorem Literal.decimal_eq_ok {text : String} {value : Decimal} :
    Literal.decimal text = .ok value ↔ Decimal.read? text.toList = some value := by
  rw [Literal.decimal]
  cases Decimal.read? text.toList with
  | none => simp
  | some read => simp

/-- A decimal column accepts the texts of the decimals that fit it. -/
theorem ScalarType.checkDefault_decimal_eq_ok {precision scale : UInt32} {text : String} :
    (decimal precision scale).checkDefault text = .ok () ↔
      ∃ value, Literal.decimal text = .ok value ∧
        value.Fits precision.toNat scale.toNat := by
  rw [checkDefault, Outcome.bind_eq_ok]
  simp only [Literal.checkDigits_eq_ok]

namespace Decimal

theorem Fits.isStorable {value : Decimal} {precision scale : Nat}
    (fits : value.Fits precision scale) : IsStorable value.toRat precision scale where
  multiple := isMultiple_toRat fits.1
  bounded := (fits_iff.mp fits).2

/-- A decimal that fits has no more digits than the precision, and no precision is above
27. -/
theorem Fits.mantissa_lt {value : Decimal} {precision scale : Nat}
    (fits : value.Fits precision scale) (ordered : scale ≤ precision)
    (atMost : precision ≤ 27) : value.mantissa < 10 ^ 27 := by
  have below := wholeDigits_le_iff.mp fits.2
  have places : precision - scale + value.scale ≤ 27 := by
    have scaleLe := fits.1
    omega
  exact Nat.lt_of_lt_of_le below (Nat.pow_le_pow_right (by decide) places)

/-- A decimal that fits a column comes by the power from one that kept up to 28
fraction digits. -/
theorem Fits.exists_base {number : Scientific} {text : List Char} {value : Decimal}
    {precision scale : Nat} (fits : value.Fits precision scale)
    (legal : scale ≤ precision ∧ precision ≤ 27 ∧ scale ≤ 9)
    (written : number.Written text) (read : read? text = some value) :
    ∃ base, Moved base value number.power ∧
      base.scale = min number.numeral.fraction.length 28 ∧
      (base.toRat = number.numeral.toRat ↔
        ∀ c ∈ number.numeral.fraction.drop 28, c = '0') := by
  rcases exists_base_of_read? written read with ⟨base, baseEq, moves⟩
  rcases legal with ⟨ordered, precisionLe, scaleLe⟩
  have room : value.scale < 28 := Nat.lt_of_le_of_lt fits.1 (by omega)
  have moved := moves room
  have small : base.mantissa < 10 ^ 27 :=
    Nat.lt_of_le_of_lt moved.mantissa (fits.mantissa_lt ordered precisionLe)
  rcases written with ⟨front, back, numeralWritten, -, -⟩
  exact ⟨base, moved, scale_and_toRat_of_ofNumeral? numeralWritten.fraction baseEq small⟩

/-- A decimal that fits a column is the written number exactly if that has only
zeros after its 28th fraction digit. -/
theorem Fits.toRat_eq_iff {number : Scientific} {text : List Char} {value : Decimal}
    {precision scale : Nat} (fits : value.Fits precision scale)
    (legal : scale ≤ precision ∧ precision ≤ 27 ∧ scale ≤ 9)
    (written : number.Written text) (read : read? text = some value) :
    value.toRat = number.toRat ↔ ∀ c ∈ number.numeral.fraction.drop 28, c = '0' := by
  rcases fits.exists_base legal written read with ⟨base, moved, -, exact⟩
  have power : (10 : ℚ) ^ number.power ≠ 0 := zpow_ne_zero _ (by norm_num)
  rw [moved.toRat, Scientific.toRat, mul_left_inj' power]
  exact exact

/-- Without a power that brings the 28th fraction digit within the scale, a decimal
that fits a column is the written number. -/
theorem Fits.toRat_eq_of_power_lt {number : Scientific} {text : List Char}
    {value : Decimal} {precision scale : Nat} (fits : value.Fits precision scale)
    (legal : scale ≤ precision ∧ precision ≤ 27 ∧ scale ≤ 9)
    (written : number.Written text) (read : read? text = some value)
    (small : number.power + scale < 28) : value.toRat = number.toRat := by
  rcases fits.exists_base legal written read with ⟨base, moved, scaleEq, -⟩
  have kept : number.numeral.fraction.length ≤ 28 := by
    have scaleLe := fits.1
    have scaleMoved := moved.scale
    omega
  rw [fits.toRat_eq_iff legal written read, List.drop_eq_nil_of_le kept]
  exact nofun

end Decimal

namespace ScalarType

/-- What a decimal column accepts writes one number, and the decimal that is read
from it can be stored. That decimal is the number, so that the number itself can be
stored, exactly if there are only zeros after the 28th fraction digit. -/
theorem checkDefault_decimal_exact_iff {precision scale : UInt32} {text : String}
    (legal : (decimal precision scale).Legal)
    (accepted : (decimal precision scale).checkDefault text = .ok ()) :
    (∃! number : Scientific, number.Written text.toList) ∧
      ∀ number : Scientific, number.Written text.toList →
        ∃ value, Literal.decimal text = .ok value ∧
          IsStorable value.toRat precision.toNat scale.toNat ∧
          (value.toRat = number.toRat ∧
              IsStorable number.toRat precision.toNat scale.toNat ↔
            ∀ c ∈ number.numeral.fraction.drop 28, c = '0') := by
  rcases checkDefault_decimal_eq_ok.mp accepted with ⟨value, literal, fits⟩
  have read := Literal.decimal_eq_ok.mp literal
  rcases legal_decimal.mp legal with ⟨-, precisionLe, scaleLe, ordered⟩
  rcases Decimal.exists_written_of_read? read with ⟨only, onlyWritten⟩
  refine ⟨⟨only, onlyWritten, fun _ written => written.unique onlyWritten⟩, ?_⟩
  intro number written
  refine ⟨value, literal, fits.isStorable, ?_⟩
  rw [← fits.toRat_eq_iff ⟨ordered, precisionLe, scaleLe⟩ written read]
  constructor
  · exact fun exact => exact.1
  · intro exact
    exact ⟨exact, exact ▸ fits.isStorable⟩

/-- Fifteen, written with a power of ten. -/
def fifteen : Scientific where
  numeral := { sign := .positive, whole := ['1'], fraction := ['5', '0'] }
  power := 1

theorem checkDefault_decimal_fifteen :
    (decimal 10 2).checkDefault "1.50e1" = .ok () ∧
      ∃ value, Literal.decimal "1.50e1" = .ok value ∧ value.toRat = fifteen.toRat ∧
        IsStorable fifteen.toRat 10 2 := by
  have legal : (decimal 10 2).Legal := by simp
  have accepted : (decimal 10 2).checkDefault "1.50e1" = .ok () := rfl
  have written : fifteen.Written "1.50e1".toList := by
    refine ⟨['1', '.', '5', '0'], ['e', '1'], ?_, ?_, rfl⟩
    · exact {
        whole := by decide
        fraction := by decide
        nonempty := by decide
        spelled := ⟨[], ['.', '5', '0'], .bare, .pointed _, rfl⟩ }
    · exact .up (.inl rfl) (.inl rfl) (List.cons_ne_nil '1' []) (by decide)
  rcases (checkDefault_decimal_exact_iff legal accepted).2 fifteen written with
    ⟨value, literal, -, exact⟩
  exact ⟨accepted, value, literal, exact.mpr (List.forall_mem_nil _)⟩

/-- A default is exact if its power of ten does not bring the 28th fraction digit
within the scale. In particular every default without a power is. -/
theorem checkDefault_decimal_exact_of_power_lt {precision scale : UInt32} {text : String}
    (legal : (decimal precision scale).Legal)
    (accepted : (decimal precision scale).checkDefault text = .ok ())
    {number : Scientific} (written : number.Written text.toList)
    (small : number.power + scale.toNat < 28) :
    ∃ value, Literal.decimal text = .ok value ∧ value.toRat = number.toRat ∧
      IsStorable number.toRat precision.toNat scale.toNat := by
  rcases checkDefault_decimal_eq_ok.mp accepted with ⟨value, literal, fits⟩
  have read := Literal.decimal_eq_ok.mp literal
  rcases legal_decimal.mp legal with ⟨-, precisionLe, scaleLe, ordered⟩
  have exact := fits.toRat_eq_of_power_lt ⟨ordered, precisionLe, scaleLe⟩ written read small
  exact ⟨value, literal, exact, exact ▸ fits.isStorable⟩

/-! ## A default that is rounded -/

/-- A half, written with 29 fraction digits and the largest power of ten. -/
def half : Scientific where
  numeral :=
    { sign := .positive, whole := ['0'], fraction := List.replicate 28 '0' ++ ['5'] }
  power := 28

def halfText : String := "0.00000000000000000000000000005e28"

theorem half_written : half.Written halfText.toList := by
  refine ⟨['0', '.'] ++ half.numeral.fraction, ['e', '2', '8'], ?_, ?_, rfl⟩
  · exact {
      whole := by decide
      fraction := by decide
      nonempty := by decide
      spelled := ⟨[], '.' :: half.numeral.fraction, .bare, .pointed _, rfl⟩ }
  · exact .up (.inl rfl) (.inl rfl) (List.cons_ne_nil '2' ['8']) (by decide)

theorem toRat_half : half.toRat = 1 / 2 := by
  have significand : half.numeral.significand = 5 := rfl
  rw [Scientific.toRat, Numeral.toRat, significand]
  norm_num [half, Sign.decimalRat, Sign.apply]

theorem not_isMultiple_half : ¬ IsMultiple (1 / 2) 0 := by
  rintro ⟨units, equal⟩
  have doubled : (2 * units : ℚ) = 1 := by
    rw [pow_zero, div_one] at equal
    rw [← equal]
    norm_num
  have whole : 2 * units = 1 := by exact_mod_cast doubled
  omega

/-- A column of whole numbers accepts a half and holds it as one. -/
theorem checkDefault_decimal_rounds_half :
    (decimal 10 0).Legal ∧ (decimal 10 0).checkDefault halfText = .ok () ∧
      half.Written halfText.toList ∧ half.toRat = 1 / 2 ∧ ¬ IsStorable half.toRat 10 0 ∧
      ∃ value, Literal.decimal halfText = .ok value ∧ value.toRat = 1 := by
  refine ⟨by simp, rfl, half_written, toRat_half, ?_, ?_⟩
  · intro storable
    exact not_isMultiple_half (toRat_half ▸ storable.multiple)
  · refine ⟨⟨.positive, 1, 0, by decide, by decide⟩, rfl, ?_⟩
    norm_num [Decimal.toRat, Sign.decimalRat, Sign.apply]

end ScalarType

end ColumnSchema
