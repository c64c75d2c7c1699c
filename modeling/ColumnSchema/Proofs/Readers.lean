import ColumnSchema.Proofs.Decimal.NumericText
import ColumnSchema.Proofs.Double
import ColumnSchema.Proofs.Integer
import Mathlib.Data.Nat.Digits.Lemmas

/-!
# Whole numbers in the numeric readers

Whole numbers, decimals and doubles have a reader each, with an accumulator of its own.
On the text of a whole number they agree: each yields the number as long as it has room
for it, however many zeros stand in front, and the double is the nearest one.
-/

namespace ColumnSchema

namespace Literal

/-- A column of at most 64 bits takes what the reader of its width accepts. -/
theorem integer_eq_ok_iff {text : String} {type : ScalarType} {bits : Nat} {value : Int}
    (width : type.primitive.wordBits? = some bits) :
    integer text type = .ok value ↔ Integer.read bits text.toList = .ok value := by
  have narrow : bits ≤ 64 := by
    cases primitiveEq : type.primitive <;> rw [primitiveEq] at width <;> cases width <;>
      decide
  rw [Integer.read_eq_ok_iff_of_le narrow, integer]
  cases Integer.read 64 text.toList with
  | error fault => simp
  | ok number =>
      simp only [hasWidth, width, decide_eq_true_eq]
      split
      next fits =>
        constructor
        · intro accepted
          cases accepted
          exact ⟨rfl, fits⟩
        · intro ⟨accepted, _⟩
          cases accepted
          rfl
      next exceeds =>
        constructor
        · intro accepted
          cases accepted
        · intro ⟨accepted, fits⟩
          cases accepted
          exact absurd fits exceeds

theorem largeInteger_eq_ok_iff {text : String} {value : Int} :
    largeInteger text = .ok value ↔ Integer.read 128 text.toList = .ok value := by
  rw [largeInteger]
  cases Integer.read 128 text.toList with
  | error fault => cases fault <;> simp
  | ok number => simp

theorem double_eq_ok_iff {text : String} {value : Double} :
    double text = .ok value ↔ Double.read? text.toList = some value := by
  rw [double]
  cases Double.read? text.toList with
  | none => simp
  | some read => simp

end Literal

namespace Decimal

variable {sign : Sign} {digits text : List Char}

/-- The digits of a whole number are its mantissa. -/
theorem read?_eq_of_isIntegerText (written : IsIntegerText sign digits text) :
    read? text = (ofParts? sign (digitsValue digits) 0).map unsignZero := by
  rw [read?, written.scan?_eq]
  rfl

/-- A whole number of 96 bits is read as it is. -/
theorem exists_read?_of_isIntegerText (written : IsIntegerText sign digits text)
    (room : digitsValue digits < 2 ^ 96) :
    ∃ value, read? text = some value ∧ value.mantissa = digitsValue digits ∧
      value.scale = 0 ∧ value.toRat = sign.apply (digitsValue digits) := by
  have significand : Numeral.significand { sign, whole := digits, fraction := [] } =
      digitsValue digits := by
    rw [Numeral.significand, List.append_nil]
  have places : ([] : List Char).length ≤ 28 := Nat.zero_le 28
  obtain ⟨value, read, mantissa, scale, exact⟩ :=
    exists_ofNumeral?_of_room (significand ▸ room) places
  rw [← read?_eq_ofNumeral? written.numeralWritten] at read
  rw [significand] at mantissa
  rw [Numeral.toRat, significand, List.length_nil, Sign.decimalRat, pow_zero, div_one] at exact
  exact ⟨value, read, mantissa, scale, exact⟩

/-- A longer one is not read. -/
theorem read?_eq_none_of_isIntegerText (written : IsIntegerText sign digits text)
    (large : 2 ^ 96 ≤ digitsValue digits) : read? text = none := by
  rw [read?_eq_of_isIntegerText written, Option.map_eq_none_iff, ofParts?]
  apply dif_neg
  intro inRange
  exact absurd inRange.1 (Nat.not_lt.mpr large)

/-- The precision counts the digits of the mantissa, and one for zero. -/
theorem precision_eq (value : Decimal) :
    value.precision = max 1 (Nat.digits 10 value.mantissa).length := by
  have same (places : Nat) (positive : 0 < places) :
      value.precision ≤ places ↔ (Nat.digits 10 value.mantissa).length ≤ places := by
    rw [precision_le_iff positive, Nat.digits_length_le_iff (by decide)]
  have one : 1 ≤ value.precision := value.precision_pos
  apply le_antisymm
  · rw [same _ (by omega)]
    exact le_max_right _ _
  · exact max_le one ((same _ one).mp le_rfl)

end Decimal

namespace Double

theorem two_pow_lt_overflow : (2 : ℚ) ^ 127 < BinaryFormat.double.overflow := by
  apply lt_of_lt_of_le _ (BinaryFormat.two_zpow_le_overflow proper_double)
  rw [← zpow_natCast]
  exact zpow_lt_zpow_right₀ one_lt_two (by decide)

/-- A whole number of 128 bits is read as the nearest double. -/
theorem exists_isNearest_of_isIntegerText {sign : Sign} {digits text : List Char}
    (written : IsIntegerText sign digits text) (room : digitsValue digits ≤ 2 ^ 127) :
    ∃ value, read? text = some value ∧ value.IsNearest (sign.apply (digitsValue digits)) := by
  have noPower : exponent? [] = some 0 := rfl
  have denoted : Numeral.toRat { sign, whole := digits, fraction := [] } * 10 ^ (0 : Int) =
      sign.apply (digitsValue digits) := by
    simp [Numeral.toRat, Sign.decimalRat, Numeral.significand]
  have bounded : |(sign.apply (digitsValue digits) : ℚ)| < BinaryFormat.double.overflow := by
    have magnitude : |(sign.apply (digitsValue digits) : ℚ)| ≤ 2 ^ 127 := by
      rw [← Int.cast_abs, Int.abs_eq_natAbs, Sign.natAbs_apply]
      exact_mod_cast room
    exact magnitude.trans_lt two_pow_lt_overflow
  obtain ⟨value, read⟩ := (exists_read?_iff written.scan?_eq noPower).mpr (denoted ▸ bounded)
  exact ⟨value, read, denoted ▸ isNearest_of_read? written.scan?_eq noPower read⟩

end Double

namespace Literal

/-- A text is a 64-bit number exactly if it is a number of 128 bits in the range of 64.
Such a text is the decimal of that number, with all its digits, if the mantissa has room
for them and no decimal otherwise, and it is the double nearest to the number. -/
theorem readers_agree (text : String) (value : Int) :
    (integer text .bigInt = .ok value ↔
        largeInteger text = .ok value ∧ -2 ^ 63 ≤ value ∧ value ≤ 2 ^ 63 - 1) ∧
      (largeInteger text = .ok value →
        (value.natAbs ≤ 2 ^ 96 - 1 → ∃ number, decimal text = .ok number ∧
            number.toRat = value ∧ number.scale = 0 ∧
            number.precision = max 1 (Nat.digits 10 value.natAbs).length) ∧
          (2 ^ 96 - 1 < value.natAbs → decimal text = .error (.invalidDecimal text)) ∧
          ∃ number, double text = .ok number ∧ number.IsNearest value) := by
  constructor
  · have narrower : 64 ≤ 128 := by decide
    have width : ScalarType.bigInt.primitive.wordBits? = some 64 := rfl
    rw [integer_eq_ok_iff width, largeInteger_eq_ok_iff,
      Integer.read_eq_ok_iff_of_le narrower, Integer.fits_iff, Int.le_sub_one_iff]
  · intro accepted
    obtain ⟨sign, digits, written, rfl, fits⟩ :=
      Integer.read_eq_ok_iff.mp (largeInteger_eq_ok_iff.mp accepted)
    have room := fits.natAbs_le
    rw [Sign.natAbs_apply] at room ⊢
    refine ⟨?_, ?_, ?_⟩
    · intro small
      obtain ⟨number, read, mantissa, scale, denoted⟩ :=
        Decimal.exists_read?_of_isIntegerText written (Nat.lt_of_le_pred (by decide) small)
      refine ⟨number, decimal_eq_ok.mpr read, denoted, scale, ?_⟩
      rw [number.precision_eq, mantissa]
    · intro large
      exact decimal_eq_error
        (Decimal.read?_eq_none_of_isIntegerText written (Nat.le_of_pred_lt large))
    · obtain ⟨number, read, nearest⟩ :=
        Double.exists_isNearest_of_isIntegerText written room
      exact ⟨number, double_eq_ok_iff.mpr read, nearest⟩

/-- A number halfway between two doubles, with zeros in front, and the largest number of
128 bits, which is no decimal. -/
theorem readers_agree_halfway :
    (∃ number, decimal "-0009007199254740993" = .ok number ∧
        number.toRat = (-9007199254740993 : Int) ∧ number.scale = 0 ∧ number.precision = 16) ∧
      (∃ number, double "-0009007199254740993" = .ok number ∧
        number.IsNearest (-9007199254740993 : Int)) ∧
      decimal "170141183460469231731687303715884105727" =
        .error (.invalidDecimal "170141183460469231731687303715884105727") := by
  have halfway : largeInteger "-0009007199254740993" = .ok (-9007199254740993) := rfl
  have largest : largeInteger "170141183460469231731687303715884105727" =
      .ok 170141183460469231731687303715884105727 := rfl
  have readers := (readers_agree "-0009007199254740993" (-9007199254740993)).2 halfway
  refine ⟨?_, readers.2.2, ?_⟩
  · have digits : max 1 (Nat.digits 10 9007199254740993).length = 16 := by norm_num
    exact digits ▸ readers.1 (by decide)
  · exact ((readers_agree _ _).2 largest).2.1 (by decide)

end Literal

end ColumnSchema
