import ColumnSchema.Proofs.Readers

/-!
# Wider types

A column type is wider than another one if it has room for all values of the other. Its
defaults are read by a different reader, in a different form or with other bounds, and
still every default of the narrower type is one of the wider type.
-/

namespace ColumnSchema.ScalarType

/-- The width of a whole number. -/
def integerBits? : ScalarType → Option Nat
  | tinyInt => some 8
  | smallInt => some 16
  | int => some 32
  | bigInt => some 64
  | largeInt => some 128
  | _ => none

/-- The most digits of a whole number of at most 64 bits. -/
def integerDigits? : ScalarType → Option Nat
  | tinyInt => some 3
  | smallInt => some 5
  | int => some 10
  | bigInt => some 19
  | _ => none

/-- The most characters of a text. -/
def textLength? : ScalarType → Option Nat
  | char length => some length.toNat
  | varchar (some length) => some length.toNat
  | _ => none

/-- The second type has room for all values of the first one. -/
inductive Wider : ScalarType → ScalarType → Prop where
  | integer {narrow wide : ScalarType} {bits bits' : Nat}
      (narrowBits : narrow.integerBits? = some bits)
      (wideBits : wide.integerBits? = some bits') (le : bits ≤ bits') : Wider narrow wide
  | text {narrow wide : ScalarType} {length length' : Nat}
      (narrowLength : narrow.textLength? = some length)
      (wideLength : wide.textLength? = some length') (le : length ≤ length') :
      Wider narrow wide
  | decimal {precision scale precision' scale' : UInt32}
      (scale_le : scale.toNat ≤ scale'.toNat)
      (whole_le : precision.toNat - scale.toNat ≤ precision'.toNat - scale'.toNat) :
      Wider (.decimal precision scale) (.decimal precision' scale')
  | integerToDecimal {narrow : ScalarType} {digits : Nat} {precision scale : UInt32}
      (narrowDigits : narrow.integerDigits? = some digits)
      (whole_le : digits ≤ precision.toNat - scale.toNat) :
      Wider narrow (.decimal precision scale)
  | integerToDouble {narrow : ScalarType} {bits : Nat}
      (narrowBits : narrow.integerBits? = some bits) : Wider narrow .double
  | floatToDouble : Wider .float .double

variable {type : ScalarType} {text : String}

/-- Columns of whole numbers accept what the reader of their width accepts. -/
theorem checkDefault_integer_eq_ok {bits : Nat} (width : type.integerBits? = some bits) :
    type.checkDefault text = .ok () ↔ ∃ value, Integer.read bits text.toList = .ok value := by
  cases type with
  | tinyInt | smallInt | int | bigInt =>
      cases width
      exact Outcome.discard_eq_ok.trans (exists_congr fun _ => Literal.integer_eq_ok_iff rfl)
  | largeInt =>
      cases width
      exact Outcome.discard_eq_ok.trans (exists_congr fun _ => Literal.largeInteger_eq_ok_iff)
  | _ => cases width

theorem checkDefault_double_eq_ok :
    double.checkDefault text = .ok () ↔ ∃ value, Literal.double text = .ok value :=
  Outcome.discard_eq_ok

theorem checkDefault_float_eq_ok :
    float.checkDefault text = .ok () ↔ ∃ value, Literal.single text = .ok value :=
  Outcome.discard_eq_ok

/-- Text columns accept what is not too long. -/
theorem checkDefault_text_eq_ok {length : Nat} (most : type.textLength? = some length) :
    type.checkDefault text = .ok () ↔ text.length ≤ length := by
  have fits {type : ScalarType} (capacity : type.textCapacity = length) :
      type.checkLength text = .ok () ↔ text.length ≤ length := by
    rw [checkLength, capacity]
    split
    next short => exact iff_of_true rfl short
    next long => exact iff_of_false nofun long
  cases type with
  | char => exact fits (Option.some.inj most)
  | varchar length' =>
      cases length' with
      | none => cases most
      | some => exact fits (Option.some.inj most)
  | _ => cases most

/-- The numbers of an integer type have no more digits than the type. -/
theorem exists_integerBits? {digits : Nat} (most : type.integerDigits? = some digits) :
    ∃ bits, type.integerBits? = some bits ∧ bits ≤ 64 ∧ 2 ^ (bits - 1) < 10 ^ digits := by
  cases type with
  | tinyInt | smallInt | int | bigInt =>
      cases most
      exact ⟨_, rfl, by decide, by decide⟩
  | _ => cases most

/-- A whole number of few digits fits a decimal column that has room for them. -/
theorem checkDefault_decimal_of_integer {bits : Nat} {precision scale : UInt32} {value : Int}
    (narrow : bits ≤ 64) (room : 2 ^ (bits - 1) < 10 ^ (precision.toNat - scale.toNat))
    (read : Integer.read bits text.toList = .ok value) :
    (decimal precision scale).checkDefault text = .ok () := by
  obtain ⟨sign, digits, written, rfl, fits⟩ := Integer.read_eq_ok_iff.mp read
  have magnitude := fits.natAbs_le
  rw [Sign.natAbs_apply] at magnitude
  have small : digitsValue digits < 2 ^ 96 := by
    calc digitsValue digits
        ≤ 2 ^ (bits - 1) := magnitude
      _ < 2 ^ 96 := Nat.pow_lt_pow_right one_lt_two (by omega)
  obtain ⟨number, numberRead, mantissa, numberScale, -⟩ :=
    Decimal.exists_read?_of_isIntegerText written small
  rw [checkDefault_decimal_eq_ok]
  refine ⟨number, Literal.decimal_eq_ok.mpr numberRead, ?_, ?_⟩
  · rw [numberScale]
    exact Nat.zero_le _
  · rw [Decimal.wholeDigits_le_iff, mantissa, numberScale]
    exact magnitude.trans_lt room

/-- A whole number of a column can be read as a double. -/
theorem checkDefault_double_of_integer {bits : Nat} {value : Int}
    (width : type.integerBits? = some bits)
    (read : Integer.read bits text.toList = .ok value) : double.checkDefault text = .ok () := by
  have widest : bits ≤ 128 := by
    cases type <;> cases width <;> decide
  obtain ⟨sign, digits, written, rfl, fits⟩ := Integer.read_eq_ok_iff.mp read
  have magnitude := (fits.widen widest).natAbs_le
  rw [Sign.natAbs_apply] at magnitude
  obtain ⟨number, numberRead, -⟩ := Double.exists_isNearest_of_isIntegerText written magnitude
  exact checkDefault_double_eq_ok.mpr ⟨number, Literal.double_eq_ok_iff.mpr numberRead⟩

/-- A default stays valid when the type of its column is widened. -/
theorem checkDefault_of_wider {narrow wide : ScalarType} (wider : Wider narrow wide)
    {text : String} (valid : narrow.checkDefault text = .ok ()) :
    wide.checkDefault text = .ok () := by
  cases wider with
  | integer narrowBits wideBits le =>
      obtain ⟨value, read⟩ := (checkDefault_integer_eq_ok narrowBits).mp valid
      rw [checkDefault_integer_eq_ok wideBits]
      exact ⟨value, ((Integer.read_eq_ok_iff_of_le le).mp read).1⟩
  | text narrowLength wideLength le =>
      rw [checkDefault_text_eq_ok narrowLength] at valid
      rw [checkDefault_text_eq_ok wideLength]
      exact valid.trans le
  | decimal scale_le whole_le =>
      rw [checkDefault_decimal_eq_ok] at valid ⊢
      obtain ⟨value, literal, fits⟩ := valid
      exact ⟨value, literal, fits.1.trans scale_le, fits.2.trans whole_le⟩
  | integerToDecimal narrowDigits whole_le =>
      obtain ⟨bits, narrowBits, narrow, room⟩ := exists_integerBits? narrowDigits
      obtain ⟨value, read⟩ := (checkDefault_integer_eq_ok narrowBits).mp valid
      apply checkDefault_decimal_of_integer narrow _ read
      exact room.trans_le (Nat.pow_le_pow_right (by decide) whole_le)
  | integerToDouble narrowBits =>
      obtain ⟨value, read⟩ := (checkDefault_integer_eq_ok narrowBits).mp valid
      exact checkDefault_double_of_integer narrowBits read
  | floatToDouble =>
      obtain ⟨value, single⟩ := checkDefault_float_eq_ok.mp valid
      rw [checkDefault_double_eq_ok]
      obtain ⟨read, double, -⟩ := Outcome.bind_eq_ok.mp single
      exact ⟨read, double⟩

/-- The least 64-bit number, with zeros in front, needs all nineteen whole digits. -/
theorem checkDefault_of_wider_least :
    Wider bigInt (decimal 21 2) ∧ bigInt.checkDefault "-0009223372036854775808" = .ok () ∧
      (decimal 21 2).checkDefault "-0009223372036854775808" = .ok () := by
  have wider : Wider bigInt (decimal 21 2) := .integerToDecimal rfl (by decide)
  have valid : bigInt.checkDefault "-0009223372036854775808" = .ok () := rfl
  exact ⟨wider, valid, checkDefault_of_wider wider valid⟩

end ColumnSchema.ScalarType
