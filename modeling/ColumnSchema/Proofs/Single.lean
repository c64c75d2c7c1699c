import ColumnSchema.Literal
import ColumnSchema.Proofs.Binary.Exact
import ColumnSchema.Proofs.Decimal.NumericText
import ColumnSchema.Proofs.Double
import ColumnSchema.Proofs.Integer
import ColumnSchema.Proofs.Outcome

/-!
# Doubles that are singles

A text has a double if it is a numeric literal whose number does not overflow when it is
rounded to double precision. Columns of doubles take exactly these texts. A double is a
single if its number belongs to single precision too, and narrowing it finds that out: it
keeps these doubles and changes all others, by losing digits, by underflow or by overflow.
-/

namespace ColumnSchema

/-- The number is that of a single, with either sign. -/
def IsSingleNumber (number : ℚ) : Prop :=
  ∃ mantissa exponent : ℤ, |mantissa| < 2 ^ 24 ∧ -149 ≤ exponent ∧ exponent ≤ 104 ∧
    number = mantissa * 2 ^ exponent

/-- The text is a numeric literal, and its number lies below the point from which on
rounding to double precision overflows. -/
def HasDouble (text : List Char) : Prop :=
  IsNumericText text ∧
    ∃ number : Scientific, number.Written text ∧ |number.toRat| < 2 ^ 1024 - 2 ^ 970

/-! ## Texts that have a double -/

/-- The sign and the digits of a power are a whole number. -/
theorem IsIntegerText.power {sign : Sign} {digits text : List Char} {mark : Char}
    (written : IsIntegerText sign digits text) (marked : mark = 'e' ∨ mark = 'E') :
    PowerText (mark :: text) ∧
      Scientific.PowerWritten (sign.apply (digitsValue digits)) (mark :: text) := by
  obtain ⟨front, signWritten, rfl⟩ := written.spelled
  have nonempty := written.nonempty
  have row := written.row
  cases signWritten with
  | bare =>
      exact ⟨.present marked (.inl rfl) nonempty row, .up marked (.inl rfl) nonempty row⟩
  | plus =>
      exact ⟨.present marked (.inr (.inl rfl)) nonempty row,
        .up marked (.inr rfl) nonempty row⟩
  | minus =>
      exact ⟨.negative marked nonempty row,
        @Scientific.PowerWritten.down mark [] digits marked (.inl rfl) nonempty row⟩

namespace Double

variable {text back : List Char} {power : Int} {value : Double}

theorem exponent?_eq_of_isIntegerText {sign : Sign} {digits : List Char} {mark : Char}
    (written : IsIntegerText sign digits back) (marked : mark = 'e' ∨ mark = 'E') :
    exponent? (mark :: back) = some (sign.apply (digitsValue digits)) := by
  have isMark := Scientific.isExponentMark_eq_true.mpr marked
  have row := isDigits_eq_true.mpr ⟨written.nonempty, written.row⟩
  rw [exponent?, written.split_eq]
  simp only [isMark, row, Bool.and_self, if_true]

/-- After a numeral a double has the power of a numeric literal. -/
theorem power_of_exponent? (read : exponent? back = some power) :
    PowerText back ∧ Scientific.PowerWritten power back := by
  rw [exponent?.eq_def] at read
  split at read
  next =>
    cases read
    exact ⟨.absent, .unwritten⟩
  next mark text =>
    cases splits : Sign.split text with
    | mk sign digits =>
        simp only [splits, Option.ite_none_right_eq_some, Bool.and_eq_true,
          isDigits_eq_true, Option.some.injEq] at read
        obtain ⟨⟨isMark, nonempty, row⟩, rfl⟩ := read
        have written : IsIntegerText sign digits text :=
          ⟨row, nonempty, Sign.written_of_split splits⟩
        exact written.power (Scientific.isExponentMark_eq_true.mp isMark)

theorem exists_exponent?_of_powerText (written : PowerText back) :
    ∃ power, exponent? back = some power := by
  cases written with
  | absent => exact ⟨0, rfl⟩
  | @present mark front digits marked signed nonempty row =>
      have spelled : ∃ sign, Sign.Written sign front := by
        obtain rfl | rfl | rfl := signed
        · exact ⟨_, .bare⟩
        · exact ⟨_, .plus⟩
        · exact ⟨_, .minus⟩
      obtain ⟨sign, signWritten⟩ := spelled
      exact ⟨_, exponent?_eq_of_isIntegerText ⟨row, nonempty, front, signWritten, rfl⟩ marked⟩

/-- A numeric literal is scanned as the numeral and the power that it writes. -/
theorem scan_and_exponent?_of_written {number : Scientific} (numeric : IsNumericText text)
    (written : number.Written text) :
    ∃ back, Numeral.scan? text = some (number.numeral, back) ∧
      exponent? back = some number.power := by
  obtain ⟨_, _, scanned, power⟩ := numeric.exists_scan?
  obtain ⟨front, back, numeral, powerWritten, rfl⟩ := written
  rw [Numeral.scan?_append numeral powerWritten.ends] at scanned
  cases scanned
  obtain ⟨_, read⟩ := exists_exponent?_of_powerText power
  rw [(power_of_exponent? read).2.unique powerWritten] at read
  exact ⟨_, Numeral.scan?_append numeral powerWritten.ends, read⟩

theorem overflow_double : BinaryFormat.double.overflow = 2 ^ 1024 - 2 ^ 970 := by
  have most : (2 : ℚ) ^ 1024 = 2 ^ 53 * 2 ^ 971 := pow_add 2 53 971
  have half : (2 : ℚ) ^ 971 = 2 ^ 970 * 2 := pow_succ 2 970
  have unit : (2 : ℚ) ^ (971 : ℤ) = 2 ^ 971 := zpow_natCast 2 971
  rw [BinaryFormat.overflow, BinaryFormat.double, unit, most, half]
  generalize (2 : ℚ) ^ 970 = halfUnit
  ring

/-- The texts from which a double is read are those that have one. -/
theorem exists_read?_iff_hasDouble : (∃ value, read? text = some value) ↔ HasDouble text := by
  constructor
  · rintro ⟨value, read⟩
    obtain ⟨⟨numeral, back⟩, scanned, rest⟩ := Option.bind_eq_some_iff.mp read
    obtain ⟨power, powerRead, -⟩ := Option.bind_eq_some_iff.mp rest
    have small := (exists_read?_iff scanned powerRead).mp ⟨value, read⟩
    obtain ⟨front, numeralWritten, rfl⟩ := Numeral.written_of_scan? scanned
    obtain ⟨powerText, powerWritten⟩ := power_of_exponent? powerRead
    exact ⟨⟨numeral, front, back, numeralWritten, powerText, rfl⟩, ⟨numeral, power⟩,
      ⟨front, back, numeralWritten, powerWritten, rfl⟩, overflow_double ▸ small⟩
  · rintro ⟨numeric, number, written, small⟩
    obtain ⟨back, scanned, powerRead⟩ := scan_and_exponent?_of_written numeric written
    exact (exists_read?_iff scanned powerRead).mpr (overflow_double ▸ small)

/-- The double of a text is nearest to the number that the text writes. -/
theorem isNearest_of_written {number : Scientific} (read : read? text = some value)
    (written : number.Written text) : value.IsNearest number.toRat := by
  have numeric := (exists_read?_iff_hasDouble.mp ⟨value, read⟩).1
  obtain ⟨back, scanned, powerRead⟩ := scan_and_exponent?_of_written numeric written
  exact isNearest_of_read? scanned powerRead read

/-! ## Narrowing -/

/-- The sign of a double does not decide whether it is a single. -/
theorem represents_toRat_iff {format : BinaryFormat} :
    format.Represents value.toRat ↔ format.Represents value.magnitude.toRat := by
  rw [toRat]
  cases value.sign with
  | positive => simp [Sign.apply]
  | negative =>
      have opposite : (Sign.negative.apply 1 : ℚ) * value.magnitude.toRat =
          -value.magnitude.toRat := by simp [Sign.apply]
      rw [opposite]
      constructor
      · intro represents
        exact neg_neg value.magnitude.toRat ▸ represents.neg
      · exact BinaryFormat.Represents.neg

theorem proper_single : BinaryFormat.single.Proper where
  precise := by decide
  ordered := by decide

/-- A double narrows to the same number exactly if that belongs to single precision. -/
theorem isSingle_iff : value.isSingle = true ↔ IsSingleNumber value.toRat := by
  have narrowed : value.isSingle = true ↔
      ∃ single, BinaryFormat.single.round? value.magnitude.numerator
        value.magnitude.denominator = some single ∧
          single.toRat = value.magnitude.numerator / value.magnitude.denominator := by
    rw [isSingle, ← Binary.toRat_eq_div]
    cases BinaryFormat.single.round? value.magnitude.numerator
        value.magnitude.denominator with
    | none => simp
    | some single => simp [Binary.sameValue_iff]
  rw [narrowed, BinaryFormat.exists_round?_eq_iff proper_single value.magnitude.denominator_pos,
    ← Binary.toRat_eq_div, ← represents_toRat_iff]
  exact Iff.rfl

end Double

/-! ## Defaults -/

namespace Literal

variable {value : Double}

theorem naturalType_eq_float_iff :
    naturalType value = .float ↔ IsSingleNumber value.toRat := by
  rw [naturalType, ← Double.isSingle_iff]
  cases value.isSingle with
  | true => simp
  | false => simp

theorem naturalType_eq_double_iff :
    naturalType value = .double ↔ ¬ IsSingleNumber value.toRat := by
  rw [naturalType, ← Double.isSingle_iff]
  cases value.isSingle with
  | true => simp
  | false => simp

end Literal

namespace ScalarType

variable {text : String}

theorem checkDefault_double_eq :
    double.checkDefault text =
      match Double.read? text.toList with
      | some _ => .ok ()
      | none => .error (.invalidFloat text) := by
  rw [checkDefault.eq_def, Literal.double]
  cases Double.read? text.toList with
  | none => rfl
  | some value => rfl

theorem checkDefault_float_eq :
    float.checkDefault text =
      match Double.read? text.toList with
      | some value => if value.isSingle then .ok () else .error (.precisionLoss text)
      | none => .error (.invalidFloat text) := by
  rw [checkDefault.eq_def, Literal.single, Literal.double]
  cases Double.read? text.toList with
  | none => rfl
  | some value =>
      simp only [Outcome.ok_bind]
      cases value.isSingle with
      | true => rfl
      | false => rfl

/-- A text that is read is read as the double nearest to its number, and this is of type
`FLOAT` by nature exactly if it is a single. Columns of singles accept the texts of such
doubles, they refuse all other doubles for a loss of precision, and what has no double as
malformed. Columns of doubles accept every text that has a double. -/
theorem checkDefault_by_double (text : String) :
    (∀ value, Literal.double text = .ok value →
        (∀ number : Scientific, number.Written text.toList → value.IsNearest number.toRat) ∧
        (Literal.naturalType value = .float ↔ IsSingleNumber value.toRat) ∧
        (Literal.naturalType value = .double ↔ ¬ IsSingleNumber value.toRat)) ∧
      ((∃ value, Literal.double text = .ok value) ↔ HasDouble text.toList) ∧
      (float.checkDefault text = .ok () ↔
        ∃ value, Literal.double text = .ok value ∧ IsSingleNumber value.toRat) ∧
      (float.checkDefault text = .error (.precisionLoss text) ↔
        ∃ value, Literal.double text = .ok value ∧ ¬ IsSingleNumber value.toRat) ∧
      (float.checkDefault text = .error (.invalidFloat text) ↔ ¬ HasDouble text.toList) ∧
      (double.checkDefault text = .ok () ↔ HasDouble text.toList) := by
  rw [checkDefault_float_eq, checkDefault_double_eq, Literal.double,
    ← Double.exists_read?_iff_hasDouble]
  cases read : Double.read? text.toList with
  | none => simp
  | some value =>
      refine ⟨?_, by simp, ?_⟩
      · rintro _ ⟨⟩
        exact ⟨fun number => Double.isNearest_of_written read,
          Literal.naturalType_eq_float_iff, Literal.naturalType_eq_double_iff⟩
      · simp only [Except.ok.injEq, exists_eq_left', ← Double.isSingle_iff]
        cases value.isSingle with
        | true => simp
        | false => simp

/-- The first whole number that is no single. -/
theorem checkDefault_by_double_odd :
    Literal.double "16777217" = .ok ⟨.positive, ⟨16777217 * 2 ^ 28, -28⟩⟩ ∧
      ¬ IsSingleNumber (Double.toRat ⟨.positive, ⟨16777217 * 2 ^ 28, -28⟩⟩) ∧
      float.checkDefault "16777217" = .error (.precisionLoss "16777217") := by
  have read : Literal.double "16777217" = .ok ⟨.positive, ⟨16777217 * 2 ^ 28, -28⟩⟩ := rfl
  have defaults := checkDefault_by_double "16777217"
  have noSingle := ((defaults.1 _ read).2.2).mp rfl
  exact ⟨read, noSingle, defaults.2.2.2.1.mpr ⟨_, read, noSingle⟩⟩

end ScalarType

end ColumnSchema
