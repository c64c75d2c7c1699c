import ColumnSchema.Proofs.Widening

/-!
# Literals of whole numbers

A text is a literal of a column of whole numbers exactly if it is a whole number in the
range of the column, and its decimal form is one again. For a column of at most 64 bits a
text is read as a number of 64 bits first, so a longer number is malformed and not out of
range. For one of 128 bits it is the other way round: whatever starts with a longer number
is out of range.
-/

namespace ColumnSchema

namespace Literal

variable {text : String} {type : ScalarType} {bits : Nat}

theorem largeInteger_eq_outOfRange :
    largeInteger text = .error (.largeIntOutOfRange text) ↔
      Integer.Overflows 128 text.toList := by
  rw [← Integer.read_eq_outOfRange_iff, largeInteger]
  cases Integer.read 128 text.toList with
  | ok value => simp
  | error fault => cases fault <;> simp

theorem largeInteger_eq_invalid :
    largeInteger text = .error (.invalidLargeInt text) ↔
      (¬ ∃ value, Integer.Denotes text.toList value) ∧
        ¬ Integer.Overflows 128 text.toList := by
  rw [← Integer.read_eq_malformed_iff, largeInteger]
  cases Integer.read 128 text.toList with
  | ok value => simp
  | error fault => cases fault <;> simp

/-- A text is a number of 128 bits exactly if it is a whole number in their range. It is out
of range exactly if some front of it is a whole number outside of the range, whatever
follows, and no literal in all other cases. The decimal form of a literal is a literal with
the same value. -/
theorem largeInteger_by_front (text : String) :
    (∀ value, largeInteger text = .ok value ↔
        Integer.Denotes text.toList value ∧ -2 ^ 127 ≤ value ∧ value ≤ 2 ^ 127 - 1) ∧
      (largeInteger text = .error (.largeIntOutOfRange text) ↔
        ∃ front value, front <+: text.toList ∧ Integer.Denotes front value ∧
          ¬ (-2 ^ 127 ≤ value ∧ value ≤ 2 ^ 127 - 1)) ∧
      (largeInteger text = .error (.invalidLargeInt text) ↔
        (¬ ∃ value, Integer.Denotes text.toList value) ∧
          ¬ ∃ front value, front <+: text.toList ∧ Integer.Denotes front value ∧
            ¬ (-2 ^ 127 ≤ value ∧ value ≤ 2 ^ 127 - 1)) ∧
      ∀ value, largeInteger text = .ok value → largeInteger (toString value) = .ok value := by
  have accepts (text : String) (value : Int) : largeInteger text = .ok value ↔
      Integer.Denotes text.toList value ∧ Integer.Fits 128 value :=
    largeInteger_eq_ok_iff.trans Integer.read_eq_ok_iff_denotes
  have range (value : Int) :
      -2 ^ 127 ≤ value ∧ value ≤ 2 ^ 127 - 1 ↔ Integer.Fits 128 value :=
    (@Integer.fits_iff_le 128 value).symm
  simp only [range]
  refine ⟨accepts text, largeInteger_eq_outOfRange, largeInteger_eq_invalid, ?_⟩
  intro value accepted
  exact (accepts _ value).mpr ⟨Integer.denotes_toString value, ((accepts _ value).mp accepted).2⟩

/-- The least number, with zeros in front, and a text that starts with the first number
above the range. -/
theorem largeInteger_by_front_bounds :
    largeInteger "-000170141183460469231731687303715884105728" =
        .ok (-170141183460469231731687303715884105728) ∧
      largeInteger "-170141183460469231731687303715884105728" =
        .ok (-170141183460469231731687303715884105728) ∧
      largeInteger "170141183460469231731687303715884105728e" =
        .error (.largeIntOutOfRange "170141183460469231731687303715884105728e") := by
  have least : largeInteger "-000170141183460469231731687303715884105728" =
      .ok (-170141183460469231731687303715884105728) := rfl
  refine ⟨least, (largeInteger_by_front _).2.2.2 _ least, ?_⟩
  have first := Integer.denotes_toString 170141183460469231731687303715884105728
  exact (largeInteger_by_front _).2.1.mpr ⟨_, _, ⟨['e'], rfl⟩, first, by decide⟩

/-- A text that is not a number of 64 bits is malformed for every width. -/
theorem integer_eq_invalid :
    integer text type = .error (.invalidNumber text) ↔
      ¬ ∃ value, Integer.Denotes text.toList value ∧ Integer.Fits 64 value := by
  simp only [← Integer.read_eq_ok_iff_denotes]
  rw [integer]
  cases Integer.read 64 text.toList with
  | error fault => simp
  | ok value =>
      dsimp only
      split
      next => simp
      next => simp

/-- A number of 64 bits is out of range for the widths that do not hold it. -/
theorem integer_eq_outOfRange (width : type.primitive.wordBits? = some bits) :
    integer text type = .error (.numberOutOfRange text type) ↔
      ∃ value, Integer.Denotes text.toList value ∧ Integer.Fits 64 value ∧
        ¬ Integer.Fits bits value := by
  simp only [← and_assoc, ← Integer.read_eq_ok_iff_denotes]
  rw [integer]
  cases Integer.read 64 text.toList with
  | error fault => simp
  | ok value => simp [hasWidth, width]

end Literal

namespace ScalarType

open Integer (Denotes)

variable {type : ScalarType} {text : String} {bits : Nat}

/-- The columns of at most 64 bits read their literals alike. -/
theorem wordBits?_eq_some (width : type.integerBits? = some bits) (word : bits ≤ 64) :
    type.primitive.wordBits? = some bits := by
  cases type with
  | tinyInt | smallInt | int | bigInt => exact width
  | largeInt =>
      cases width
      exact absurd word (by decide)
  | _ => cases width

/-- They refuse a default as the reader of the literal refuses it. -/
theorem checkDefault_integer_eq_error {rejection : Rejection}
    (width : type.integerBits? = some bits) (word : bits ≤ 64) :
    type.checkDefault text = .error rejection ↔
      Literal.integer text type = .error rejection := by
  cases type with
  | tinyInt | smallInt | int | bigInt => exact Outcome.discard_eq_error
  | largeInt =>
      cases width
      exact absurd word (by decide)
  | _ => cases width

/-- A column of at most 64 bits takes the whole numbers in the range of its width, as
literals and as defaults. It refuses the other numbers of 64 bits as out of range and every
other text, longer numbers included, as malformed. The decimal form of a number that it
takes is taken with the same value. -/
theorem checkDefault_by_width (width : type.integerBits? = some bits) (word : bits ≤ 64)
    (text : String) :
    (∀ value, Literal.integer text type = .ok value ↔
        Denotes text.toList value ∧ -2 ^ (bits - 1) ≤ value ∧ value ≤ 2 ^ (bits - 1) - 1) ∧
      (type.checkDefault text = .ok () ↔ ∃ value,
        Denotes text.toList value ∧ -2 ^ (bits - 1) ≤ value ∧ value ≤ 2 ^ (bits - 1) - 1) ∧
      (Literal.integer text type = .error (.numberOutOfRange text type) ↔ ∃ value,
        Denotes text.toList value ∧ (-2 ^ 63 ≤ value ∧ value ≤ 2 ^ 63 - 1) ∧
          ¬ (-2 ^ (bits - 1) ≤ value ∧ value ≤ 2 ^ (bits - 1) - 1)) ∧
      (Literal.integer text type = .error (.invalidNumber text) ↔ ¬ ∃ value,
        Denotes text.toList value ∧ -2 ^ 63 ≤ value ∧ value ≤ 2 ^ 63 - 1) ∧
      (∀ rejection, type.checkDefault text = .error rejection ↔
        Literal.integer text type = .error rejection) ∧
      ∀ value, Literal.integer text type = .ok value →
        Literal.integer (toString value) type = .ok value ∧
          type.checkDefault (toString value) = .ok () := by
  have reads := wordBits?_eq_some width word
  have accepts (text : String) (value : Int) : Literal.integer text type = .ok value ↔
      Denotes text.toList value ∧ Integer.Fits bits value :=
    (Literal.integer_eq_ok_iff reads).trans Integer.read_eq_ok_iff_denotes
  have takes (text : String) : type.checkDefault text = .ok () ↔ ∃ value,
      Denotes text.toList value ∧ Integer.Fits bits value :=
    (checkDefault_integer_eq_ok width).trans
      (exists_congr fun _ => Integer.read_eq_ok_iff_denotes)
  have longest (value : Int) : -2 ^ 63 ≤ value ∧ value ≤ 2 ^ 63 - 1 ↔ Integer.Fits 64 value :=
    (@Integer.fits_iff_le 64 value).symm
  simp only [longest, ← Integer.fits_iff_le]
  refine ⟨accepts text, takes text, Literal.integer_eq_outOfRange reads,
    Literal.integer_eq_invalid, fun _ => checkDefault_integer_eq_error width word, ?_⟩
  intro value accepted
  have printed : Denotes (toString value).toList value ∧ Integer.Fits bits value :=
    ⟨Integer.denotes_toString value, ((accepts _ value).mp accepted).2⟩
  exact ⟨(accepts _ value).mpr printed, (takes _).mpr ⟨value, printed⟩⟩

/-- The least number of 8 bits, with zeros in front, a number that needs 9 bits and one
that needs 65. -/
theorem checkDefault_by_width_tinyInt :
    Literal.integer "-0000128" tinyInt = .ok (-128) ∧ tinyInt.checkDefault "-128" = .ok () ∧
      tinyInt.checkDefault "+128" = .error (.numberOutOfRange "+128" tinyInt) ∧
      tinyInt.checkDefault "9223372036854775808" =
        .error (.invalidNumber "9223372036854775808") := by
  have byWidth := @checkDefault_by_width tinyInt 8 rfl (by decide)
  have least : Literal.integer "-0000128" tinyInt = .ok (-128) := rfl
  have next : Denotes "+128".toList 128 :=
    ⟨.positive, ['1', '2', '8'], ⟨by decide, by decide, ['+'], .plus, rfl⟩, rfl⟩
  have longer : Literal.integer "9223372036854775808" tinyInt =
      .error (.invalidNumber "9223372036854775808") := rfl
  obtain ⟨-, -, outOfRange, -, refuses, -⟩ := byWidth "+128"
  refine ⟨least, ((byWidth _).2.2.2.2.2 _ least).2, (refuses _).mpr (outOfRange.mpr ?_),
    ((byWidth _).2.2.2.2.1 _).mpr longer⟩
  exact ⟨128, next, by decide, by decide⟩

end ScalarType

end ColumnSchema
