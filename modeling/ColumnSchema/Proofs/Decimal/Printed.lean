import ColumnSchema.Proofs.Decimal.Exactness

/-!
# Decimals printed and read again

The text of a decimal shows all its digits, so there is room for them when it is read
again, and nothing is rounded however the decimal came about. Only the sign of a zero is
not kept. Reading and printing over and over changes a text no more after the second time.
-/

namespace ColumnSchema

namespace Decimal

/-! ## The text of a decimal -/

/-- The digits that the text of a decimal shows, with its sign. -/
def shownNumeral (value : Decimal) : Numeral where
  sign := value.sign
  whole := value.wholeText
  fraction := value.fractionText

theorem digits_shownNumeral (value : Decimal) :
    Digits (value.shownNumeral.whole ++ value.shownNumeral.fraction) := by
  rw [shownNumeral, wholeText_append_fractionText]
  exact digits_leftpad (value.scale + 1) value.mantissa

/-- The digits denote the mantissa, whatever zeros are in front of them. -/
theorem significand_shownNumeral (value : Decimal) :
    value.shownNumeral.significand = value.mantissa := by
  rw [Numeral.significand, shownNumeral, wholeText_append_fractionText]
  exact digitsValue_leftpad (value.scale + 1) value.mantissa

/-- A digit stands before the point. -/
theorem wholeText_ne_nil (value : Decimal) : value.wholeText ≠ [] := by
  have more : value.scale < value.paddedDigits.length := by
    rw [paddedDigits, List.length_leftpad]
    omega
  apply List.ne_nil_of_length_pos
  rw [wholeText, List.length_take]
  omega

theorem fractionText_of_scale_eq_zero {value : Decimal} (none : value.scale = 0) :
    value.fractionText = [] :=
  List.eq_nil_of_length_eq_zero (value.length_fractionText.trans none)

theorem toText_written (value : Decimal) : value.shownNumeral.Written value.toText where
  whole := value.digits_shownNumeral.of_append.1
  fraction := value.digits_shownNumeral.of_append.2
  nonempty := .inl value.wholeText_ne_nil
  spelled := by
    have point : Numeral.FractionWritten value.fractionText
        (if value.scale = 0 then [] else '.' :: value.fractionText) := by
      split
      next none =>
        rw [fractionText_of_scale_eq_zero none]
        exact .pointless
      next => exact .pointed value.fractionText
    rw [toText, shownNumeral, List.append_assoc]
    cases value.sign with
    | positive => exact ⟨[], _, .bare, point, rfl⟩
    | negative => exact ⟨['-'], _, .minus, point, rfl⟩

/-! ## Reading the text again -/

/-- The text of a decimal is read as that decimal, but for the sign of a zero. -/
theorem read?_toText (value : Decimal) : read? value.toText = some value.unsignZero := by
  have room : value.shownNumeral.significand < 2 ^ 96 := by
    rw [significand_shownNumeral]
    exact value.mantissa_lt
  have places : value.shownNumeral.fraction.length ≤ 28 := by
    rw [shownNumeral, length_fractionText]
    exact value.scale_le
  have made : ofParts? value.shownNumeral.sign value.shownNumeral.significand
      value.shownNumeral.fraction.length = some value := by
    rw [significand_shownNumeral, shownNumeral, length_fractionText]
    exact ofParts?_eq_some.mpr ⟨rfl, rfl, rfl⟩
  rw [read?_eq_ofNumeral? value.toText_written, ofNumeral?_eq_of_room room places, made,
    Option.map_some]

theorem sign_unsignZero {value : Decimal} (nonzero : value.mantissa ≠ 0) :
    value.unsignZero.sign = value.sign := by
  rw [unsignZero, if_neg nonzero]

@[simp] theorem precision_unsignZero (value : Decimal) :
    value.unsignZero.precision = value.precision := by
  rw [precision, mantissa_unsignZero, precision]

/-- Columns do not look at the sign. -/
theorem fits_unsignZero {value : Decimal} {precision scale : Nat} :
    value.unsignZero.Fits precision scale ↔ value.Fits precision scale := by
  simp only [Fits, wholeDigits, mantissa_unsignZero, scale_unsignZero, precision_unsignZero]

@[simp] theorem unsignZero_unsignZero (value : Decimal) :
    value.unsignZero.unsignZero = value.unsignZero := by
  by_cases zero : value.mantissa = 0
  · simp [unsignZero, zero]
  · simp [unsignZero, zero]

end Decimal

namespace Literal

variable {text : String} {value : Decimal}

/-- What a text is printed as when it is read as a decimal. -/
def reprint (text : String) : Except Rejection String := do
  let value ← decimal text
  return String.ofList value.toText

/-- What a text becomes when it is read and printed a number of times. -/
def reprintTimes : Nat → String → Except Rejection String
  | 0, text => .ok text
  | times + 1, text => reprintTimes times text >>= reprint

theorem decimal_toText (value : Decimal) :
    decimal (String.ofList value.toText) = .ok value.unsignZero := by
  rw [decimal_eq_ok, String.toList_ofList, Decimal.read?_toText]

theorem reprint_of_decimal (accepted : decimal text = .ok value) :
    reprint text = .ok (String.ofList value.toText) := by
  rw [reprint, accepted]
  rfl

theorem checkDigits_unsignZero (value : Decimal) (precision scale : Nat) :
    checkDigits value.unsignZero precision scale = checkDigits value precision scale := by
  simp only [checkDigits, Decimal.fits_unsignZero, Decimal.precision_unsignZero,
    Decimal.scale_unsignZero]

/-- The second text is printed again and again. -/
theorem reprintTimes_of_decimal (accepted : decimal text = .ok value) (times : Nat) :
    reprintTimes (times + 2) text = .ok (String.ofList value.unsignZero.toText) := by
  induction times with
  | zero =>
      rw [reprintTimes, reprintTimes, reprintTimes, Outcome.ok_bind,
        reprint_of_decimal accepted, Outcome.ok_bind,
        reprint_of_decimal (decimal_toText value)]
  | succ times ih =>
      rw [reprintTimes, ih, Outcome.ok_bind, reprint_of_decimal (decimal_toText _),
        Decimal.unsignZero_unsignZero]

/-- The text of a decimal that was read from some text is accepted again, as a decimal with
the same digits, and with the same sign unless it is zero. Every column takes either of
them or refuses both alike, and from the second time on the printed text stays the same. -/
theorem decimal_round_trip (accepted : decimal text = .ok value) :
    ∃ again, decimal (String.ofList value.toText) = .ok again ∧
      again.mantissa = value.mantissa ∧ again.scale = value.scale ∧
      again.precision = value.precision ∧ (value.mantissa ≠ 0 → again.sign = value.sign) ∧
      (∀ precision scale,
        checkDigits again precision scale = checkDigits value precision scale) ∧
      ∀ times, 2 ≤ times → reprintTimes times text = .ok (String.ofList again.toText) := by
  refine ⟨value.unsignZero, decimal_toText value, value.mantissa_unsignZero,
    value.scale_unsignZero, value.precision_unsignZero, Decimal.sign_unsignZero,
    checkDigits_unsignZero value, ?_⟩
  intro times twice
  obtain ⟨more, rfl⟩ := Nat.exists_eq_add_of_le' twice
  exact reprintTimes_of_decimal accepted more

/-- A mantissa of 96 bits that came about by rounding, and a negative number that became
zero by its power of ten and is shown with its sign once. -/
theorem decimal_round_trip_rounded :
    (∃ value again, decimal "79228162514264337593543950334.5" = .ok value ∧
        String.ofList value.toText = "79228162514264337593543950335" ∧
        decimal "79228162514264337593543950335" = .ok again ∧
        again.mantissa = 2 ^ 96 - 1 ∧ again.sign = .positive) ∧
      ∃ value, decimal "-0.4e-28" = .ok value ∧
        String.ofList value.toText = "-0.0000000000000000000000000000" ∧
        reprintTimes 9 "-0.4e-28" = .ok "0.0000000000000000000000000000" := by
  have full : decimal "79228162514264337593543950334.5" =
      .ok ⟨.positive, 2 ^ 96 - 1, 0, by decide, by decide⟩ := rfl
  have vanished : decimal "-0.4e-28" = .ok ⟨.negative, 0, 28, by decide, by decide⟩ := rfl
  constructor
  · obtain ⟨again, read, mantissa, -, -, sign, -⟩ := decimal_round_trip full
    exact ⟨_, again, full, rfl, read, mantissa, sign (by decide)⟩
  · obtain ⟨again, read, -, -, -, -, -, stable⟩ := decimal_round_trip vanished
    have unsigned : decimal "-0.0000000000000000000000000000" =
        .ok ⟨.positive, 0, 28, by decide, by decide⟩ := rfl
    cases read.symm.trans unsigned
    exact ⟨_, vanished, rfl, stable 9 (by decide)⟩

end Literal

end ColumnSchema
