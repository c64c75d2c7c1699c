import ColumnSchema.Number.Numeral
import ColumnSchema.Proofs.Numeral
import Mathlib.Algebra.Order.Ring.Int
import Mathlib.Tactic.Linarith

/-!
# Texts of whole numbers

A whole number is written as a sign and a row of digits. The reader of a width
accepts such a text exactly if its number has the width: magnitudes only grow while
digits are read, so a number that fits in the end has fitted all along. A text is out
of range if some front of it is a number that the width does not hold, whatever
follows, and it is malformed if it is neither that nor a number.
-/

namespace ColumnSchema

/-- The text is a sign and a row of one or more digits. -/
structure IsIntegerText (sign : Sign) (digits text : List Char) : Prop where
  row : Digits digits
  nonempty : digits ≠ []
  spelled : ∃ front, sign.Written front ∧ text = front ++ digits

/-- Digits are no signs. -/
theorem Digits.absent {digits : List Char} (row : Digits digits) : Sign.Absent digits :=
  fun c member => Sign.ne_of_isDigit (row c (List.mem_of_mem_head? member))

namespace IsIntegerText

variable {sign : Sign} {digits text : List Char}

/-- The sign is split off whatever follows the digits. -/
theorem split_append (written : IsIntegerText sign digits text) (rest : List Char) :
    Sign.split (text ++ rest) = (sign, digits ++ rest) := by
  obtain ⟨front, signWritten, rfl⟩ := written.spelled
  rw [List.append_assoc]
  apply Sign.split_append signWritten
  cases digits with
  | nil => exact absurd rfl written.nonempty
  | cons => exact written.row.absent

theorem split_eq (written : IsIntegerText sign digits text) :
    Sign.split text = (sign, digits) := by
  simpa only [List.append_nil] using written.split_append []

/-- A whole number is a numeral without a point. -/
theorem numeralWritten (written : IsIntegerText sign digits text) :
    Numeral.Written { sign, whole := digits, fraction := [] } text where
  whole := written.row
  fraction := nofun
  nonempty := .inl written.nonempty
  spelled := by
    obtain ⟨front, signWritten, textEq⟩ := written.spelled
    exact ⟨front, [], signWritten, .pointless, by rw [textEq, List.append_nil]⟩

theorem scan?_eq (written : IsIntegerText sign digits text) :
    Numeral.scan? text = some ({ sign, whole := digits, fraction := [] }, []) :=
  written.numeralWritten.scan?_eq

end IsIntegerText

namespace Integer

theorem fits_iff {bits : Nat} {value : Int} :
    Fits bits value ↔ -2 ^ (bits - 1) ≤ value ∧ value < 2 ^ (bits - 1) := Iff.rfl

/-- The range of a word by its least and its greatest number. -/
theorem fits_iff_le {bits : Nat} {value : Int} :
    Fits bits value ↔ -2 ^ (bits - 1) ≤ value ∧ value ≤ 2 ^ (bits - 1) - 1 := by
  rw [fits_iff, Int.le_sub_one_iff]

theorem fits_zero (bits : Nat) : Fits bits 0 := by
  rw [fits_iff]
  have positive : (0 : Int) < 2 ^ (bits - 1) := by positivity
  constructor
  · linarith
  · exact positive

/-- Before a digit is read there is room. -/
theorem fits_apply_nil (bits : Nat) (sign : Sign) :
    Fits bits (sign.apply (digitsValue [])) := by
  cases sign <;> exact fits_zero bits

/-- A wider word holds what a narrower one holds. -/
theorem Fits.widen {bits bits' : Nat} {value : Int} (fits : Fits bits value)
    (wider : bits ≤ bits') : Fits bits' value := by
  rw [fits_iff] at fits ⊢
  have range : (2 : Int) ^ (bits - 1) ≤ 2 ^ (bits' - 1) :=
    pow_le_pow_right₀ (by decide) (Nat.sub_le_sub_right wider 1)
  constructor
  · linarith
  · linarith

/-- A word that holds a number holds those of smaller magnitude with its sign. -/
theorem Fits.shrink {bits magnitude smaller : Nat} {sign : Sign}
    (fits : Fits bits (sign.apply magnitude)) (le : smaller ≤ magnitude) :
    Fits bits (sign.apply smaller) := by
  have zero := fits_iff.mp (fits_zero bits)
  rw [fits_iff] at fits ⊢
  cases sign with
  | positive =>
      simp only [Sign.apply] at fits ⊢
      constructor
      · linarith
      · linarith
  | negative =>
      simp only [Sign.apply] at fits ⊢
      constructor
      · linarith
      · linarith

/-- The magnitude of a number that has a width. -/
theorem Fits.natAbs_le {bits : Nat} {value : Int} (fits : Fits bits value) :
    value.natAbs ≤ 2 ^ (bits - 1) := by
  rw [fits_iff] at fits
  have cast : ((2 ^ (bits - 1) : Nat) : Int) = 2 ^ (bits - 1) := by norm_cast
  omega

/-- After a row of digits that fits, the scanner yields the number of the whole row
exactly if only digits are left and that number fits. -/
theorem scan_eq_ok_iff {bits : Nat} {sign : Sign} {row text : List Char} {value : Int}
    (fits : Fits bits (sign.apply (digitsValue row))) :
    scan bits sign (digitsValue row) text = .ok value ↔
      Digits text ∧ value = sign.apply (digitsValue (row ++ text)) ∧ Fits bits value := by
  induction text generalizing row with
  | nil =>
      rw [scan, List.append_nil]
      constructor
      · intro accepted
        cases accepted
        exact ⟨nofun, rfl, fits⟩
      · rintro ⟨-, valueEq, -⟩
        rw [valueEq]
  | cons c rest ih =>
      have whole : row ++ c :: rest = (row ++ [c]) ++ rest := by simp
      rw [scan, ofDigitChars_digit, whole]
      split
      next digit =>
        dsimp only
        split
        next room =>
          rw [ih room]
          have rows : Digits (c :: rest) ↔ Digits rest := by
            simp [Digits, digit]
          rw [rows]
        next full =>
          constructor
          · intro accepted
            cases accepted
          · rintro ⟨-, valueEq, fits⟩
            rw [valueEq] at fits
            exact absurd (fits.shrink (digitsValue_le_append _ rest)) full
      next noDigit =>
        constructor
        · intro accepted
          cases accepted
        · rintro ⟨row, -⟩
          exact absurd (row c List.mem_cons_self) noDigit

/-- The reader of a width accepts the texts of the numbers that have the width. -/
theorem read_eq_ok_iff {bits : Nat} {text : List Char} {value : Int} :
    read bits text = .ok value ↔
      ∃ sign digits, IsIntegerText sign digits text ∧
        value = sign.apply (digitsValue digits) ∧ Fits bits value := by
  constructor
  · intro accepted
    rw [read.eq_def] at accepted
    split at accepted
    next => cases accepted
    next sign digits nonempty splits =>
      obtain ⟨row, valueEq, fits⟩ := (scan_eq_ok_iff (fits_apply_nil bits sign)).mp accepted
      obtain ⟨front, signWritten, textEq⟩ := Sign.written_of_split splits
      exact ⟨sign, digits, ⟨row, nonempty, front, signWritten, textEq⟩, valueEq, fits⟩
  · intro ⟨sign, digits, written, valueEq, fits⟩
    rw [read, written.split_eq]
    split
    next empty =>
      cases empty
      exact absurd rfl written.nonempty
    next same =>
      cases same
      exact (scan_eq_ok_iff (fits_apply_nil bits sign)).mpr ⟨written.row, valueEq, fits⟩

/-! ## What the reader refuses -/

/-- The text is a whole number of any size. -/
def Denotes (text : List Char) (value : Int) : Prop :=
  ∃ sign digits, IsIntegerText sign digits text ∧ value = sign.apply (digitsValue digits)

/-- A text denotes one number at most. -/
theorem Denotes.unique {text : List Char} {left right : Int} (denotesLeft : Denotes text left)
    (denotesRight : Denotes text right) : left = right := by
  obtain ⟨sign, digits, written, rfl⟩ := denotesLeft
  obtain ⟨sign', digits', written', rfl⟩ := denotesRight
  cases written.split_eq.symm.trans written'.split_eq
  rfl

/-- The text starts with a whole number that has not the width. -/
def Overflows (bits : Nat) (text : List Char) : Prop :=
  ∃ front value, front <+: text ∧ Denotes front value ∧ ¬ Fits bits value

theorem read_eq_ok_iff_denotes {bits : Nat} {text : List Char} {value : Int} :
    read bits text = .ok value ↔ Denotes text value ∧ Fits bits value := by
  rw [read_eq_ok_iff, Denotes]
  constructor
  · rintro ⟨sign, digits, written, valueEq, fits⟩
    exact ⟨⟨sign, digits, written, valueEq⟩, fits⟩
  · rintro ⟨⟨sign, digits, written, valueEq⟩, fits⟩
    exact ⟨sign, digits, written, valueEq, fits⟩

/-- After a row of digits that fits, the scanner leaves the range exactly if more digits
follow with which the number does not fit. -/
theorem scan_eq_outOfRange_iff {bits : Nat} {sign : Sign} {row text : List Char}
    (fits : Fits bits (sign.apply (digitsValue row))) :
    scan bits sign (digitsValue row) text = .error .outOfRange ↔
      ∃ digits, digits <+: text ∧ Digits digits ∧
        ¬ Fits bits (sign.apply (digitsValue (row ++ digits))) := by
  induction text generalizing row with
  | nil =>
      rw [scan]
      constructor
      · intro refused
        cases refused
      · rintro ⟨digits, starts, -, exceeds⟩
        rw [List.prefix_nil.mp starts, List.append_nil] at exceeds
        exact absurd fits exceeds
  | cons c rest ih =>
      rw [scan, ofDigitChars_digit]
      split
      next digit =>
        dsimp only
        split
        next room =>
          rw [ih room]
          constructor
          · rintro ⟨digits, starts, isRow, exceeds⟩
            refine ⟨c :: digits, ?_, List.forall_mem_cons.mpr ⟨digit, isRow⟩, ?_⟩
            · exact List.cons_prefix_cons.mpr ⟨rfl, starts⟩
            · rwa [List.append_cons]
          · rintro ⟨digits, starts, isRow, exceeds⟩
            obtain rfl | ⟨others, rfl, startsRest⟩ := List.prefix_cons_iff.mp starts
            · rw [List.append_nil] at exceeds
              exact absurd fits exceeds
            · rw [List.append_cons] at exceeds
              exact ⟨others, startsRest, (List.forall_mem_cons.mp isRow).2, exceeds⟩
        next full =>
          refine iff_of_true rfl ⟨[c], ?_, ?_, full⟩
          · exact List.cons_prefix_cons.mpr ⟨rfl, List.nil_prefix⟩
          · exact List.forall_mem_singleton.mpr digit
      next noDigit =>
        constructor
        · intro refused
          cases refused
        · rintro ⟨digits, starts, isRow, exceeds⟩
          obtain rfl | ⟨others, rfl, -⟩ := List.prefix_cons_iff.mp starts
          · rw [List.append_nil] at exceeds
            exact absurd fits exceeds
          · exact absurd (isRow c List.mem_cons_self) noDigit

/-- The reader of a width leaves the range on the texts that start with a number which
the width does not hold. -/
theorem read_eq_outOfRange_iff {bits : Nat} {text : List Char} :
    read bits text = .error .outOfRange ↔ Overflows bits text := by
  constructor
  · intro refused
    rw [read.eq_def] at refused
    split at refused
    next => cases refused
    next sign digits nonempty splits =>
      obtain ⟨row, starts, isRow, exceeds⟩ :=
        (scan_eq_outOfRange_iff (fits_apply_nil bits sign)).mp refused
      obtain ⟨front, signWritten, rfl⟩ := Sign.written_of_split splits
      have someDigits : row ≠ [] := by
        rintro rfl
        exact exceeds (fits_apply_nil bits sign)
      exact ⟨front ++ row, _, (List.prefix_append_right_inj front).mpr starts,
        ⟨sign, row, ⟨isRow, someDigits, front, signWritten, rfl⟩, rfl⟩, exceeds⟩
  · rintro ⟨front, value, ⟨rest, rfl⟩, ⟨sign, digits, written, rfl⟩, exceeds⟩
    rw [read, written.split_append]
    split
    next empty =>
      exact absurd (List.append_eq_nil_iff.mp (Prod.ext_iff.mp empty).2).1 written.nonempty
    next same =>
      cases same
      exact (scan_eq_outOfRange_iff (fits_apply_nil bits sign)).mpr
        ⟨digits, List.prefix_append digits rest, written.row, exceeds⟩

/-- All other texts are malformed, unless they are numbers. -/
theorem read_eq_malformed_iff {bits : Nat} {text : List Char} :
    read bits text = .error .malformed ↔
      (¬ ∃ value, Denotes text value) ∧ ¬ Overflows bits text := by
  rw [← read_eq_outOfRange_iff]
  constructor
  · intro malformed
    rw [malformed]
    refine ⟨?_, by simp⟩
    rintro ⟨value, denotes⟩
    by_cases fits : Fits bits value
    · cases malformed.symm.trans (read_eq_ok_iff_denotes.mpr ⟨denotes, fits⟩)
    · have exceeds : Overflows bits text :=
        ⟨text, value, List.prefix_refl text, denotes, fits⟩
      cases malformed.symm.trans (read_eq_outOfRange_iff.mpr exceeds)
  · rintro ⟨notNumber, inRange⟩
    cases outcome : read bits text with
    | ok value => exact absurd ⟨value, (read_eq_ok_iff_denotes.mp outcome).1⟩ notNumber
    | error fault =>
        cases fault with
        | malformed => rfl
        | outOfRange => exact absurd outcome inRange

/-! ## Printed numbers -/

/-- The digits of a number are a text of it, with a sign in front. -/
theorem isIntegerText_decimalDigits {sign : Sign} {front : List Char}
    (written : sign.Written front) (magnitude : Nat) :
    IsIntegerText sign (decimalDigits magnitude) (front ++ decimalDigits magnitude) where
  row := digits_decimalDigits magnitude
  nonempty := Nat.toDigits_ne_nil
  spelled := ⟨front, written, rfl⟩

/-- A number is denoted by its decimal form. -/
theorem denotes_toString (value : Int) : Denotes (toString value).toList value := by
  cases value with
  | ofNat magnitude =>
      have printed : (toString (Int.ofNat magnitude)).toList = [] ++ decimalDigits magnitude :=
        Nat.toList_repr
      rw [printed]
      refine ⟨.positive, _, isIntegerText_decimalDigits .bare magnitude, ?_⟩
      rw [digitsValue_decimalDigits]
      rfl
  | negSucc magnitude =>
      have printed : (toString (Int.negSucc magnitude)).toList =
          ['-'] ++ decimalDigits (magnitude + 1) :=
        (String.toList_append ..).trans (congrArg _ Nat.toList_repr)
      rw [printed]
      refine ⟨.negative, _, isIntegerText_decimalDigits .minus (magnitude + 1), ?_⟩
      rw [digitsValue_decimalDigits]
      rfl

/-- A narrower reader accepts the numbers of its width that a wider one accepts. -/
theorem read_eq_ok_iff_of_le {bits bits' : Nat} {text : List Char} {value : Int}
    (wider : bits ≤ bits') :
    read bits text = .ok value ↔ read bits' text = .ok value ∧ Fits bits value := by
  rw [read_eq_ok_iff_denotes, read_eq_ok_iff_denotes]
  constructor
  · rintro ⟨denotes, fits⟩
    exact ⟨⟨denotes, fits.widen wider⟩, fits⟩
  · rintro ⟨⟨denotes, -⟩, fits⟩
    exact ⟨denotes, fits⟩

end Integer

end ColumnSchema
