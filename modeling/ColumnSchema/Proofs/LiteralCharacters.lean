import ColumnSchema.Proofs.Calendar.Written
import ColumnSchema.Proofs.Readers
import ColumnSchema.Proofs.Single

/-!
# The characters of literals

A literal that is neither text nor a sketch consists of digits, blanks, signs and a
few marks. What a reader accepts is written by a grammar, and every part of the grammar
is made of these characters. A separator of digits is none of them, so it makes no
difference whether texts that have one are refused before they are read.
-/

namespace ColumnSchema

/-- A character that numbers, dates and times are written with. -/
def isLiteralCharacter (c : Char) : Bool :=
  c.isDigit || isBlank c || ['+', '-', '.', ':', 'e', 'E'].contains c

/-- The text has no characters but those of literals. -/
def IsLiteralText (text : List Char) : Prop :=
  ∀ c ∈ text, isLiteralCharacter c = true

instance (text : List Char) : Decidable (IsLiteralText text) :=
  List.decidableBAll _ text

theorem isLiteralCharacter_of_isDigit {c : Char} (digit : c.isDigit = true) :
    isLiteralCharacter c = true := by
  simp [isLiteralCharacter, digit]

theorem isLiteralCharacter_of_isBlank {c : Char} (blank : isBlank c = true) :
    isLiteralCharacter c = true := by
  simp [isLiteralCharacter, blank]

theorem Digits.isLiteralText {text : List Char} (digits : Digits text) :
    IsLiteralText text :=
  fun c member => isLiteralCharacter_of_isDigit (digits c member)

theorem IsLiteralText.append {left right : List Char} (leftLiteral : IsLiteralText left)
    (rightLiteral : IsLiteralText right) : IsLiteralText (left ++ right) :=
  List.forall_mem_append.mpr ⟨leftLiteral, rightLiteral⟩

theorem isLiteralText_cons {c : Char} {text : List Char} :
    IsLiteralText (c :: text) ↔ isLiteralCharacter c = true ∧ IsLiteralText text :=
  List.forall_mem_cons

/-! ## Numbers -/

theorem Numeral.Written.isLiteralText {numeral : Numeral} {text : List Char}
    (written : numeral.Written text) : IsLiteralText text :=
  written.forall_mem (fun _ => isLiteralCharacter_of_isDigit) (by decide) (by decide)
    (by decide)

theorem isLiteralCharacter_of_mark {mark : Char} (marked : mark = 'e' ∨ mark = 'E') :
    isLiteralCharacter mark = true := by
  rcases marked with rfl | rfl
  · decide
  · decide

theorem Scientific.PowerWritten.isLiteralText {power : Int} {text : List Char}
    (written : PowerWritten power text) : IsLiteralText text := by
  have signs {plus : List Char} (signed : plus = [] ∨ plus = ['+']) :
      IsLiteralText plus := by
    rcases signed with rfl | rfl
    · exact nofun
    · decide
  cases written with
  | unwritten => exact nofun
  | up marked signed _ row =>
      exact isLiteralText_cons.mpr
        ⟨isLiteralCharacter_of_mark marked, (signs signed).append row.isLiteralText⟩
  | down marked signed _ row =>
      exact isLiteralText_cons.mpr ⟨isLiteralCharacter_of_mark marked,
        isLiteralText_cons.mpr ⟨by decide, (signs signed).append row.isLiteralText⟩⟩

theorem Scientific.Written.isLiteralText {number : Scientific} {text : List Char}
    (written : number.Written text) : IsLiteralText text := by
  rcases written with ⟨front, back, frontWritten, backWritten, rfl⟩
  exact frontWritten.isLiteralText.append backWritten.isLiteralText

theorem IsIntegerText.isLiteralText {sign : Sign} {digits text : List Char}
    (written : IsIntegerText sign digits text) : IsLiteralText text := by
  rcases written.spelled with ⟨front, signWritten, rfl⟩
  have sign : IsLiteralText front := signWritten.forall_mem (by decide) (by decide)
  exact sign.append written.row.isLiteralText

theorem Decimal.isLiteralText_of_read? {text : List Char} {value : Decimal}
    (read : read? text = some value) : IsLiteralText text := by
  rcases exists_written_of_read? read with ⟨number, written⟩
  exact written.isLiteralText

theorem Integer.isLiteralText_of_read {bits : Nat} {text : List Char} {value : Int}
    (accepted : read bits text = .ok value) : IsLiteralText text := by
  rcases read_eq_ok_iff.mp accepted with ⟨sign, digits, written, -, -⟩
  exact written.isLiteralText

theorem Double.isLiteralText_of_read? {text : List Char} {value : Double}
    (accepted : read? text = some value) : IsLiteralText text := by
  rcases exists_read?_iff_hasDouble.mp ⟨value, accepted⟩ with ⟨-, number, written, -⟩
  exact written.isLiteralText

/-! ## Dates and times -/

namespace Calendar

theorem Blanks.isLiteralText {blanks : List Char} (blank : Blanks blanks) :
    IsLiteralText blanks :=
  fun c member => isLiteralCharacter_of_isBlank (blank c member)

theorem RowWritten.isLiteralText {number : Nat} {row : List Char}
    (written : RowWritten number row) : IsLiteralText row :=
  written.digits.isLiteralText

/-- A separator stands between parts of literal characters. -/
theorem isLiteralText_separated {left right : List Char} {separator : Char}
    (literal : isLiteralCharacter separator = true) (leftLiteral : IsLiteralText left)
    (rightLiteral : IsLiteralText right) : IsLiteralText (left ++ separator :: right) :=
  leftLiteral.append (isLiteralText_cons.mpr ⟨literal, rightLiteral⟩)

theorem FieldWritten.isLiteralText {number : Nat} {blanks row : List Char}
    (field : FieldWritten number blanks row) : IsLiteralText (blanks ++ row) :=
  field.blank.isLiteralText.append field.written.isLiteralText

theorem YearWritten.isLiteralText {year : Nat} {text : List Char}
    (written : YearWritten year text) : IsLiteralText text := by
  cases written with
  | unsigned blank written _ => exact blank.isLiteralText.append written.isLiteralText
  | plus blank written =>
      exact isLiteralText_separated (by decide) blank.isLiteralText written.isLiteralText
  | minus blank written _ =>
      exact isLiteralText_separated (by decide) blank.isLiteralText written.isLiteralText

theorem DateWritten.isLiteralText {date : Date} {front row : List Char}
    (written : DateWritten date front row) : IsLiteralText (front ++ row) := by
  cases written with
  | mk yearWritten monthWritten dayWritten =>
      have monthAndDay := @isLiteralText_separated _ _ '-' (by decide)
        monthWritten.isLiteralText dayWritten.isLiteralText
      have date := @isLiteralText_separated _ _ '-' (by decide)
        yearWritten.isLiteralText monthAndDay
      simpa using date

theorem TimeWritten.isLiteralText {time : TimeOfDay} {front row : List Char}
    (written : TimeWritten time front row) : IsLiteralText (front ++ row) := by
  cases written with
  | mk clock hourWritten minuteWritten secondWritten =>
      have minuteAndSecond := @isLiteralText_separated _ _ ':' (by decide)
        minuteWritten.isLiteralText secondWritten.isLiteralText
      have time := @isLiteralText_separated _ _ ':' (by decide)
        hourWritten.isLiteralText minuteAndSecond
      simpa using time

end Calendar

theorem Date.isLiteralText_of_read? {text : List Char} {date : Date}
    (accepted : read? text = some date) : IsLiteralText text := by
  obtain ⟨front, row, written, -, rfl⟩ := read?_eq_some_iff.mp accepted
  exact written.isLiteralText

theorem Timestamp.isLiteralText_of_read? {text : List Char} {timestamp : Timestamp}
    (accepted : read? text = some timestamp) : IsLiteralText text := by
  obtain ⟨front, row, front', row', written, -, -, timeWritten, rfl⟩ :=
    read?_eq_some_iff.mp accepted
  rw [← List.append_assoc]
  exact written.isLiteralText.append timeWritten.isLiteralText

/-! ## Defaults -/

namespace Literal

theorem isLiteralText_of_integer {text : String} {type : ScalarType} {value : Int}
    (accepted : integer text type = .ok value) : IsLiteralText text.toList := by
  rw [integer] at accepted
  split at accepted
  next => cases accepted
  next read => exact Integer.isLiteralText_of_read read

theorem isLiteralText_of_largeInteger {text : String} {value : Int}
    (accepted : largeInteger text = .ok value) : IsLiteralText text.toList :=
  Integer.isLiteralText_of_read (largeInteger_eq_ok_iff.mp accepted)

theorem isLiteralText_of_double {text : String} {value : Double}
    (accepted : double text = .ok value) : IsLiteralText text.toList :=
  Double.isLiteralText_of_read? (double_eq_ok_iff.mp accepted)

theorem isLiteralText_of_single {text : String} {value : Double}
    (accepted : single text = .ok value) : IsLiteralText text.toList := by
  rw [single] at accepted
  rcases Outcome.bind_eq_ok.mp accepted with ⟨_, double, -⟩
  exact isLiteralText_of_double double

theorem isLiteralText_of_decimal {text : String} {value : Decimal}
    (accepted : decimal text = .ok value) : IsLiteralText text.toList :=
  Decimal.isLiteralText_of_read? (decimal_eq_ok.mp accepted)

theorem isLiteralText_of_calendar {primitive : Primitive} {text : String}
    {value : CalendarLiteral} (accepted : calendar primitive text = .ok value) :
    IsLiteralText text.toList := by
  obtain ⟨-, read⟩ := calendar_eq_ok_iff.mp accepted
  cases value with
  | date day => exact Date.isLiteralText_of_read? read
  | dateTime timestamp => exact Timestamp.isLiteralText_of_read? read

end Literal

/-- Except for texts and sketches, a valid default is a literal text. -/
theorem ScalarType.isLiteralText_of_checkDefault {type : ScalarType} {text : String}
    (notString : type.primitive.isString = false) (notHll : type ≠ .hll)
    (valid : type.checkDefault text = .ok ()) : IsLiteralText text.toList := by
  rw [checkDefault.eq_def] at valid
  cases type with
  | tinyInt | smallInt | int | bigInt =>
      rcases Outcome.bind_eq_ok.mp valid with ⟨_, read, -⟩
      exact Literal.isLiteralText_of_integer read
  | largeInt =>
      rcases Outcome.bind_eq_ok.mp valid with ⟨_, read, -⟩
      exact Literal.isLiteralText_of_largeInteger read
  | float =>
      rcases Outcome.bind_eq_ok.mp valid with ⟨_, read, -⟩
      exact Literal.isLiteralText_of_single read
  | double =>
      rcases Outcome.bind_eq_ok.mp valid with ⟨_, read, -⟩
      exact Literal.isLiteralText_of_double read
  | decimal =>
      rcases Outcome.bind_eq_ok.mp valid with ⟨_, read, -⟩
      exact Literal.isLiteralText_of_decimal read
  | date | dateTime =>
      rcases Outcome.bind_eq_ok.mp valid with ⟨_, read, -⟩
      exact Literal.isLiteralText_of_calendar read
  | hll => exact absurd rfl notHll
  | char | varchar => cases notString
  | boolean | time | bitmap => cases valid

/-- A literal text has no other characters, such as a quotation mark. -/
theorem IsLiteralText.not_mem {text : List Char} {c : Char} (literal : IsLiteralText text)
    (other : isLiteralCharacter c = false) : c ∉ text := by
  intro member
  rw [literal c member] at other
  cases other

/-! ## Separators of digits -/

namespace Literal

/-- A decimal is read in three parts. A text with a separator of digits is refused, any
other is read as a plain numeral or else split at its first mark of a power. -/
theorem decimal_eq_parts (text : String) :
    decimal text =
      if '_' ∈ text.toList then
        .error (.invalidDecimal text)
      else
        match (Decimal.plain? text.toList).or (Decimal.scientific? text.toList) with
        | some value => .ok value
        | none => .error (.invalidDecimal text) := by
  rw [← Decimal.read?_eq_or]
  split
  next separated =>
    apply decimal_eq_error
    cases read : Decimal.read? text.toList with
    | none => rfl
    | some value =>
        have unseparated : '_' ∉ text.toList :=
          (Decimal.isLiteralText_of_read? read).not_mem (by decide)
        exact absurd separated unseparated
  next => rfl

end Literal

end ColumnSchema
