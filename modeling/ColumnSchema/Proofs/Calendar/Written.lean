import ColumnSchema.Literal
import ColumnSchema.Proofs.Cut
import ColumnSchema.Proofs.Numeral

/-!
# How dates and times are written

The grammar of dates and times, blanks included, and the two directions in which the
readers agree with it. Only the last field of a text can be extended by what follows, since
the others end at their separators. So the digits of that field are kept apart from what
stands in front of them.
-/

namespace ColumnSchema

namespace Calendar

/-! ## Fields -/

/-- The text has blanks only. -/
def Blanks (text : List Char) : Prop :=
  ∀ c ∈ text, isBlank c = true

instance (text : List Char) : Decidable (Blanks text) :=
  List.decidableBAll _ text

/-- No digit comes next. -/
def Ends (rest : List Char) : Prop :=
  ∀ c ∈ rest.head?, c.isDigit = false

/-- The number is written as a row of digits. -/
structure RowWritten (number : Nat) (row : List Char) : Prop where
  digits : Digits row
  nonempty : row ≠ []
  value : digitsValue row = number

/-- The number is written as a row of one or two digits after blanks. -/
structure FieldWritten (number : Nat) (blanks row : List Char) : Prop where
  blank : Blanks blanks
  written : RowWritten number row
  length_le : List.length row ≤ 2

/-- What follows the row cannot be taken for another digit of its field. -/
def Closed (row rest : List Char) : Prop :=
  row.length = 2 ∨ Ends rest

/-- How a year is written. With a sign it may have any number of digits, and zero may have
a minus sign. -/
inductive YearWritten (year : Nat) : List Char → Prop where
  | unsigned {blanks row : List Char} (blank : Blanks blanks) (written : RowWritten year row)
      (length_le : row.length ≤ 4) : YearWritten year (blanks ++ row)
  | plus {blanks row : List Char} (blank : Blanks blanks) (written : RowWritten year row) :
      YearWritten year (blanks ++ '+' :: row)
  | minus {blanks row : List Char} (blank : Blanks blanks) (written : RowWritten year row)
      (zero : year = 0) : YearWritten year (blanks ++ '-' :: row)

/-- How a date is written up to the digits of the day, and these digits. -/
inductive DateWritten (date : Date) : List Char → List Char → Prop where
  | mk {year blanks month blanks' day : List Char} (yearWritten : YearWritten date.year year)
      (monthWritten : FieldWritten date.month blanks month)
      (dayWritten : FieldWritten date.day blanks' day) :
      DateWritten date (year ++ '-' :: (blanks ++ (month ++ '-' :: blanks'))) day

/-- How a time is written up to the digits of the second, and these digits. -/
inductive TimeWritten (time : TimeOfDay) : List Char → List Char → Prop where
  | mk {hourOf minuteOf secondOf : Nat} {blanks hour blanks' minute blanks'' second : List Char}
      (clock : TimeOfDay.ofClock? hourOf minuteOf secondOf = some time)
      (hourWritten : FieldWritten hourOf blanks hour)
      (minuteWritten : FieldWritten minuteOf blanks' minute)
      (secondWritten : FieldWritten secondOf blanks'' second) :
      TimeWritten time
        (blanks ++ (hour ++ ':' :: (blanks' ++ (minute ++ ':' :: blanks'')))) second

theorem blanks_nil : Blanks [] := nofun

theorem isDigit_of_isBlank {c : Char} (blank : isBlank c = true) : c.isDigit = false := by
  cases digit : c.isDigit with
  | false => rfl
  | true =>
      have range := Char.isDigit_iff_toNat.mp digit
      simp only [Char.reduceToNat] at range
      simp only [isBlank, blankRanges, List.any_cons, List.any_nil, Bool.or_false,
        Bool.or_eq_true, Bool.and_eq_true, decide_eq_true_eq] at blank
      omega

theorem ends_cons {c : Char} (rest : List Char) (noDigit : c.isDigit = false) :
    Ends (c :: rest) := by
  intro d member
  cases member
  exact noDigit

theorem Blanks.append {left right : List Char} (leftBlank : Blanks left)
    (rightBlank : Blanks right) : Blanks (left ++ right) :=
  List.forall_mem_append.mpr ⟨leftBlank, rightBlank⟩

/-- A text of blanks that more text follows ends any row of digits. -/
theorem Blanks.ends {blanks rest : List Char} (blank : Blanks blanks) (ends : Ends rest) :
    Ends (blanks ++ rest) := by
  cases blanks with
  | nil => exact ends
  | cons c others => exact ends_cons _ (isDigit_of_isBlank (blank c List.mem_cons_self))

/-- Blanks are skipped up to the first other character. -/
theorem Blanks.skipBlank_append {blanks rest : List Char} (blank : Blanks blanks)
    (starts : ∀ c ∈ rest.head?, isBlank c = false) : skipBlank (blanks ++ rest) = rest :=
  (Cut.takeWhile_append blank starts).2

theorem exists_blanks (text : List Char) :
    ∃ blanks, Blanks blanks ∧ text = blanks ++ skipBlank text :=
  ⟨_, fun c member => List.all_eq_true.mp List.all_takeWhile c member,
    (List.takeWhile_append_dropWhile (p := isBlank)).symm⟩

/-! ## Reading rows -/

namespace RowWritten

variable {number width : Nat} {blanks row rest : List Char}

theorem isDigit_of_mem_head? (written : RowWritten number row) :
    ∀ c ∈ (row ++ rest).head?, c.isDigit = true := by
  intro c member
  cases row with
  | nil => exact absurd rfl written.nonempty
  | cons digit others =>
      cases member
      exact written.digits c List.mem_cons_self

/-- A row that follows extends the digits before it. -/
theorem not_ends (written : RowWritten number row) : ¬ Ends (row ++ rest) := by
  intro ends
  obtain ⟨c, first⟩ := Option.isSome_iff_exists.mp
    (List.isSome_head?.mpr (List.append_ne_nil_of_left_ne_nil written.nonempty rest))
  have digit := written.isDigit_of_mem_head? c first
  rw [ends c first] at digit
  cases digit

/-- Digits are no blanks. -/
theorem skipBlank_append (written : RowWritten number row) (blank : Blanks blanks) :
    skipBlank (blanks ++ (row ++ rest)) = row ++ rest := by
  apply blank.skipBlank_append
  intro c member
  cases isBlank : ColumnSchema.isBlank c with
  | false => rfl
  | true =>
      have digit := written.isDigit_of_mem_head? c member
      rw [isDigit_of_isBlank isBlank] at digit
      cases digit

/-- A row is read if it fills the width or ends before. -/
theorem digits?_append (written : RowWritten number row) (length_le : row.length ≤ width)
    (closed : row.length = width ∨ Ends rest) :
    digits? width (row ++ rest) = some (number, rest) := by
  have taken : ((row ++ rest).take width).takeWhile Char.isDigit = row := by
    rw [List.take_append, List.take_of_length_le length_le]
    refine (Cut.takeWhile_append written.digits ?_).1
    intro c member
    cases closed with
    | inl full =>
        rw [full, Nat.sub_self] at member
        cases member
    | inr ends =>
        rw [List.head?_take] at member
        split at member
        next => cases member
        next => exact ends c member
  rw [digits?, taken, List.drop_left]
  simp [written.nonempty, written.value]

end RowWritten

/-- What is read is a row, and it fills the width or no digit follows it. -/
theorem written_of_digits? {number width : Nat} {text rest : List Char}
    (read : digits? width text = some (number, rest)) :
    ∃ row, RowWritten number row ∧ row.length ≤ width ∧ (row.length = width ∨ Ends rest) ∧
      text = row ++ rest := by
  have cut := List.take_append_drop width text
  have span := List.takeWhile_append_dropWhile (p := Char.isDigit) (l := text.take width)
  have stops := List.head?_dropWhile_not Char.isDigit (text.take width)
  have digits := digits_takeWhile (text.take width)
  have length_le := List.length_take_le width text
  rw [digits?] at read
  generalize (text.take width).takeWhile Char.isDigit = row at read span digits
  generalize (text.take width).dropWhile Char.isDigit = left at span stops
  rw [← span, List.append_assoc] at cut
  split at read
  next => cases read
  next nonempty =>
    cases read
    rw [← cut, List.drop_left]
    refine ⟨row, ⟨digits, fun empty => nonempty (List.isEmpty_iff.mpr empty), rfl⟩, ?_, ?_, rfl⟩
    · rw [← span, List.length_append] at length_le
      omega
    · cases left with
      | cons c others => exact .inr (ends_cons _ stops)
      | nil =>
          rw [List.append_nil] at span
          cases Nat.lt_or_ge width text.length with
          | inl longer =>
              left
              rw [span, List.length_take]
              omega
          | inr shorter =>
              rw [List.drop_eq_nil_of_le shorter]
              exact .inr nofun

/-! ## Reading fields and years -/

namespace FieldWritten

variable {number : Nat} {blanks row rest : List Char}

theorem field?_append (written : FieldWritten number blanks row) (closed : Closed row rest) :
    field? (blanks ++ (row ++ rest)) = some (number, rest) := by
  rw [field?, written.written.skipBlank_append written.blank]
  exact written.written.digits?_append written.length_le closed

end FieldWritten

theorem written_of_field? {number : Nat} {text rest : List Char}
    (read : field? text = some (number, rest)) :
    ∃ blanks row, FieldWritten number blanks row ∧ Closed row rest ∧
      text = blanks ++ (row ++ rest) := by
  obtain ⟨blanks, blank, textEq⟩ := exists_blanks text
  obtain ⟨row, written, length_le, closed, skipped⟩ := written_of_digits? read
  exact ⟨blanks, row, ⟨blank, written, length_le⟩, closed, skipped ▸ textEq⟩

/-- A year is read if no digit follows it. -/
theorem YearWritten.year?_append {year : Nat} {front rest : List Char}
    (written : YearWritten year front) (ends : Ends rest) :
    year? (front ++ rest) = some (year, rest) := by
  have signStarts (sign : Char) (row : List Char) (noBlank : isBlank sign = false) :
      ∀ c ∈ (sign :: row).head?, isBlank c = false := by
    intro c member
    cases member
    exact noBlank
  rw [year?.eq_def]
  cases written with
  | @unsigned blanks row blank written length_le =>
      rw [List.append_assoc, written.skipBlank_append blank]
      split
      next plus => cases written.isDigit_of_mem_head? '+' (by rw [plus]; rfl)
      next minus => cases written.isDigit_of_mem_head? '-' (by rw [minus]; rfl)
      next => exact written.digits?_append length_le (.inr ends)
  | @plus blanks row blank written =>
      rw [List.append_assoc, List.cons_append,
        blank.skipBlank_append (signStarts '+' _ (by decide))]
      exact written.digits?_append (by simp) (.inr ends)
  | @minus blanks row blank written zero =>
      rw [List.append_assoc, List.cons_append,
        blank.skipBlank_append (signStarts '-' _ (by decide))]
      have length_le : row.length ≤ (row ++ rest).length := by simp
      simp only [written.digits?_append length_le (.inr ends), Option.bind_eq_bind,
        Option.bind_some, zero, if_true]

theorem written_of_year? {year : Nat} {text rest : List Char}
    (read : year? text = some (year, rest)) :
    ∃ front, YearWritten year front ∧ text = front ++ rest := by
  obtain ⟨blanks, blank, textEq⟩ := exists_blanks text
  rw [year?.eq_def] at read
  generalize skipBlank text = unread at read textEq
  subst textEq
  split at read
  next digits =>
    obtain ⟨row, written, -, -, rfl⟩ := written_of_digits? read
    exact ⟨_, .plus blank written, by simp⟩
  next digits =>
    obtain ⟨⟨number, left⟩, digitsRead, read⟩ := Option.bind_eq_some_iff.mp read
    dsimp only at read
    split at read
    next zero =>
      cases read
      obtain ⟨row, written, -, -, rfl⟩ := written_of_digits? digitsRead
      exact ⟨_, .minus blank (zero ▸ written) rfl, by simp⟩
    next => cases read
  next =>
    obtain ⟨row, written, length_le, -, rfl⟩ := written_of_digits? read
    exact ⟨_, .unsigned blank written length_le, by simp⟩

/-! ## Reading dates and times -/

theorem eq_cons_of_after? {separator : Char} {text rest : List Char}
    (read : after? separator text = some rest) : text = separator :: rest := by
  rw [after?.eq_def] at read
  split at read
  next => cases read
  next c others =>
    split at read
    next equal =>
      cases read
      rw [equal]
    next => cases read

@[simp] theorem after?_cons (separator : Char) (rest : List Char) :
    after? separator (separator :: rest) = some rest := if_pos rfl

theorem DateWritten.rowWritten {date : Date} {front row : List Char}
    (written : DateWritten date front row) : RowWritten date.day row := by
  cases written with
  | mk yearWritten monthWritten dayWritten => exact dayWritten.written

theorem DateWritten.date?_append {date : Date} {front row rest : List Char}
    (written : DateWritten date front row) (valid : date.Valid) (closed : Closed row rest) :
    date? (front ++ (row ++ rest)) = some (date, rest) := by
  cases written with
  | mk yearWritten monthWritten dayWritten =>
      have hyphen (rest : List Char) : Ends ('-' :: rest) := ends_cons rest rfl
      simp only [date?, List.append_assoc, List.cons_append, Option.bind_eq_bind,
        yearWritten.year?_append (hyphen _), Option.bind_some, after?_cons,
        monthWritten.field?_append (.inr (hyphen _)),
        dayWritten.field?_append closed]
      exact if_pos valid

theorem written_of_date? {date : Date} {text rest : List Char}
    (read : date? text = some (date, rest)) :
    ∃ front row, DateWritten date front row ∧ date.Valid ∧ Closed row rest ∧
      text = front ++ (row ++ rest) := by
  obtain ⟨⟨year, _⟩, yearRead, read⟩ := Option.bind_eq_some_iff.mp read
  obtain ⟨_, yearEnd, read⟩ := Option.bind_eq_some_iff.mp read
  obtain ⟨⟨month, _⟩, monthRead, read⟩ := Option.bind_eq_some_iff.mp read
  obtain ⟨_, monthEnd, read⟩ := Option.bind_eq_some_iff.mp read
  obtain ⟨⟨day, _⟩, dayRead, read⟩ := Option.bind_eq_some_iff.mp read
  dsimp only at read
  split at read
  next valid =>
    cases read
    obtain ⟨_, yearWritten, rfl⟩ := written_of_year? yearRead
    cases eq_cons_of_after? yearEnd
    obtain ⟨_, _, monthWritten, -, rfl⟩ := written_of_field? monthRead
    cases eq_cons_of_after? monthEnd
    obtain ⟨_, _, dayWritten, closed, rfl⟩ := written_of_field? dayRead
    exact ⟨_, _, .mk yearWritten monthWritten dayWritten, valid, closed, by simp⟩
  next => cases read

theorem TimeWritten.time?_append {time : TimeOfDay} {front row rest : List Char}
    (written : TimeWritten time front row) (closed : Closed row rest) :
    time? (front ++ (row ++ rest)) = some (time, rest) := by
  cases written with
  | mk clock hourWritten minuteWritten secondWritten =>
      have colon (rest : List Char) : Ends (':' :: rest) := ends_cons rest rfl
      simp only [time?, List.append_assoc, List.cons_append, Option.bind_eq_bind,
        hourWritten.field?_append (.inr (colon _)), Option.bind_some,
        after?_cons, minuteWritten.field?_append (.inr (colon _)),
        secondWritten.field?_append closed, clock, Option.pure_def]

theorem written_of_time? {time : TimeOfDay} {text rest : List Char}
    (read : time? text = some (time, rest)) :
    ∃ front row, TimeWritten time front row ∧ Closed row rest ∧ text = front ++ (row ++ rest) := by
  obtain ⟨⟨hour, _⟩, hourRead, read⟩ := Option.bind_eq_some_iff.mp read
  obtain ⟨_, hourEnd, read⟩ := Option.bind_eq_some_iff.mp read
  obtain ⟨⟨minute, _⟩, minuteRead, read⟩ := Option.bind_eq_some_iff.mp read
  obtain ⟨_, minuteEnd, read⟩ := Option.bind_eq_some_iff.mp read
  obtain ⟨⟨second, _⟩, secondRead, read⟩ := Option.bind_eq_some_iff.mp read
  obtain ⟨_, clock, read⟩ := Option.bind_eq_some_iff.mp read
  cases read
  obtain ⟨_, _, hourWritten, -, rfl⟩ := written_of_field? hourRead
  cases eq_cons_of_after? hourEnd
  obtain ⟨_, _, minuteWritten, -, rfl⟩ := written_of_field? minuteRead
  cases eq_cons_of_after? minuteEnd
  obtain ⟨_, _, secondWritten, closed, rfl⟩ := written_of_field? secondRead
  exact ⟨_, _, .mk clock hourWritten minuteWritten secondWritten, closed, by simp⟩

/-! ## Whole texts -/

/-- A reader that used up its text left nothing. -/
theorem whole?_eq_some_iff {α : Type} {result : Option (α × List Char)} {value : α} :
    whole? result = some value ↔ result = some (value, []) := by
  rw [whole?.eq_def]
  split
  next => simp
  next notWhole =>
    constructor
    · intro read
      cases read
    · intro read
      exact absurd read (notWhole value)

end Calendar

open Calendar

/-- The texts from which a day is read write one. -/
theorem Date.read?_eq_some_iff {text : List Char} {date : Date} :
    read? text = some date ↔
      ∃ front row, DateWritten date front row ∧ date.Valid ∧ text = front ++ row := by
  rw [read?, whole?_eq_some_iff]
  constructor
  · intro read
    obtain ⟨front, row, written, valid, -, rfl⟩ := written_of_date? read
    exact ⟨front, row, written, valid, by rw [List.append_nil]⟩
  · rintro ⟨front, row, written, valid, rfl⟩
    have read : date? (front ++ (row ++ [])) = some (date, []) :=
      written.date?_append valid (.inr nofun)
    rwa [List.append_nil] at read

/-- The texts from which a timestamp is read write a day and a time. -/
theorem Timestamp.read?_eq_some_iff {text : List Char} {timestamp : Timestamp} :
    read? text = some timestamp ↔
      ∃ front row front' row', DateWritten timestamp.date front row ∧ timestamp.date.Valid ∧
        Closed row (front' ++ row') ∧ TimeWritten timestamp.time front' row' ∧
        text = front ++ (row ++ (front' ++ row')) := by
  rw [read?, whole?_eq_some_iff]
  constructor
  · intro read
    obtain ⟨⟨date, _⟩, dateRead, read⟩ := Option.bind_eq_some_iff.mp read
    obtain ⟨⟨time, _⟩, timeRead, read⟩ := Option.bind_eq_some_iff.mp read
    cases read
    obtain ⟨front, row, written, valid, closed, rfl⟩ := written_of_date? dateRead
    obtain ⟨front', row', timeWritten, -, rfl⟩ := written_of_time? timeRead
    rw [List.append_nil] at closed ⊢
    exact ⟨front, row, front', row', written, valid, closed, timeWritten, rfl⟩
  · rintro ⟨front, row, front', row', written, valid, closed, timeWritten, rfl⟩
    have timeRead : time? (front' ++ (row' ++ [])) = some (timestamp.time, []) :=
      timeWritten.time?_append (.inr nofun)
    rw [List.append_nil] at timeRead
    simp only [Option.bind_eq_bind, written.date?_append valid closed, Option.bind_some,
      timeRead]
    rfl

/-! ## Literals -/

namespace CalendarLiteral

/-- The type that a literal belongs to. -/
def primitive : CalendarLiteral → Primitive
  | date _ => .date
  | dateTime _ => .dateTime

/-- The reader for the type of the literal finds it in the text. -/
def ReadFrom (text : List Char) : CalendarLiteral → Prop
  | date day => Date.read? text = some day
  | dateTime timestamp => Timestamp.read? text = some timestamp

end CalendarLiteral

/-- A type has the literals that its own reader finds, and only calendar types have any. -/
theorem Literal.calendar_eq_ok_iff {primitive : Primitive} {text : String}
    {literal : CalendarLiteral} :
    calendar primitive text = .ok literal ↔
      literal.primitive = primitive ∧ literal.ReadFrom text.toList := by
  constructor
  · intro accepted
    rw [calendar.eq_def] at accepted
    dsimp only at accepted
    split at accepted
    next found =>
      cases accepted
      split at found
      next =>
        obtain ⟨day, read, rfl⟩ := Option.map_eq_some_iff.mp found
        exact ⟨rfl, read⟩
      next =>
        obtain ⟨timestamp, read, rfl⟩ := Option.map_eq_some_iff.mp found
        exact ⟨rfl, read⟩
      next => cases found
    next => cases accepted
  · rintro ⟨rfl, read⟩
    cases literal with
    | date day =>
        have read : Date.read? text.toList = some day := read
        simp only [calendar, CalendarLiteral.primitive, read, Option.map_some]
    | dateTime timestamp =>
        have read : Timestamp.read? text.toList = some timestamp := read
        simp only [calendar, CalendarLiteral.primitive, read, Option.map_some]

end ColumnSchema
