import ColumnSchema.Proofs.Calendar.Written

/-!
# The canonical form of calendar literals

A day is written as its year, month and day, and a time as its hour, minute and second,
each with zeros in front up to a fixed width. What is read from a text, in whatever form, is
a day of the calendar and a second of a clock, and read from its canonical form it is the
same again.
-/

namespace ColumnSchema

/-! ## Days and seconds -/

/-- The day is one of the Gregorian calendar, extended backwards to the year 0, and its year
has four digits at most. -/
structure Date.InCalendar (date : Date) : Prop where
  year : date.year ≤ 9999
  month : 1 ≤ date.month ∧ date.month ≤ 12
  day : 1 ≤ date.day ∧ date.day ≤ 31
  short : date.month = 4 ∨ date.month = 6 ∨ date.month = 9 ∨ date.month = 11 → date.day ≤ 30
  february : date.month = 2 → date.day ≤ 29
  leap : date.month = 2 → date.day = 29 → 4 ∣ date.year ∧ (100 ∣ date.year → 400 ∣ date.year)

/-- The second is one that a clock shows. A leap second is the second before it with a
second of nanoseconds. -/
structure TimeOfDay.OnClock (time : TimeOfDay) : Prop where
  hour : time.hour ≤ 23
  minute : time.minute ≤ 59
  second : time.second ≤ 59 ∧ time.nanosecond = 0 ∨
    time.second = 59 ∧ time.nanosecond = 10 ^ 9

namespace Date

theorem isLeapYear_eq_true {year : Nat} :
    isLeapYear year = true ↔ 4 ∣ year ∧ (100 ∣ year → 400 ∣ year) := by
  simp only [isLeapYear, Bool.and_eq_true, Bool.or_eq_true, beq_iff_eq, bne_iff_ne]
  omega

/-- The months have 31 days but for the four short ones and February. -/
theorem le_daysInMonth_iff {year month day : Nat} (first : 1 ≤ day) :
    day ≤ daysInMonth year month ↔
      (1 ≤ month ∧ month ≤ 12) ∧ day ≤ 31 ∧
        (month = 4 ∨ month = 6 ∨ month = 9 ∨ month = 11 → day ≤ 30) ∧
        (month = 2 → day ≤ 29) ∧
        (month = 2 → day = 29 → 4 ∣ year ∧ (100 ∣ year → 400 ∣ year)) := by
  -- After the eleven other months, the last two cases are February and what is no month.
  rw [daysInMonth.eq_def]
  split
  case h_12 =>
      cases leap : isLeapYear year with
      | true =>
          have rule := isLeapYear_eq_true.mp leap
          rw [if_pos rfl]
          omega
      | false =>
          have noRule := mt isLeapYear_eq_true.mpr (Bool.eq_false_iff.mp leap)
          rw [if_neg Bool.false_ne_true]
          omega
  case h_13 =>
      simp only [imp_false] at *
      omega
  all_goals omega

theorem valid_iff_inCalendar {date : Date} : date.Valid ↔ date.InCalendar := by
  constructor
  · rintro ⟨year, first, last⟩
    obtain ⟨month, day, short, february, leap⟩ := (le_daysInMonth_iff first).mp last
    exact ⟨year, month, ⟨first, day⟩, short, february, leap⟩
  · intro inCalendar
    obtain ⟨year, month, ⟨first, day⟩, short, february, leap⟩ := inCalendar
    exact ⟨year, first, (le_daysInMonth_iff first).mpr ⟨month, day, short, february, leap⟩⟩

end Date

namespace TimeOfDay

/-- The second that the clock shows at a time, 60 for a leap second. -/
def clockSecond (time : TimeOfDay) : Nat :=
  if time.nanosecond = 0 then time.second else 60

theorem onClock_of_ofClock? {hour minute second : Nat} {time : TimeOfDay}
    (shown : ofClock? hour minute second = some time) : time.OnClock := by
  rw [ofClock?] at shown
  split at shown
  next range =>
    split at shown
    next leap =>
      cases shown
      exact ⟨range.1, range.2.1, .inr ⟨rfl, rfl⟩⟩
    next notLeap =>
      cases shown
      exact ⟨range.1, range.2.1, .inl ⟨by dsimp only; omega, rfl⟩⟩
  next => cases shown

/-- The clock shows every second of a day, and the leap seconds. -/
theorem OnClock.ofClock?_eq {time : TimeOfDay} (onClock : time.OnClock) :
    ofClock? time.hour time.minute time.clockSecond = some time := by
  obtain ⟨hour, minute, second, nanosecond⟩ := time
  obtain ⟨hour_le, minute_le, ⟨second_le, rfl⟩ | ⟨rfl, rfl⟩⟩ := onClock
  · have notLeap : second ≠ 60 := Nat.ne_of_lt (Nat.lt_succ_of_le second_le)
    exact (if_pos ⟨hour_le, minute_le, Nat.le_succ_of_le second_le⟩).trans (if_neg notLeap)
  · exact if_pos ⟨hour_le, minute_le, Nat.le_refl 60⟩

theorem OnClock.clockSecond_le {time : TimeOfDay} (onClock : time.OnClock) :
    time.clockSecond ≤ 60 := by
  rw [clockSecond]
  split
  next =>
    obtain ⟨second_le, -⟩ | ⟨second, -⟩ := onClock.second
    · omega
    · omega
  next => exact Nat.le_refl 60

end TimeOfDay

/-! ## Canonical texts -/

namespace Calendar

/-- The digits of a number, with zeros in front up to a width. -/
def padded (width number : Nat) : List Char :=
  (decimalDigits number).leftpad width '0'

theorem rowWritten_padded (width number : Nat) : RowWritten number (padded width number) where
  digits := digits_leftpad width number
  nonempty := List.append_ne_nil_of_right_ne_nil _ Nat.toDigits_ne_nil
  value := digitsValue_leftpad width number

theorem length_padded {width number : Nat} (positive : 0 < width) (lt : number < 10 ^ width) :
    (padded width number).length = width := by
  rw [padded, List.length_leftpad]
  exact Nat.max_eq_left ((Nat.length_toDigits_le_iff (by decide) positive).mpr lt)

/-- A number of two digits is a field of its canonical text. -/
theorem fieldWritten_padded {number : Nat} {blanks : List Char} (blank : Blanks blanks)
    (lt : number < 100) : FieldWritten number blanks (padded 2 number) :=
  ⟨blank, rowWritten_padded 2 number, Nat.le_of_eq (length_padded Nat.zero_lt_two lt)⟩

end Calendar

open Calendar

/-- The canonical text of a day, in the form 2024-02-29. -/
def Date.toText (date : Date) : List Char :=
  padded 4 date.year ++ '-' :: (padded 2 date.month ++ '-' :: padded 2 date.day)

/-- The canonical text of a time, in the form 23:59:60. -/
def TimeOfDay.toText (time : TimeOfDay) : List Char :=
  padded 2 time.hour ++ ':' :: (padded 2 time.minute ++ ':' :: padded 2 time.clockSecond)

/-- The canonical text of a timestamp has one space in the middle. -/
def Timestamp.toText (timestamp : Timestamp) : List Char :=
  timestamp.date.toText ++ ' ' :: timestamp.time.toText

theorem Date.InCalendar.exists_written {date : Date} (inCalendar : date.InCalendar) :
    ∃ front, DateWritten date front (padded 2 date.day) ∧
      date.toText = front ++ padded 2 date.day := by
  have year_lt : date.year < 10 ^ 4 := Nat.lt_succ_of_le inCalendar.year
  have month_lt : date.month < 100 := by have := inCalendar.month; omega
  have day_lt : date.day < 100 := by have := inCalendar.day; omega
  have yearWritten : YearWritten date.year ([] ++ padded 4 date.year) :=
    .unsigned blanks_nil (rowWritten_padded 4 _)
      (Nat.le_of_eq (length_padded (by decide) year_lt))
  exact ⟨_, .mk yearWritten (fieldWritten_padded blanks_nil month_lt)
    (fieldWritten_padded blanks_nil day_lt), by simp [Date.toText]⟩

/-- The canonical text of a time may follow blanks. -/
theorem TimeOfDay.OnClock.exists_written {time : TimeOfDay} {blanks : List Char}
    (onClock : time.OnClock) (blank : Blanks blanks) :
    ∃ front, TimeWritten time front (padded 2 time.clockSecond) ∧
      blanks ++ time.toText = front ++ padded 2 time.clockSecond := by
  have hour_lt : time.hour < 100 := by have := onClock.hour; omega
  have minute_lt : time.minute < 100 := by have := onClock.minute; omega
  have second_lt : time.clockSecond < 100 := by have := onClock.clockSecond_le; omega
  exact ⟨_, .mk onClock.ofClock?_eq (fieldWritten_padded blank hour_lt)
    (fieldWritten_padded blanks_nil minute_lt) (fieldWritten_padded blanks_nil second_lt),
    by simp [TimeOfDay.toText]⟩

theorem Calendar.TimeWritten.onClock {time : TimeOfDay} {front row : List Char}
    (written : TimeWritten time front row) : time.OnClock := by
  cases written with
  | mk clock => exact TimeOfDay.onClock_of_ofClock? clock

/-! ## Reading canonical texts -/

theorem Date.InCalendar.read?_toText {date : Date} (inCalendar : date.InCalendar) :
    Date.read? date.toText = some date := by
  obtain ⟨front, written, textEq⟩ := inCalendar.exists_written
  exact read?_eq_some_iff.mpr ⟨front, _, written, valid_iff_inCalendar.mpr inCalendar, textEq⟩

/-- A second of a day of the calendar. -/
structure Timestamp.InCalendar (timestamp : Timestamp) : Prop where
  date : timestamp.date.InCalendar
  time : timestamp.time.OnClock

theorem Timestamp.InCalendar.read?_toText {timestamp : Timestamp}
    (inCalendar : timestamp.InCalendar) : Timestamp.read? timestamp.toText = some timestamp := by
  obtain ⟨front, written, dateEq⟩ := inCalendar.date.exists_written
  obtain ⟨front', timeWritten, timeEq⟩ :=
    inCalendar.time.exists_written (by decide : Blanks [' '])
  have day_lt : timestamp.date.day < 10 ^ 2 := by have := inCalendar.date.day; omega
  refine read?_eq_some_iff.mpr ⟨front, _, front', _, written,
    Date.valid_iff_inCalendar.mpr inCalendar.date, .inl (length_padded (by decide) day_lt),
    timeWritten, ?_⟩
  rw [toText, dateEq, ← timeEq, List.append_assoc]
  rfl

namespace CalendarLiteral

/-- The literal is a day, or a second of a day, of the calendar. -/
def InCalendar : CalendarLiteral → Prop
  | date day => day.InCalendar
  | dateTime timestamp => timestamp.InCalendar

/-- The canonical text of a literal. -/
def toText : CalendarLiteral → String
  | date day => String.ofList day.toText
  | dateTime timestamp => String.ofList timestamp.toText

theorem ReadFrom.inCalendar {text : List Char} {literal : CalendarLiteral}
    (read : literal.ReadFrom text) : literal.InCalendar := by
  cases literal with
  | date day =>
      obtain ⟨_, _, -, valid, -⟩ := Date.read?_eq_some_iff.mp read
      exact Date.valid_iff_inCalendar.mp valid
  | dateTime timestamp =>
      obtain ⟨_, _, _, _, -, valid, -, timeWritten, -⟩ := Timestamp.read?_eq_some_iff.mp read
      exact ⟨Date.valid_iff_inCalendar.mp valid, timeWritten.onClock⟩

theorem InCalendar.readFrom_toText {literal : CalendarLiteral}
    (inCalendar : literal.InCalendar) : literal.ReadFrom literal.toText.toList := by
  cases literal with
  | date day =>
      have read : Date.read? day.toText = some day := Date.InCalendar.read?_toText inCalendar
      simpa only [ReadFrom, toText, String.toList_ofList] using read
  | dateTime timestamp =>
      have read : Timestamp.read? timestamp.toText = some timestamp :=
        Timestamp.InCalendar.read?_toText inCalendar
      simpa only [ReadFrom, toText, String.toList_ofList] using read

end CalendarLiteral

namespace Literal

/-- What is read for a calendar type is a literal of the calendar. Every literal of the
calendar is read from its canonical text, so a literal that was read is read from its
canonical text again. -/
theorem calendar_round_trip :
    (∀ primitive text literal, calendar primitive text = .ok literal →
      literal.primitive = primitive ∧ literal.InCalendar ∧
        calendar primitive literal.toText = .ok literal) ∧
    ∀ literal : CalendarLiteral, literal.InCalendar →
      calendar literal.primitive literal.toText = .ok literal := by
  have prints {literal : CalendarLiteral} (inCalendar : literal.InCalendar) :
      calendar literal.primitive literal.toText = .ok literal :=
    calendar_eq_ok_iff.mpr ⟨rfl, inCalendar.readFrom_toText⟩
  constructor
  · intro primitive text literal accepted
    obtain ⟨rfl, read⟩ := calendar_eq_ok_iff.mp accepted
    exact ⟨rfl, read.inCalendar, prints read.inCalendar⟩
  · intro literal inCalendar
    exact prints inCalendar

/-- A leap second on a leap day, from a text with a sign, a blank and short fields. -/
theorem calendar_round_trip_leapSecond :
    ∃ literal, calendar .dateTime "+2000-2- 29 7:5:60" = .ok literal ∧ literal.InCalendar ∧
      literal.toText = "2000-02-29 07:05:60" ∧
      calendar .dateTime "2000-02-29 07:05:60" = .ok literal := by
  have read : calendar .dateTime "+2000-2- 29 7:5:60" =
      .ok (.dateTime ⟨⟨2000, 2, 29⟩, ⟨7, 5, 59, 10 ^ 9⟩⟩) := rfl
  have inCalendar := (calendar_round_trip.1 _ _ _ read).2.1
  exact ⟨_, read, inCalendar, rfl, calendar_round_trip.2 _ inCalendar⟩

end Literal

end ColumnSchema
