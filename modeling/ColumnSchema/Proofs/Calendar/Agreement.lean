import ColumnSchema.Proofs.Calendar.Canonical
import Mathlib.Data.List.DropRight

/-!
# The day of a timestamp

No text is both a day and a timestamp, but a text of a day becomes one of a timestamp by a
space and the canonical text of a time, and every text that this turns into a timestamp is
that of its day, perhaps with blanks after it. For the converse the appended time is
recognized from the end of the text, where its separators stand last.
-/

namespace ColumnSchema

namespace Calendar

variable {number : Nat} {blanks front row text before : List Char}

/-! ## Texts without the blanks at their ends -/

/-- The text without the blanks at its end. -/
def trimmed (text : List Char) : List Char :=
  text.rdropWhile isBlank

theorem exists_trimmed (text : List Char) :
    ∃ blanks, Blanks blanks ∧ text = trimmed text ++ blanks :=
  ⟨text.rtakeWhile isBlank, fun _ => List.mem_rtakeWhile_imp,
    List.rdropWhile_append_rtakeWhile.symm⟩

/-- Blanks after a row of digits are what is cut off. -/
theorem RowWritten.trimmed_append (written : RowWritten number row) (blank : Blanks blanks) :
    trimmed (front ++ (row ++ blanks)) = front ++ row := by
  have reversedRow : RowWritten (digitsValue row.reverse) row.reverse :=
    ⟨fun c member => written.digits c (List.mem_reverse.mp member),
      mt List.reverse_eq_nil_iff.mp written.nonempty, rfl⟩
  have reversedBlank : Blanks blanks.reverse :=
    fun c member => blank c (List.mem_reverse.mp member)
  have skipped : skipBlank (blanks.reverse ++ (row.reverse ++ front.reverse)) =
      row.reverse ++ front.reverse := reversedRow.skipBlank_append reversedBlank
  rw [trimmed, List.rdropWhile, List.reverse_append, List.reverse_append, List.append_assoc,
    ← skipBlank, skipped, ← List.reverse_append, List.reverse_reverse]

/-! ## The time at the end of a text -/

theorem RowWritten.no_colon (written : RowWritten number row) :
    ∀ c ∈ row, (c != ':') = true := by
  intro c member
  rw [bne_iff_ne]
  rintro rfl
  cases written.digits _ member

theorem FieldWritten.no_colon (written : FieldWritten number blanks row) :
    ∀ c ∈ blanks ++ row, (c != ':') = true := by
  refine List.forall_mem_append.mpr ⟨?_, written.written.no_colon⟩
  intro c member
  rw [bne_iff_ne]
  rintro rfl
  cases written.blank _ member

/-- The two separators of a time are the last ones of its text. -/
theorem TimeWritten.exists_hour {time shown : TimeOfDay} (written : TimeWritten time front row)
    (same : text ++ (front ++ row) = before ++ shown.toText) :
    ∃ hour blanks digits rest, FieldWritten hour blanks digits ∧
      front ++ row = blanks ++ (digits ++ rest) ∧
      text ++ (blanks ++ digits) = before ++ padded 2 shown.hour := by
  cases written with
  | @mk _ _ _ blanks hour blanks' minute blanks'' _ clock hourWritten minuteWritten
      secondWritten =>
      have endsInSecond :
          (text ++ (blanks ++ (hour ++ ':' :: (blanks' ++ minute)))) ++ ':' :: (blanks'' ++ row) =
            (before ++ (padded 2 shown.hour ++ ':' :: padded 2 shown.minute)) ++
              ':' :: padded 2 shown.clockSecond := by
        simpa [TimeOfDay.toText] using same
      have endsInMinute := (Cut.last_cancel secondWritten.no_colon
        (rowWritten_padded 2 shown.clockSecond).no_colon rfl rfl endsInSecond).1
      have endsInHour :
          (text ++ (blanks ++ hour)) ++ ':' :: (blanks' ++ minute) =
            (before ++ padded 2 shown.hour) ++ ':' :: padded 2 shown.minute := by
        simpa using endsInMinute
      have hourEq := (Cut.last_cancel minuteWritten.no_colon
        (rowWritten_padded 2 shown.minute).no_colon rfl rfl endsInHour).1
      exact ⟨_, blanks, hour, ':' :: (blanks' ++ (minute ++ ':' :: (blanks'' ++ row))),
        hourWritten, by simp, hourEq⟩

/-- The digits of an hour do not reach into the digits of a day before them, so there are
blanks between them. -/
theorem exists_blanks_of_hour {shown hour : Nat} {digits rest : List Char} (lt : shown < 100)
    (closed : Closed row (blanks ++ (digits ++ rest))) (written : RowWritten number row)
    (hourWritten : FieldWritten hour blanks digits)
    (same : front ++ (row ++ (blanks ++ digits)) = text ++ ' ' :: padded 2 shown) :
    ∃ blanks', Blanks blanks' ∧ text = front ++ (row ++ blanks') := by
  have shownWritten := fieldWritten_padded blanks_nil lt
  rcases List.eq_nil_or_concat blanks with rfl | ⟨blanks', blank, rfl⟩
  · have full : row.length = 2 := closed.resolve_right hourWritten.written.not_ends
    have bothDigits : Digits (row ++ digits) :=
      List.forall_mem_append.mpr ⟨written.digits, hourWritten.written.digits⟩
    have suffix : row ++ digits <:+ padded 2 shown :=
      Cut.suffix_of_kind bothDigits rfl (same ▸ List.suffix_append front (row ++ digits))
    have length_le := Nat.le_trans suffix.length_le shownWritten.length_le
    have nonempty := List.length_pos_of_ne_nil hourWritten.written.nonempty
    rw [List.length_append] at length_le
    omega
  · have lastBlank : (front ++ (row ++ blanks')) ++ blank :: digits =
        text ++ ' ' :: padded 2 shown := by
      simpa using same
    have isBlank := hourWritten.blank blank (by simp)
    have textEq := (Cut.last_cancel hourWritten.written.digits shownWritten.written.digits
      (isDigit_of_isBlank isBlank) rfl lastBlank).1
    exact ⟨blanks', fun c member => hourWritten.blank c (by simp [member]), textEq.symm⟩

end Calendar

open Calendar

/-- The day of a timestamp that ends in a canonical time, a leap second included, is the day
of the text before it. -/
theorem Timestamp.read?_append_toText_iff {text : List Char} {date : Date} {time : TimeOfDay}
    (onClock : time.OnClock) :
    read? (text ++ ' ' :: time.toText) = some { date, time } ↔
      Date.read? (trimmed text) = some date := by
  have hour_lt : time.hour < 100 := by have := onClock.hour; omega
  rw [read?_eq_some_iff, Date.read?_eq_some_iff]
  constructor
  · rintro ⟨front, row, front', row', written, valid, closed, timeWritten, same⟩
    have ends : (front ++ row) ++ (front' ++ row') = (text ++ [' ']) ++ time.toText := by
      simpa using same.symm
    obtain ⟨hour, blanks, digits, rest, hourWritten, timeEq, hourEq⟩ :=
      timeWritten.exists_hour ends
    rw [timeEq] at closed
    obtain ⟨blanks', blank, rfl⟩ := exists_blanks_of_hour hour_lt closed
      written.rowWritten hourWritten (by simpa using hourEq)
    exact ⟨front, row, written, valid, written.rowWritten.trimmed_append blank⟩
  · rintro ⟨front, row, written, valid, trimmedEq⟩
    obtain ⟨blanks, blank, textEq⟩ := exists_trimmed text
    obtain ⟨front', timeWritten, timeEq⟩ :=
      onClock.exists_written (blank.append (by decide : Blanks [' ']))
    have closed : Closed row (front' ++ padded 2 time.clockSecond) := by
      right
      rw [← timeEq, List.append_assoc]
      exact blank.ends (ends_cons _ rfl)
    refine ⟨front, row, front', _, written, valid, closed, timeWritten, ?_⟩
    rw [← timeEq, textEq, trimmedEq]
    simp

/-- A text that a day uses up leaves nothing for the time of a timestamp. -/
theorem Timestamp.read?_eq_none_of_date {text : List Char} {date : Date}
    (read : Date.read? text = some date) : Timestamp.read? text = none := by
  rw [Date.read?, whole?_eq_some_iff] at read
  rw [Timestamp.read?, read]
  rfl

namespace Literal

/-- No text is a literal of both calendar types. A text followed by a space and a time of
day has a timestamp at that time exactly if the text, without the blanks at its end, has
the day of the timestamp. -/
theorem calendar_date_iff_dateTime (text : String) :
    ¬ ((∃ literal, calendar .date text = .ok literal) ∧
        ∃ literal, calendar .dateTime text = .ok literal) ∧
      ∀ (date : Date) (hour minute second : Nat), hour ≤ 23 → minute ≤ 59 → second ≤ 59 →
        (calendar .date (String.ofList (trimmed text.toList)) = .ok (.date date) ↔
          calendar .dateTime
              (text ++ " " ++ String.ofList (TimeOfDay.toText ⟨hour, minute, second, 0⟩)) =
            .ok (.dateTime ⟨date, ⟨hour, minute, second, 0⟩⟩)) := by
  constructor
  · rintro ⟨⟨literal, asDate⟩, ⟨literal', asDateTime⟩⟩
    obtain ⟨isDate, dateRead⟩ := calendar_eq_ok_iff.mp asDate
    obtain ⟨isDateTime, timestampRead⟩ := calendar_eq_ok_iff.mp asDateTime
    cases literal with
    | dateTime => cases isDate
    | date day =>
        cases literal' with
        | date => cases isDateTime
        | dateTime timestamp =>
            have read : Timestamp.read? text.toList = some timestamp := timestampRead
            rw [Timestamp.read?_eq_none_of_date dateRead] at read
            cases read
  · intro date hour minute second hour_le minute_le second_le
    have onClock : TimeOfDay.OnClock ⟨hour, minute, second, 0⟩ :=
      ⟨hour_le, minute_le, .inl ⟨second_le, rfl⟩⟩
    have appended :
        (text ++ " " ++ String.ofList (TimeOfDay.toText ⟨hour, minute, second, 0⟩)).toList =
          text.toList ++ ' ' :: TimeOfDay.toText ⟨hour, minute, second, 0⟩ := by
      simp
    rw [calendar_eq_ok_iff, calendar_eq_ok_iff, appended, String.toList_ofList]
    exact and_congr (iff_of_true rfl rfl) (Timestamp.read?_append_toText_iff onClock).symm

/-- A text of a day that ends in a tab. -/
theorem calendar_date_iff_dateTime_tab :
    calendar .date "2024-2-29" = .ok (.date ⟨2024, 2, 29⟩) ∧
      (¬ ∃ literal, calendar .dateTime "2024-2-29" = .ok literal) ∧
      calendar .dateTime "2024-2-29\t 23:59:00" =
        .ok (.dateTime ⟨⟨2024, 2, 29⟩, ⟨23, 59, 0, 0⟩⟩) := by
  have read : calendar .date "2024-2-29" = .ok (.date ⟨2024, 2, 29⟩) := rfl
  have noTimestamp := (calendar_date_iff_dateTime "2024-2-29").1
  have atTime := (calendar_date_iff_dateTime "2024-2-29\t").2 ⟨2024, 2, 29⟩ 23 59 0
    (by decide) (by decide) (by decide)
  exact ⟨read, fun timestamp => noTimestamp ⟨⟨_, read⟩, timestamp⟩, atTime.mp read⟩

end Literal

end ColumnSchema
