import ColumnSchema.Number.Numeral

/-!
# Dates and times

Days of the Gregorian calendar, extended backwards to the year 0, and the seconds
of a day. A leap second is the second 59 with a full second of nanoseconds added.

A date is written as a year, a month and a day with hyphens between them; a time is an
hour, a minute and a second with colons between them; a timestamp is a date, blanks or
none, and a time. Blanks may stand in front of each number and nowhere else. Each
reader takes as many digits as its field has and hands the rest of the text on.
-/

namespace ColumnSchema

/-! ## Days and seconds -/

/-- A day. -/
structure Date where
  year : Nat
  month : Nat
  day : Nat
  deriving DecidableEq, Repr

namespace Date

/-- The years with a 29th of February. -/
def isLeapYear (year : Nat) : Bool :=
  year % 4 == 0 && (year % 100 != 0 || year % 400 == 0)

/-- The length of a month; what is no month has no day. -/
def daysInMonth (year month : Nat) : Nat :=
  match month with
  | 1 | 3 | 5 | 7 | 8 | 10 | 12 => 31
  | 4 | 6 | 9 | 11 => 30
  | 2 => if isLeapYear year then 29 else 28
  | _ => 0

/-- The last year that a column stores. -/
def maxYear : Nat := 9999

/-- Whether the calendar has the day and a column stores its year. -/
def Valid (date : Date) : Prop :=
  date.year ≤ maxYear ∧ 1 ≤ date.day ∧ date.day ≤ daysInMonth date.year date.month

instance (date : Date) : Decidable date.Valid :=
  inferInstanceAs (Decidable (_ ∧ _))

end Date

/-- A second of a day. -/
structure TimeOfDay where
  hour : Nat
  minute : Nat
  second : Nat
  nanosecond : Nat
  deriving DecidableEq, Repr

namespace TimeOfDay

/-- The time that a clock shows. It may show a 61st second, at any time of day. -/
def ofClock? (hour minute second : Nat) : Option TimeOfDay :=
  if hour ≤ 23 ∧ minute ≤ 59 ∧ second ≤ 60 then
    if second = 60 then
      some { hour, minute, second := 59, nanosecond := 1000000000 }
    else
      some { hour, minute, second, nanosecond := 0 }
  else
    none

end TimeOfDay

/-! ## Blank characters -/

/-- The code points of the blank characters, those with the Unicode property
`White_Space`, as closed ranges in ascending order. -/
def blankRanges : List (Nat × Nat) :=
  [(0x0009, 0x000D), (0x0020, 0x0020), (0x0085, 0x0085), (0x00A0, 0x00A0),
    (0x1680, 0x1680), (0x2000, 0x200A), (0x2028, 0x2029), (0x202F, 0x202F),
    (0x205F, 0x205F), (0x3000, 0x3000)]

/-- Whether a character is blank. -/
def isBlank (c : Char) : Bool :=
  blankRanges.any fun (first, last) => first ≤ c.toNat && c.toNat ≤ last

/-- The text from its first character that is not blank. -/
def skipBlank (text : List Char) : List Char :=
  text.dropWhile isBlank

/-! ## Reading dates and times -/

namespace Calendar

/-- The number in the digits that a text starts with, at most `width` of them, and
the text after them. -/
def digits? (width : Nat) (text : List Char) : Option (Nat × List Char) :=
  let digits := (text.take width).takeWhile Char.isDigit
  if digits.isEmpty then none else some (digitsValue digits, text.drop digits.length)

/-- A field of one or two digits. -/
def field? (text : List Char) : Option (Nat × List Char) :=
  digits? 2 (skipBlank text)

/-- A year of one to four digits. A sign lifts the limit on the digits, and the
number must then not be negative. -/
def year? (text : List Char) : Option (Nat × List Char) := do
  match skipBlank text with
  | '+' :: rest => digits? rest.length rest
  | '-' :: rest =>
    let (year, rest) ← digits? rest.length rest
    if year = 0 then some (0, rest) else none
  | rest => digits? 4 rest

/-- The text after a separator. -/
def after? (separator : Char) : List Char → Option (List Char)
  | [] => none
  | c :: rest => if c = separator then some rest else none

/-- A day that the calendar has, at the front of a text. -/
def date? (text : List Char) : Option (Date × List Char) := do
  let (year, text) ← year? text
  let text ← after? '-' text
  let (month, text) ← field? text
  let text ← after? '-' text
  let (day, text) ← field? text
  let date : Date := { year, month, day }
  if date.Valid then some (date, text) else none

/-- A time of day at the front of a text. -/
def time? (text : List Char) : Option (TimeOfDay × List Char) := do
  let (hour, text) ← field? text
  let text ← after? ':' text
  let (minute, text) ← field? text
  let text ← after? ':' text
  let (second, text) ← field? text
  let time ← TimeOfDay.ofClock? hour minute second
  return (time, text)

/-- The value of a reader that used up its text. -/
def whole? {α : Type} : Option (α × List Char) → Option α
  | some (value, []) => some value
  | _ => none

end Calendar

namespace Date

/-- The day that a whole text denotes. -/
def read? (text : List Char) : Option Date :=
  Calendar.whole? (Calendar.date? text)

end Date

/-- A second of a day of the calendar. -/
structure Timestamp where
  date : Date
  time : TimeOfDay
  deriving DecidableEq, Repr

namespace Timestamp

/-- The timestamp that a whole text denotes. The blanks between date and time are
those that may stand in front of the hour. -/
def read? (text : List Char) : Option Timestamp :=
  Calendar.whole? do
    let (date, text) ← Calendar.date? text
    let (time, text) ← Calendar.time? text
    return ({ date, time }, text)

end Timestamp

end ColumnSchema
