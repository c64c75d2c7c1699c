/-!
# Numerals and whole numbers

The parts that every numeric text is made of, an optional sign and rows of ASCII decimal
digits read in base ten, and the two kinds of text made of them alone. A whole number of
bounded width is read from left to right into a two's complement word, so the fault of a
text is the first that the reader meets: a character that is no digit, or a digit with
which the number leaves the width. A numeral has at most one point before, between or
after its digits; at least one digit is there, and either side of the point may be empty.
-/

namespace ColumnSchema

/-! ## Signs and digit rows -/

/-- The sign in front of a magnitude. Zero can have either. -/
inductive Sign where
  | positive
  | negative
  deriving DecidableEq, Repr

namespace Sign

/-- The number with this sign and the given magnitude. -/
def apply : Sign → Nat → Int
  | positive, magnitude => magnitude
  | negative, magnitude => -magnitude

@[simp] theorem natAbs_apply (sign : Sign) (magnitude : Nat) :
    (sign.apply magnitude).natAbs = magnitude := by
  cases sign <;> simp [apply]

/-- Splits off one leading sign. A text without one is positive. -/
def split : List Char → Sign × List Char
  | '+' :: rest => (positive, rest)
  | '-' :: rest => (negative, rest)
  | text => (positive, text)

end Sign

/-- The number that a row of decimal digits denotes; leading zeros add nothing and
the empty row denotes zero. -/
def digitsValue (digits : List Char) : Nat :=
  Nat.ofDigitChars 10 digits 0

/-- Whether a text is a row of one or more decimal digits. -/
def isDigits (text : List Char) : Bool :=
  !text.isEmpty && text.all Char.isDigit

/-- The decimal digits of a number, without leading zeros; zero is the row `0`. -/
def decimalDigits (number : Nat) : List Char :=
  Nat.toDigits 10 number

@[simp] theorem digitsValue_decimalDigits (number : Nat) :
    digitsValue (decimalDigits number) = number :=
  Nat.ofDigitChars_toDigits (by decide) (by decide)

theorem isDigit_of_mem_decimalDigits {number : Nat} {c : Char}
    (member : c ∈ decimalDigits number) : c.isDigit = true :=
  Nat.isDigit_of_mem_toDigits (by decide) (by decide) member

/-! ## Whole numbers -/

namespace Integer

/-- What stops the reader first. -/
inductive Fault where
  | malformed
  | outOfRange
  deriving DecidableEq, Repr

/-- The range of a two's complement word. -/
def Fits (bits : Nat) (value : Int) : Prop :=
  -Int.pow 2 (bits - 1) ≤ value ∧ value < Int.pow 2 (bits - 1)

instance (bits : Nat) (value : Int) : Decidable (Fits bits value) :=
  inferInstanceAs (Decidable (_ ∧ _))

/-- Reads the digits that are left, given the magnitude of those already read. -/
def scan (bits : Nat) (sign : Sign) : Nat → List Char → Except Fault Int
  | magnitude, [] => .ok (sign.apply magnitude)
  | magnitude, c :: rest =>
    if c.isDigit then
      let next := Nat.ofDigitChars 10 [c] magnitude
      if Fits bits (sign.apply next) then
        scan bits sign next rest
      else
        .error .outOfRange
    else
      .error .malformed

/-- Reads a whole text. A sign alone is malformed, like the empty text. -/
def read (bits : Nat) (text : List Char) : Except Fault Int :=
  match Sign.split text with
  | (_, []) => .error .malformed
  | (sign, digits) => scan bits sign 0 digits

end Integer

/-! ## Numerals -/

/-- The digits before and after the point of a numeral, with its sign. -/
structure Numeral where
  sign : Sign
  whole : List Char
  fraction : List Char
  deriving DecidableEq, Repr

namespace Numeral

/-- The number that the digits denote when the point is left out. -/
def significand (numeral : Numeral) : Nat :=
  digitsValue (numeral.whole ++ numeral.fraction)

/-- Splits off a point and the digits after it, if a point comes next. -/
def splitFraction : List Char → List Char × List Char
  | '.' :: rest => (rest.takeWhile Char.isDigit, rest.dropWhile Char.isDigit)
  | text => ([], text)

/-- The longest numeral that a text starts with, and what follows it. -/
def scan? (text : List Char) : Option (Numeral × List Char) :=
  let (sign, text) := Sign.split text
  let whole := text.takeWhile Char.isDigit
  let (fraction, rest) := splitFraction (text.dropWhile Char.isDigit)
  if whole.isEmpty && fraction.isEmpty then
    none
  else
    some ({ sign, whole, fraction }, rest)

/-- The letter that announces a power of ten. -/
def isExponentMark (c : Char) : Bool :=
  c == 'e' || c == 'E'

end Numeral

end ColumnSchema
