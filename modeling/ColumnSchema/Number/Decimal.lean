import ColumnSchema.Number.Numeral

/-!
# Decimal numbers

A decimal is a sign, a mantissa of at most 96 bits and a scale, the number of its
digits after the point. Trailing zeros count: `1.0` and `1.00` are different
decimals of one value.

A decimal is read from a numeral that a power of ten may follow. The numeral keeps
as many fraction digits as the mantissa and the scale have room for and is rounded
half up at the first digit without room. The power of ten then moves the point
without touching the digits, as far as the scale goes.
-/

namespace ColumnSchema

/-- The number `mantissa / 10 ^ scale` with its sign. -/
structure Decimal where
  sign : Sign
  mantissa : Nat
  scale : Nat
  mantissa_lt : mantissa < Nat.pow 2 96
  scale_le : scale ≤ 28
  deriving DecidableEq, Repr

namespace Decimal

/-- The decimal with the given parts, if both are in range. -/
def ofParts? (sign : Sign) (mantissa scale : Nat) : Option Decimal :=
  if inRange : mantissa < Nat.pow 2 96 ∧ scale ≤ 28 then
    some { sign, mantissa, scale, mantissa_lt := inRange.1, scale_le := inRange.2 }
  else
    none

/-- How many digits the mantissa has; a lone zero counts as one. -/
def precision (value : Decimal) : Nat :=
  (decimalDigits value.mantissa).length

/-- How many digits stand before the point, leading zeros left out. Zero has
none, however it is spelled. -/
def wholeDigits (value : Decimal) : Nat :=
  if value.mantissa = 0 then 0 else value.precision - value.scale

/-- Whether a column of the given precision and scale holds the number with all
its digits. Room for fraction digits cannot be used for whole digits. -/
def Fits (value : Decimal) (precision scale : Nat) : Prop :=
  value.scale ≤ scale ∧ value.wholeDigits ≤ precision - scale

instance (value : Decimal) (precision scale : Nat) :
    Decidable (value.Fits precision scale) :=
  inferInstanceAs (Decidable (_ ∧ _))

/-- The digits of the mantissa, with zeros in front where the scale asks for more
digits than there are. At least one digit stands before the point. -/
def paddedDigits (value : Decimal) : List Char :=
  (decimalDigits value.mantissa).leftpad (value.scale + 1) '0'

/-- The digits before the point. -/
def wholeText (value : Decimal) : List Char :=
  value.paddedDigits.take (value.paddedDigits.length - value.scale)

/-- The digits after the point. -/
def fractionText (value : Decimal) : List Char :=
  value.paddedDigits.drop (value.paddedDigits.length - value.scale)

/-- The point splits the digits and loses none. -/
@[simp] theorem wholeText_append_fractionText (value : Decimal) :
    value.wholeText ++ value.fractionText = value.paddedDigits :=
  List.take_append_drop _ _

/-- The scale is shown by the number of fraction digits, zeros included. -/
@[simp] theorem length_fractionText (value : Decimal) :
    value.fractionText.length = value.scale := by
  have room : value.scale < value.paddedDigits.length := by
    rw [paddedDigits, List.length_leftpad]
    omega
  rw [fractionText, List.length_drop]
  omega

/-- The decimal as text: a minus sign if it is negative, the whole digits, and a
point with the fraction digits if there are any. -/
def toText (value : Decimal) : List Char :=
  let sign := match value.sign with
    | .positive => []
    | .negative => ['-']
  let fraction := if value.scale = 0 then [] else '.' :: value.fractionText
  sign ++ value.wholeText ++ fraction

end Decimal

/-! ## Reading decimals -/

namespace Decimal

/-- The fraction digits that still have room, joined to the mantissa one by one:
the mantissa and scale reached, and the digits left over. -/
def absorb (mantissa scale : Nat) : List Char → Nat × Nat × List Char
  | [] => (mantissa, scale, [])
  | c :: rest =>
    let next := Nat.ofDigitChars 10 [c] mantissa
    if next < Nat.pow 2 96 ∧ scale < 28 then
      absorb next (scale + 1) rest
    else
      (mantissa, scale, c :: rest)

/-- Adds one to the last digit. When the mantissa has no room for that, the last
fraction digit is rounded away as well. -/
def roundUp? (sign : Sign) (mantissa : Nat) : Nat → Option Decimal
  | 0 => ofParts? sign (mantissa + 1) 0
  | scale + 1 =>
    if mantissa + 1 < Nat.pow 2 96 then
      ofParts? sign (mantissa + 1) (scale + 1)
    else
      ofParts? sign ((mantissa + 1 + 4) / 10) scale

/-- A numeral that denotes zero, or is rounded to it, gives a zero without sign. -/
def unsignZero (value : Decimal) : Decimal :=
  if value.mantissa = 0 then { value with sign := .positive } else value

/-- The decimal that a numeral denotes, rounded half up where its fraction digits
run out of room. Whole digits have to fit. -/
def ofNumeral? (numeral : Numeral) : Option Decimal :=
  let (mantissa, scale, rest) := absorb (digitsValue numeral.whole) 0 numeral.fraction
  let rounded :=
    match rest with
    | [] => ofParts? numeral.sign mantissa scale
    | dropped :: _ =>
      if digitsValue [dropped] < 5 then
        ofParts? numeral.sign mantissa scale
      else
        roundUp? numeral.sign mantissa scale
  rounded.map unsignZero

/-- The digits of a power of ten, which may follow a plus sign. No power above 28
is read. -/
def power? (text : List Char) : Option Nat :=
  let digits := match text with
    | '+' :: rest => rest
    | _ => text
  if isDigits digits && digitsValue digits ≤ 28 then some (digitsValue digits) else none

/-- The number divided by a power of ten. The digits stay, up to the largest scale;
those beyond it are rounded away half up. The sign stays even of a number that
becomes zero. -/
def scaleDown? (value : Decimal) (power : Nat) : Option Decimal :=
  let scale := value.scale + power
  if scale ≤ 28 then
    ofParts? value.sign value.mantissa scale
  else
    let unit := Nat.pow 10 (scale - 28)
    ofParts? value.sign ((value.mantissa + unit / 2) / unit) 28

/-- The number multiplied by a power of ten. The point moves through the fraction
digits there are, and zeros are appended after them. -/
def scaleUp? (value : Decimal) (power : Nat) : Option Decimal :=
  if power ≤ value.scale then
    ofParts? value.sign value.mantissa (value.scale - power)
  else
    ofParts? value.sign (value.mantissa * Nat.pow 10 (power - value.scale)) 0

/-- Applies what follows the mark of a power of ten: a minus sign divides. -/
def applyPower? (value : Decimal) : List Char → Option Decimal
  | '-' :: text => (power? text).bind value.scaleDown?
  | text => (power? text).bind value.scaleUp?

/-- The decimal that a whole text denotes. -/
def read? (text : List Char) : Option Decimal :=
  match Numeral.scan? text with
  | none => none
  | some (numeral, []) => ofNumeral? numeral
  | some (numeral, mark :: power) =>
    if Numeral.isExponentMark mark then
      (ofNumeral? numeral).bind fun value => value.applyPower? power
    else
      none

end Decimal

end ColumnSchema
