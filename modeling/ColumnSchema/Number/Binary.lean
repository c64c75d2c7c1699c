import ColumnSchema.Number.Numeral

/-!
# Binary floating point

A finite magnitude is a whole number of units, where a unit is a power of two. A
format bounds the number of units and the power. Rounding takes a quotient of
whole numbers to the nearest magnitude of a format, a tie to the even one, and
yields nothing when that would lie beyond the largest magnitude.

A double is a sign and a magnitude of the 64-bit format. It is read from a numeral
that an exponent may follow, by rounding the number they denote to the nearest
double. Texts beyond the largest double, and the words for infinity and for
undefined results, are not read.
-/

namespace ColumnSchema

/-! ## Magnitudes -/

/-- The magnitude `mantissa * 2 ^ exponent`. -/
structure Binary where
  mantissa : Nat
  exponent : Int
  deriving DecidableEq, Repr

namespace Binary

/-- The magnitude is the quotient of this number by `denominator`. -/
def numerator (value : Binary) : Nat :=
  value.mantissa * Nat.pow 2 value.exponent.toNat

/-- A power of two, and 1 for a whole magnitude written with a positive
exponent. -/
def denominator (value : Binary) : Nat :=
  Nat.pow 2 (-value.exponent).toNat

/-- Whether two magnitudes are equal, however they are written. -/
def sameValue (left right : Binary) : Bool :=
  left.numerator * right.denominator == right.numerator * left.denominator

end Binary

/-- The quotient rounded to the nearest whole number; a tie goes to the even
one. -/
def roundQuotient (numerator denominator : Nat) : Nat :=
  let floor := numerator / denominator
  let rest := numerator % denominator
  if 2 * rest < denominator then
    floor
  else if denominator < 2 * rest then
    floor + 1
  else
    floor + floor % 2

/-- The exponent of the largest power of two that is at most the quotient of two
positive numbers. The lengths of the two leave only two candidates. -/
def floorLog2 (numerator denominator : Nat) : Int :=
  let candidate : Int := numerator.log2 - denominator.log2
  if denominator * Nat.pow 2 candidate.toNat ≤ numerator * Nat.pow 2 (-candidate).toNat then
    candidate
  else
    candidate - 1

/-- A floating-point format: mantissas below `2 ^ precision`, and the exponents of
its smallest and its largest unit. -/
structure BinaryFormat where
  precision : Nat
  minExponent : Int
  maxExponent : Int
  deriving DecidableEq, Repr

namespace BinaryFormat

/-- The 64-bit format. -/
def double : BinaryFormat where
  precision := 53
  minExponent := -1074
  maxExponent := 971

/-- The 32-bit format. -/
def single : BinaryFormat where
  precision := 24
  minExponent := -149
  maxExponent := 104

/-- Zero, in the smallest unit. -/
def zero (format : BinaryFormat) : Binary where
  mantissa := 0
  exponent := format.minExponent

/-- The unit in which a positive quotient is rounded: the one that leaves it
`precision` binary digits, unless the format has no unit so small. -/
def unitExponent (format : BinaryFormat) (numerator denominator : Nat) : Int :=
  max format.minExponent (floorLog2 numerator denominator + 1 - format.precision)

/-- Brings a mantissa that was rounded up to `2 ^ precision` back below it, and
drops a magnitude whose unit is too large for the format. -/
def settle? (format : BinaryFormat) (value : Binary) : Option Binary :=
  let settled : Binary :=
    if value.mantissa < Nat.pow 2 format.precision then value
    else { mantissa := value.mantissa / 2, exponent := value.exponent + 1 }
  if settled.exponent ≤ format.maxExponent then some settled else none

/-- The magnitude of the format that is nearest to a quotient. -/
def round? (format : BinaryFormat) (numerator denominator : Nat) : Option Binary :=
  if numerator = 0 then
    some format.zero
  else
    let exponent := format.unitExponent numerator denominator
    let mantissa :=
      roundQuotient (numerator * Nat.pow 2 (-exponent).toNat)
        (denominator * Nat.pow 2 exponent.toNat)
    format.settle? { mantissa, exponent }

/-- The magnitude of the format that is nearest to `significand * 10 ^ exponent`.
A power of ten lies above the power of eight, so magnitudes far outside the format
are settled before any power of ten is formed. -/
def roundDecimal? (format : BinaryFormat) (significand : Nat) (exponent : Int) :
    Option Binary :=
  if significand = 0 then
    some format.zero
  else if 0 ≤ exponent ∧
      format.maxExponent + format.precision ≤ significand.log2 + 3 * exponent then
    none
  else if exponent < 0 ∧
      significand.log2 + 1 + 3 * exponent < format.minExponent then
    some format.zero
  else
    format.round? (significand * Nat.pow 10 exponent.toNat) (Nat.pow 10 (-exponent).toNat)

end BinaryFormat

/-! ## Doubles -/

/-- A finite double. The two zeros differ in their sign only. -/
structure Double where
  sign : Sign
  magnitude : Binary
  deriving DecidableEq, Repr

namespace Double

/-- The power of ten that a whole text announces: none for the empty text, else a
mark, an optional sign and one or more digits. -/
def exponent? : List Char → Option Int
  | [] => some 0
  | mark :: text =>
    let (sign, digits) := Sign.split text
    if Numeral.isExponentMark mark && isDigits digits then
      some (sign.apply (digitsValue digits))
    else
      none

/-- The double nearest to the number that a text denotes, ties to even. -/
def read? (text : List Char) : Option Double := do
  let (numeral, rest) ← Numeral.scan? text
  let exponent ← exponent? rest
  let magnitude ← BinaryFormat.double.roundDecimal? numeral.significand
    (exponent - numeral.fraction.length)
  return { sign := numeral.sign, magnitude }

/-- Whether the number is a single as well: rounded to one, it stays the same. -/
def isSingle (value : Double) : Bool :=
  match BinaryFormat.single.round? value.magnitude.numerator
      value.magnitude.denominator with
  | some single => single.sameValue value.magnitude
  | none => false

/-- The 64-bit encoding: a sign bit, eleven bits that count units up from the
smallest, and the mantissa without the leading bit that such a unit implies. -/
def bits (value : Double) : UInt64 :=
  let { mantissa, exponent } := value.magnitude
  let body :=
    if mantissa < Nat.pow 2 52 then mantissa
    else (exponent + 1075).toNat * Nat.pow 2 52 + (mantissa - Nat.pow 2 52)
  match value.sign with
  | .positive => body.toUInt64
  | .negative => (Nat.pow 2 63 + body).toUInt64

end Double

end ColumnSchema
