import ColumnSchema.Calendar
import ColumnSchema.Number.Binary
import ColumnSchema.Number.Decimal
import ColumnSchema.Rejection

/-!
# Literals and default values

The values that a default text can denote, one reader for each kind. A reader that
finds no value of its kind rejects the text and names it. A default text is valid for a
column type when the type's own literal can be read from it and stored without loss.
Types without a literal form take no default.
-/

namespace ColumnSchema

/-! ## Literals -/

namespace Primitive

/-- The width of the whole numbers that fit a 64-bit word. -/
def wordBits? : Primitive → Option Nat
  | tinyInt => some 8
  | smallInt => some 16
  | int => some 32
  | bigInt => some 64
  | _ => none

end Primitive

/-- A literal of a calendar type. -/
inductive CalendarLiteral where
  | date (date : Date)
  | dateTime (timestamp : Timestamp)
  deriving DecidableEq, Repr

namespace Literal

/-- Whether a whole number has the width of a type. No number has the width of a
type without one. -/
def hasWidth (value : Int) (primitive : Primitive) : Bool :=
  match primitive.wordBits? with
  | some bits => decide (Integer.Fits bits value)
  | none => false

/-- A whole number for a column of at most 64 bits. A text is first read as a
64-bit number, so one that is longer than that is malformed for every width. -/
def integer (text : String) (type : ScalarType) : Except Rejection Int :=
  match Integer.read 64 text.toList with
  | .error _ => .error (.invalidNumber text)
  | .ok value =>
    if hasWidth value type.primitive then
      .ok value
    else
      .error (.numberOutOfRange text type)

/-- A whole number of 128 bits. -/
def largeInteger (text : String) : Except Rejection Int :=
  match Integer.read 128 text.toList with
  | .error .malformed => .error (.invalidLargeInt text)
  | .error .outOfRange => .error (.largeIntOutOfRange text)
  | .ok value => .ok value

/-- A number rounded to double precision. -/
def double (text : String) : Except Rejection Double :=
  match Double.read? text.toList with
  | some value => .ok value
  | none => .error (.invalidFloat text)

/-- A number that single precision holds. A text is always read at double precision
first, and loses something if the double does not narrow exactly. -/
def single (text : String) : Except Rejection Double := do
  let value ← double text
  if value.isSingle then return value else throw (.precisionLoss text)

/-- The narrower of the two floating-point types that holds a number without
loss. -/
def naturalType (value : Double) : Primitive :=
  if value.isSingle then .float else .double

/-- A decimal number. -/
def decimal (text : String) : Except Rejection Decimal :=
  match Decimal.read? text.toList with
  | some value => .ok value
  | none => .error (.invalidDecimal text)

/-- Accepts a decimal whose digits a column of the given precision and scale
holds. -/
def checkDigits (value : Decimal) (precision scale : Nat) : Except Rejection Unit :=
  if value.Fits precision scale then
    .ok ()
  else
    .error (.decimalOverflow precision scale value.precision value.scale)

/-- A literal for one of the two calendar types; the others have none. -/
def calendar (primitive : Primitive) (text : String) :
    Except Rejection CalendarLiteral :=
  let literal? :=
    match primitive with
    | .date => (Date.read? text.toList).map .date
    | .dateTime => (Timestamp.read? text.toList).map .dateTime
    | _ => none
  match literal? with
  | some literal => .ok literal
  | none => .error (.invalidDate text)

end Literal

/-! ## Default values -/

namespace ScalarType

/-- The most characters that a default text may have. A length that was never
declared leaves room for the empty text only. -/
def textCapacity (type : ScalarType) : Nat :=
  (type.length?.map UInt32.toNat).getD 0

/-- Accepts a text that fits the type's length, counted in characters. -/
def checkLength (type : ScalarType) (text : String) : Except Rejection Unit :=
  if text.length ≤ type.textCapacity then .ok () else .error (.defaultTooLong text)

/-- Accepts a text that is a valid default value for a column of the type. -/
def checkDefault (type : ScalarType) (text : String) : Except Rejection Unit := do
  match type with
  | .tinyInt | .smallInt | .int | .bigInt =>
    let _ ← Literal.integer text type
  | .largeInt =>
    let _ ← Literal.largeInteger text
  | .float =>
    let _ ← Literal.single text
  | .double =>
    let _ ← Literal.double text
  | .decimal precision scale =>
    let value ← Literal.decimal text
    Literal.checkDigits value precision.toNat scale.toNat
  | .date | .dateTime =>
    let _ ← Literal.calendar type.primitive text
  | .char _ | .varchar _ | .hll =>
    type.checkLength text
  | .boolean | .time | .bitmap =>
    throw (.unsupportedType type)

/-- Accepts a valid default, and the lack of one. -/
def checkOptionalDefault (type : ScalarType) : Option String → Except Rejection Unit
  | some text => type.checkDefault text
  | none => .ok ()

end ScalarType

end ColumnSchema
