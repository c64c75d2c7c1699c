import ColumnSchema.Literal
import ColumnSchema.Proofs.Outcome

/-!
# Faults of literals

Every reader of literals refuses a text with a fault of literals, and so does the check
of a default, whatever the type of the column.
-/

namespace ColumnSchema

/-- The rejection is about a text that was to be a literal. -/
def Rejection.IsLiteralFault : Rejection → Prop
  | invalidNumber _ | numberOutOfRange _ _ | invalidLargeInt _ | largeIntOutOfRange _
  | invalidFloat _ | precisionLoss _ | invalidDecimal _ | decimalOverflow _ _ _ _
  | invalidDate _ | defaultTooLong _ | unsupportedType _ => True
  | _ => False

namespace Literal

open Outcome (Refuses)

theorem refuses_integer (text : String) (type : ScalarType) :
    Refuses Rejection.IsLiteralFault (integer text type) := by
  rw [integer]
  split
  next => trivial
  next =>
    split
    next => trivial
    next => trivial

theorem refuses_largeInteger (text : String) :
    Refuses Rejection.IsLiteralFault (largeInteger text) := by
  rw [largeInteger]
  split
  next => trivial
  next => trivial
  next => trivial

theorem refuses_double (text : String) : Refuses Rejection.IsLiteralFault (double text) := by
  rw [double]
  split
  next => trivial
  next => trivial

theorem refuses_single (text : String) : Refuses Rejection.IsLiteralFault (single text) := by
  rw [single]
  apply (refuses_double text).bind
  intro value
  split
  next => trivial
  next => trivial

theorem refuses_decimal (text : String) : Refuses Rejection.IsLiteralFault (decimal text) := by
  rw [decimal]
  split
  next => trivial
  next => trivial

theorem refuses_checkDigits (value : Decimal) (precision scale : Nat) :
    Refuses Rejection.IsLiteralFault (checkDigits value precision scale) := by
  rw [checkDigits]
  split
  next => trivial
  next => trivial

theorem refuses_calendar (primitive : Primitive) (text : String) :
    Refuses Rejection.IsLiteralFault (calendar primitive text) := by
  rw [calendar.eq_def]
  dsimp only
  split
  next => trivial
  next => trivial

end Literal

namespace ScalarType

open Outcome (Refuses)

theorem refuses_checkLength (type : ScalarType) (text : String) :
    Refuses Rejection.IsLiteralFault (type.checkLength text) := by
  rw [checkLength]
  split
  next => trivial
  next => trivial

theorem refuses_checkDefault (type : ScalarType) (text : String) :
    Refuses Rejection.IsLiteralFault (type.checkDefault text) := by
  cases type with
  | tinyInt | smallInt | int | bigInt =>
      exact (Literal.refuses_integer text _).bind fun _ => trivial
  | largeInt => exact (Literal.refuses_largeInteger text).bind fun _ => trivial
  | float => exact (Literal.refuses_single text).bind fun _ => trivial
  | double => exact (Literal.refuses_double text).bind fun _ => trivial
  | decimal precision scale =>
      exact (Literal.refuses_decimal text).bind fun value =>
        Literal.refuses_checkDigits value precision.toNat scale.toNat
  | date | dateTime => exact (Literal.refuses_calendar _ text).bind fun _ => trivial
  | char | varchar | hll => exact refuses_checkLength _ text
  | boolean | time | bitmap => trivial

theorem refuses_checkOptionalDefault (type : ScalarType) (defaultText : Option String) :
    Refuses Rejection.IsLiteralFault (type.checkOptionalDefault defaultText) := by
  cases defaultText with
  | none => trivial
  | some text => exact type.refuses_checkDefault text

end ScalarType

end ColumnSchema
