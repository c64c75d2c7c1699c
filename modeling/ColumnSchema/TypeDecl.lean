import ColumnSchema.Rejection

/-!
# Type declarations

A column type as it was declared, before its parameters are checked. Declared
numbers are kept as they are, also those out of range, so that resolution can
report them, and an omitted parameter stays omitted.

A declaration resolves to a scalar type when its primitive takes the parameters
that it declares and they lie in range. Omitted parameters get their defaults,
except the length of a `VARCHAR`, which has none. Parameters out of place are
reported before parameters out of range.
-/

namespace ColumnSchema

/-- The declared digits of a decimal. A scale is declared only after a
precision. -/
structure DecimalParameters where
  precision : Int
  scale : Option Int := none
  deriving DecidableEq, Repr

/-- A declared type: a primitive and whatever parameters follow it. -/
structure TypeDecl where
  primitive : Primitive
  length : Option Int := none
  decimal : Option DecimalParameters := none
  deriving DecidableEq, Repr

namespace TypeDecl

/-- `CHAR` with a declared length. -/
def char (length : Int) : TypeDecl where
  primitive := .char
  length := some length

/-- `VARCHAR` with a declared length. -/
def varchar (length : Int) : TypeDecl where
  primitive := .varchar
  length := some length

/-- `DECIMAL` with a declared precision and scale. -/
def ofDecimal (precision scale : Int) : TypeDecl where
  primitive := .decimal
  decimal := some { precision, scale := some scale }

/-- The declaration that writes a scalar type out in full. The length of an HLL
sketch is not declared. -/
def ofScalar : ScalarType → TypeDecl
  | .char length => char length.toNat
  | .varchar (some length) => varchar length.toNat
  | .decimal precision scale => ofDecimal precision.toNat scale.toNat
  | type => { primitive := type.primitive }

@[simp] theorem primitive_ofScalar (type : ScalarType) :
    (ofScalar type).primitive = type.primitive := by
  rcases type with _ | _ | _ | _ | _ | _ | _ | _ | _ | _ | _ | _ | _ | (_ | _) | _ | _ <;>
    rfl

/-- The declaration as it was written. A length hides the digits, since no type
takes both. -/
def toSql (decl : TypeDecl) : String :=
  match decl.length, decl.decimal with
  | some length, _ => s!"{decl.primitive.keyword}({length})"
  | none, some { precision, scale := some scale } =>
      s!"{decl.primitive.keyword}({precision}, {scale})"
  | none, some { precision, scale := none } =>
      s!"{decl.primitive.keyword}({precision})"
  | none, none => decl.primitive.keyword

end TypeDecl

/-! ## Resolution -/

namespace TypeDecl

/-- Refuses a declared length. -/
def refuseLength (decl : TypeDecl) : Except Rejection Unit :=
  match decl.length with
  | some length => .error (.invalidType (.strayLength decl.primitive length))
  | none => .ok ()

/-- Refuses a declared precision or scale. -/
def refuseDigits (decl : TypeDecl) : Except Rejection Unit :=
  match decl.decimal with
  | some _ => .error (.invalidType (.strayDigits decl.primitive))
  | none => .ok ()

/-- The 32-bit word of a number already known to fit one. -/
def word (number : Int) : UInt32 :=
  number.toNat.toUInt32

/-- Resolution of `CHAR`, whose length is 1 unless declared. -/
def resolveChar (decl : TypeDecl) : Except Rejection ScalarType := do
  decl.refuseDigits
  let length := decl.length.getD 1
  if 1 ≤ length ∧ length ≤ ScalarType.maxCharLength.toNat then
    return .char (word length)
  else
    throw (.invalidType (.charLength length))

/-- Resolution of `VARCHAR`, whose length has to be declared. -/
def resolveVarchar (decl : TypeDecl) : Except Rejection ScalarType := do
  decl.refuseDigits
  match decl.length with
  | none => throw (.invalidType .missingVarcharLength)
  | some length =>
    if 1 ≤ length ∧ length ≤ ScalarType.maxVarcharLength.toNat then
      return .varchar (some (word length))
    else
      throw (.invalidType (.varcharLength length))

/-- The precision of a decimal declaration, or the default one. -/
def decimalPrecision (decl : TypeDecl) : Int :=
  (decl.decimal.map (·.precision)).getD ScalarType.defaultDecimalPrecision.toNat

/-- The scale of a decimal declaration, or the default one. -/
def decimalScale (decl : TypeDecl) : Int :=
  (decl.decimal.bind (·.scale)).getD ScalarType.defaultDecimalScale.toNat

/-- Resolution of `DECIMAL`. The precision is judged before the scale, and each
of them before the two are compared. -/
def resolveDecimal (decl : TypeDecl) : Except Rejection ScalarType := do
  decl.refuseLength
  let precision := decl.decimalPrecision
  let scale := decl.decimalScale
  if ¬ (1 ≤ precision ∧ precision ≤ ScalarType.maxDecimalPrecision.toNat) then
    throw (.invalidType (.decimalPrecision precision))
  else if ¬ (0 ≤ scale ∧ scale ≤ ScalarType.maxDecimalScale.toNat) then
    throw (.invalidType (.decimalScale scale))
  else if precision < scale then
    throw (.invalidType (.scaleAbovePrecision scale precision))
  else
    return .decimal (word precision) (word scale)

/-- Resolution of a primitive that takes no parameter. -/
def resolvePlain (decl : TypeDecl) : Except Rejection ScalarType := do
  decl.refuseLength
  decl.refuseDigits
  return .ofPrimitive decl.primitive

/-- The scalar type that a declaration stands for. A time of day is no column
type, whatever it declares. -/
def resolve (decl : TypeDecl) : Except Rejection ScalarType :=
  match decl.primitive with
  | .time => .error (.unsupportedDataType .time)
  | .char => decl.resolveChar
  | .varchar => decl.resolveVarchar
  | .decimal => decl.resolveDecimal
  | _ => decl.resolvePlain

end TypeDecl

end ColumnSchema
