import ColumnSchema.Vocabulary

/-!
# Scalar types

A primitive together with the parameters that it carries: a length for text, a
precision and a scale for decimals. Parameters are 32-bit words and are not
checked here; resolution of a declaration yields only the ones in range.
-/

namespace ColumnSchema

/-- A concrete column type. The constructors admit a parameter only where the
primitive has one; a `VARCHAR` can still lack its length, because no length is
its default. -/
inductive ScalarType where
  | boolean
  | tinyInt
  | smallInt
  | int
  | bigInt
  | largeInt
  | float
  | double
  | decimal (precision scale : UInt32)
  | date
  | dateTime
  | time
  | char (length : UInt32)
  | varchar (length : Option UInt32)
  | hll
  | bitmap
  deriving DecidableEq, Repr

namespace ScalarType

/-- The longest text a `CHAR` column may hold. -/
def maxCharLength : UInt32 := 255

/-- The longest text a `VARCHAR` column may hold. -/
def maxVarcharLength : UInt32 := 65533

/-- The most digits a `DECIMAL` column may hold. -/
def maxDecimalPrecision : UInt32 := 27

/-- The most fraction digits a `DECIMAL` column may hold. -/
def maxDecimalScale : UInt32 := 9

/-- The precision of a `DECIMAL` that declares none. -/
def defaultDecimalPrecision : UInt32 := 10

/-- The scale of a `DECIMAL` that declares none. -/
def defaultDecimalScale : UInt32 := 0

/-- The storage length of an HLL sketch. -/
def hllLength : UInt32 := 16385

/-- The type of a primitive with its default parameters. -/
def ofPrimitive : Primitive → ScalarType
  | .boolean => boolean
  | .tinyInt => tinyInt
  | .smallInt => smallInt
  | .int => int
  | .bigInt => bigInt
  | .largeInt => largeInt
  | .float => float
  | .double => double
  | .decimal => decimal defaultDecimalPrecision defaultDecimalScale
  | .date => date
  | .dateTime => dateTime
  | .time => time
  | .char => char 1
  | .varchar => varchar none
  | .hll => hll
  | .bitmap => bitmap

/-- The base kind of the type. -/
def primitive : ScalarType → Primitive
  | boolean => .boolean
  | tinyInt => .tinyInt
  | smallInt => .smallInt
  | int => .int
  | bigInt => .bigInt
  | largeInt => .largeInt
  | float => .float
  | double => .double
  | decimal _ _ => .decimal
  | date => .date
  | dateTime => .dateTime
  | time => .time
  | char _ => .char
  | varchar _ => .varchar
  | hll => .hll
  | bitmap => .bitmap

@[simp] theorem primitive_ofPrimitive (primitive : Primitive) :
    (ofPrimitive primitive).primitive = primitive := by
  cases primitive <;> rfl

/-- The most characters a value may have, for text and for HLL sketches. -/
def length? : ScalarType → Option UInt32
  | char length => some length
  | varchar length => length
  | hll => some hllLength
  | _ => none

/-- The number of digits, for decimals. -/
def precision? : ScalarType → Option UInt32
  | decimal precision _ => some precision
  | _ => none

/-- The number of fraction digits, for decimals. -/
def scale? : ScalarType → Option UInt32
  | decimal _ scale => some scale
  | _ => none

/-- The type as a column definition writes it. The length of an HLL sketch is
fixed and stays unwritten. -/
def toSql : ScalarType → String
  | char length => s!"CHAR({length})"
  | varchar (some length) => s!"VARCHAR({length})"
  | decimal precision scale => s!"DECIMAL({precision}, {scale})"
  | type => type.primitive.keyword

end ScalarType

end ColumnSchema
