import ColumnSchema.ScalarType

/-!
# Rejections

Why a column definition is refused. Each cause is a constructor that holds what
its message shows; the wording, the diagnostic code and the help text are
functions of the cause. Texts are quoted into messages as they are.
-/

namespace ColumnSchema

/-- What a name policy can hold against a name. -/
inductive NameFault where
  | illegalCharacters
  | tooLong (limit : Nat)
  | reserved (stem : String)
  deriving DecidableEq, Repr

namespace NameFault

/-- The reason as it stands inside the message of the rejected name. -/
def reason : NameFault → String
  | illegalCharacters => "contains illegal characters"
  | tooLong limit => s!"longer than {limit} characters"
  | reserved stem => s!"prefix '{stem}' is reserved"

end NameFault

/-- What can be wrong with the parameters of a declared type. -/
inductive TypeFault where
  /-- A length where the type has none. -/
  | strayLength (primitive : Primitive) (length : Int)
  /-- A precision or scale where the type has none. -/
  | strayDigits (primitive : Primitive)
  | charLength (length : Int)
  | missingVarcharLength
  | varcharLength (length : Int)
  | decimalPrecision (precision : Int)
  | decimalScale (scale : Int)
  | scaleAbovePrecision (scale precision : Int)
  deriving DecidableEq, Repr

namespace TypeFault

/-- The message of a type that is declared wrongly. -/
def message : TypeFault → String
  | strayLength primitive length =>
      s!"Type {primitive.keyword} does not take a length. Length was set to: {length}"
  | strayDigits primitive =>
      s!"Type {primitive.keyword} does not take precision or scale"
  | charLength length =>
      s!"Char size must between 1 and {ScalarType.maxCharLength}. " ++
        s!"Size was set to: {length}"
  | missingVarcharLength => "Varchar requires a declared size"
  | varcharLength length =>
      s!"Varchar size must between 1 and {ScalarType.maxVarcharLength}. " ++
        s!"Size was set to: {length}"
  | decimalPrecision precision =>
      s!"Precision of decimal must between 1 and {ScalarType.maxDecimalPrecision}. " ++
        s!"Precision was set to: {precision}"
  | decimalScale scale =>
      s!"Scale of decimal must between 0 and {ScalarType.maxDecimalScale}. " ++
        s!"Scale was set to: {scale}"
  | scaleAbovePrecision scale precision =>
      "Scale of decimal must be smaller than precision. " ++
        s!"Scale is {scale} and precision is {precision}"

end TypeFault

/-- A cause for refusing a column definition or one of its literals. -/
inductive Rejection where
  /-- The name or the type is absent. -/
  | missingField
  | invalidName (name : String) (fault : NameFault)
  /-- The type exists for expressions only. -/
  | unsupportedDataType (primitive : Primitive)
  | invalidType (fault : TypeFault)
  | incompatibleAggregate (aggregation : Aggregation) (type : ScalarType)
  | floatKey
  | keyWithAggregate (name : String)
  | sketchKey (name : String)
  | hllDefault
  | invalidNumber (text : String)
  | numberOutOfRange (text : String) (type : ScalarType)
  | invalidLargeInt (text : String)
  | largeIntOutOfRange (text : String)
  | invalidFloat (text : String)
  /-- The number is no single-precision value. -/
  | precisionLoss (text : String)
  | invalidDecimal (text : String)
  /-- The literal has more digits than the column, before or after the point. -/
  | decimalOverflow (precision scale actualPrecision actualScale : Nat)
  | invalidDate (text : String)
  | defaultTooLong (text : String)
  /-- The type has no literals. -/
  | unsupportedType (type : ScalarType)
  deriving DecidableEq, Repr

namespace Rejection

/-- The message shown when the definition is refused. -/
def message : Rejection → String
  | missingField => "No column name or column type in column definition."
  | invalidName name fault => s!"Incorrect column name '{name}': {fault.reason}"
  | unsupportedDataType primitive => s!"Unsupported data type: {primitive.keyword}"
  | invalidType fault => fault.message
  | incompatibleAggregate aggregation type =>
      s!"Aggregate type {aggregation.keyword} is not compatible with " ++
        s!"primitive type {type.toSql}"
  | floatKey => "Float or double can not used as a key, use decimal instead."
  | keyWithAggregate name => s!"Key column {name} can not set aggregation type"
  | sketchKey name => s!"HLL or BITMAP column {name} can not be a key"
  | hllDefault => "Hll can not set default value"
  | invalidNumber text => s!"Invalid number format: {text}"
  | numberOutOfRange text type => s!"Number out of range[{text}]. type: {type.toSql}"
  | invalidLargeInt text => s!"Invalid integer literal: {text}"
  | largeIntOutOfRange text => s!"Large int literal is out of range: {text}"
  | invalidFloat text => s!"Invalid floating-point literal: {text}"
  | precisionLoss text => s!"Default value will loose precision: {text}"
  | invalidDecimal text => s!"Invalid decimal literal: {text}"
  | decimalOverflow precision scale actualPrecision actualScale =>
      s!"Invalid precise and scale - expect ({precision}, {scale}), " ++
        s!"but ({actualPrecision}, {actualScale})"
  | invalidDate text => s!"date literal [{text}] is invalid"
  | defaultTooLong text => s!"Default value is too long: {text}"
  | unsupportedType type => s!"Unsupported type: {type.toSql}"

/-- The diagnostic code, which stays the same whatever the message shows. -/
def code : Rejection → String
  | missingField => "ddl::missing_field"
  | invalidName _ _ => "ddl::invalid_name"
  | unsupportedDataType _ => "ddl::unsupported_data_type"
  | invalidType _ => "ddl::invalid_type"
  | incompatibleAggregate _ _ => "ddl::incompatible_aggregate"
  | floatKey => "ddl::float_key"
  | keyWithAggregate _ => "ddl::key_with_aggregate"
  | sketchKey _ => "ddl::sketch_key"
  | hllDefault => "ddl::hll_default"
  | invalidNumber _ => "ddl::invalid_number"
  | numberOutOfRange _ _ => "ddl::number_out_of_range"
  | invalidLargeInt _ => "ddl::invalid_large_int"
  | largeIntOutOfRange _ => "ddl::large_int_out_of_range"
  | invalidFloat _ => "ddl::invalid_float"
  | precisionLoss _ => "ddl::precision_loss"
  | invalidDecimal _ => "ddl::invalid_decimal"
  | decimalOverflow _ _ _ _ => "ddl::decimal_overflow"
  | invalidDate _ => "ddl::invalid_date"
  | defaultTooLong _ => "ddl::default_too_long"
  | unsupportedType _ => "ddl::unsupported_type"

/-- Advice for the causes that have a usual remedy. -/
def help? : Rejection → Option String
  | invalidName _ _ =>
      some <| "column names start with a letter or underscore and contain only " ++
        "letters, digits and underscores"
  | precisionLoss _ => some "declare the column as DOUBLE or DECIMAL"
  | _ => none

end Rejection

end ColumnSchema
