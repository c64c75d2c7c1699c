/-!
# Keywords, primitive types and aggregations

The closed sets of values that a column declaration names: the base kinds of columns and
the ways to merge their values. Each value is spelled by one or more keywords in capital
letters, and a text names the value one of whose spellings it equals up to the case of
ASCII letters. Letters outside ASCII have no case here, so `ı` never stands for `I`.
-/

namespace ColumnSchema

/-! ## Keywords -/

/-- The text is not a spelling of any value of the wanted kind. -/
inductive KeywordFault where
  | unmatched
  deriving DecidableEq, Repr

namespace KeywordFault

/-- The wording shown for a keyword that names nothing. -/
def message : KeywordFault → String
  | unmatched => "Matching variant not found"

end KeywordFault

namespace Keyword

/-- The first of `values` that has `text`, in whatever ASCII case, among its
spellings. -/
def find {α : Type} (values : List α) (spellings : α → List String)
    (text : String) : Except KeywordFault α :=
  match values.find? fun value => (spellings value).contains text.toUpper with
  | some value => .ok value
  | none => .error .unmatched

/-- A text in capital letters is its own spelling in capitals. -/
theorem toUpper_eq {text : String}
    (capitals : text.toList.map Char.toUpper = text.toList) : text.toUpper = text := by
  have same : (text.map Char.toUpper).toList = text.toList := by
    rw [String.toList_map, capitals]
  exact String.toList_inj.mp same

end Keyword

/-! ## Primitive types -/

/-- The base kind of a column. -/
inductive Primitive where
  | boolean
  | tinyInt
  | smallInt
  | int
  | bigInt
  | largeInt
  | float
  | double
  | decimal
  | date
  | dateTime
  | time
  | char
  | varchar
  | hll
  | bitmap
  deriving DecidableEq, Repr

namespace Primitive

/-- Every primitive, each one once. -/
def all : List Primitive :=
  [boolean, tinyInt, smallInt, int, bigInt, largeInt, float, double, decimal,
    date, dateTime, time, char, varchar, hll, bitmap]

/-- The keyword that names the kind in SQL and in messages. -/
def keyword : Primitive → String
  | boolean => "BOOLEAN"
  | tinyInt => "TINYINT"
  | smallInt => "SMALLINT"
  | int => "INT"
  | bigInt => "BIGINT"
  | largeInt => "LARGEINT"
  | float => "FLOAT"
  | double => "DOUBLE"
  | decimal => "DECIMAL"
  | date => "DATE"
  | dateTime => "DATETIME"
  | time => "TIME"
  | char => "CHAR"
  | varchar => "VARCHAR"
  | hll => "HLL"
  | bitmap => "BITMAP"

/-- What a reader accepts for the kind: its keyword, and a second word for two of
them. -/
def spellings : Primitive → List String
  | boolean => ["BOOLEAN", "BOOL"]
  | int => ["INT", "INTEGER"]
  | primitive => [primitive.keyword]

/-- The kind that a keyword names. -/
def ofKeyword (text : String) : Except KeywordFault Primitive :=
  Keyword.find all spellings text

@[simp] theorem mem_all (primitive : Primitive) : primitive ∈ all := by
  cases primitive <;> decide

@[simp] theorem ofKeyword_keyword (primitive : Primitive) :
    ofKeyword primitive.keyword = .ok primitive := by
  have capitals : primitive.keyword.toUpper = primitive.keyword :=
    Keyword.toUpper_eq (by cases primitive <;> rfl)
  rw [ofKeyword, Keyword.find, capitals]
  cases primitive <;> rfl

/-- The whole numbers, of 8 to 128 bits. -/
def isInteger : Primitive → Bool
  | tinyInt | smallInt | int | bigInt | largeInt => true
  | _ => false

/-- The binary floating-point kinds. -/
def isFloatingPoint : Primitive → Bool
  | float | double => true
  | _ => false

/-- The kinds whose values can be added. -/
def isNumeric (primitive : Primitive) : Bool :=
  primitive.isInteger || primitive.isFloatingPoint || primitive == decimal

/-- The calendar kinds. A time of day is not one: it has no date. -/
def isDate : Primitive → Bool
  | date | dateTime => true
  | _ => false

/-- The kinds that hold text. -/
def isString : Primitive → Bool
  | char | varchar => true
  | _ => false

/-- The kinds that hold pre-aggregated state and no plain value. -/
def isSketch : Primitive → Bool
  | hll | bitmap => true
  | _ => false

end Primitive

/-! ## Aggregations -/

/-- A way to merge the values that rows with one key bring to a column. -/
inductive Aggregation where
  | sum
  | min
  | max
  /-- The value loaded last stays. -/
  | replace
  /-- The value loaded last stays, but NULL never overwrites a value. -/
  | replaceIfNotNull
  | hllUnion
  | bitmapUnion
  deriving DecidableEq, Repr

namespace Aggregation

/-- Every aggregation, each one once. -/
def all : List Aggregation :=
  [sum, min, max, replace, replaceIfNotNull, hllUnion, bitmapUnion]

/-- The keyword that names the aggregation in SQL and in messages. -/
def keyword : Aggregation → String
  | sum => "SUM"
  | min => "MIN"
  | max => "MAX"
  | replace => "REPLACE"
  | replaceIfNotNull => "REPLACE_IF_NOT_NULL"
  | hllUnion => "HLL_UNION"
  | bitmapUnion => "BITMAP_UNION"

/-- The aggregation that a keyword names. -/
def ofKeyword (text : String) : Except KeywordFault Aggregation :=
  Keyword.find all (fun aggregation => [aggregation.keyword]) text

@[simp] theorem mem_all (aggregation : Aggregation) : aggregation ∈ all := by
  cases aggregation <;> decide

@[simp] theorem ofKeyword_keyword (aggregation : Aggregation) :
    ofKeyword aggregation.keyword = .ok aggregation := by
  have capitals : aggregation.keyword.toUpper = aggregation.keyword :=
    Keyword.toUpper_eq (by cases aggregation <;> rfl)
  rw [ofKeyword, Keyword.find, capitals]
  cases aggregation <;> rfl

/-- Sums need numbers, extremes need an order, a replacement needs a plain value,
and each union merges sketches of its own kind. -/
def isCompatible (aggregation : Aggregation) (primitive : Primitive) : Bool :=
  match aggregation with
  | sum => primitive.isNumeric
  | min | max => primitive.isNumeric || primitive.isDate || primitive.isString
  | replace | replaceIfNotNull =>
      primitive.isNumeric || primitive.isDate || primitive.isString ||
        primitive == .boolean
  | hllUnion => primitive == .hll
  | bitmapUnion => primitive == .bitmap

end Aggregation

end ColumnSchema
