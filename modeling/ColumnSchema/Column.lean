import ColumnSchema.TypeDecl

/-!
# Columns and their definitions

A definition is a column as a table statement declares it: the name or the type may be
absent, and all parts are kept as they were written. The column that analysis makes of it
has a resolved type and a final default. The catalog stores all its parts, and a stored
column can be taken back as a definition. The SQL of a column names its parts in one fixed
order and quotes texts as they are.
-/

namespace ColumnSchema

/-! ## Columns -/

/-- The SQL of a column, given the SQL of its type. The parts stand in the order
name, type, aggregation, nullability, default, comment; a comment is always there,
and whether the column is a key is not shown. -/
def columnSql (name typeSql : String) (aggregation : Option Aggregation)
    (nullable : Bool) (defaultText : Option String) (comment : String) : String :=
  let aggregationSql := match aggregation with
    | some aggregation => aggregation.keyword ++ " "
    | none => ""
  let nullabilitySql := if nullable then "" else "NOT NULL "
  let defaultSql := match defaultText with
    | some text => "DEFAULT \"" ++ text ++ "\" "
    | none => ""
  "`" ++ name ++ "` " ++ typeSql ++ " " ++ aggregationSql ++ nullabilitySql ++
    defaultSql ++ "COMMENT \"" ++ comment ++ "\""

/-- A column that passed analysis. -/
structure Column where
  name : String
  type : ScalarType
  key : Bool
  aggregation : Option Aggregation
  nullable : Bool
  defaultText : Option String
  comment : String
  deriving DecidableEq, Repr

/-- A column as the catalog stores it. It was analyzed before, so its type is resolved and
its default is final. -/
structure CatalogColumn where
  name : String
  type : ScalarType
  key : Bool
  aggregation : Option Aggregation
  nullable : Bool
  defaultText : Option String
  comment : String
  deriving DecidableEq, Repr

namespace Column

/-- The column as a definition writes it, with all parameters of its type. -/
def toSql (column : Column) : String :=
  columnSql column.name column.type.toSql column.aggregation column.nullable
    column.defaultText column.comment

/-- The column as it goes into the catalog. -/
def toCatalog (column : Column) : CatalogColumn where
  name := column.name
  type := column.type
  key := column.key
  aggregation := column.aggregation
  nullable := column.nullable
  defaultText := column.defaultText
  comment := column.comment

/-- The analyzed column that a stored one was made from. -/
def ofCatalog (stored : CatalogColumn) : Column where
  name := stored.name
  type := stored.type
  key := stored.key
  aggregation := stored.aggregation
  nullable := stored.nullable
  defaultText := stored.defaultText
  comment := stored.comment

/-- What is said of analyzed columns can be said of stored ones. -/
instance : Coe CatalogColumn Column := ⟨ofCatalog⟩

/-- The catalog loses no part of a column. -/
@[simp] theorem ofCatalog_toCatalog (column : Column) : ofCatalog column.toCatalog = column :=
  rfl

/-- A stored column has no parts but those of an analyzed one. -/
@[simp] theorem toCatalog_ofCatalog (stored : CatalogColumn) :
    (ofCatalog stored).toCatalog = stored :=
  rfl

end Column

/-! ## Definitions -/

/-- A declared column. -/
structure Definition where
  name : Option String := none
  type : Option TypeDecl := none
  key : Bool := false
  aggregation : Option Aggregation := none
  nullable : Bool := false
  defaultText : Option String := none
  comment : String := ""
  deriving DecidableEq, Repr

namespace Definition

/-- The definition that declares a stored column in full. -/
def ofCatalog (stored : CatalogColumn) : Definition where
  name := some stored.name
  type := some (.ofScalar stored.type)
  key := stored.key
  aggregation := stored.aggregation
  nullable := stored.nullable
  defaultText := stored.defaultText
  comment := stored.comment

/-- The definition that a column gives back once the catalog has stored it. -/
def ofColumn (column : Column) : Definition :=
  ofCatalog column.toCatalog

/-- It declares the parts of the column. -/
theorem ofColumn_eq (column : Column) :
    ofColumn column = {
      name := some column.name
      type := some (.ofScalar column.type)
      key := column.key
      aggregation := column.aggregation
      nullable := column.nullable
      defaultText := column.defaultText
      comment := column.comment } :=
  rfl

/-- The name as SQL shows it; an absent one shows as nothing. -/
def shownName (definition : Definition) : String :=
  definition.name.getD ""

/-- The definition as it was written: parameters that the type omits stay
omitted. -/
def toSql (definition : Definition) : String :=
  columnSql definition.shownName ((definition.type.map TypeDecl.toSql).getD "")
    definition.aggregation definition.nullable definition.defaultText
    definition.comment

end Definition

end ColumnSchema
