import ColumnSchema.Proofs.Analysis

/-!
# Taking a column back as a definition

A column that analysis yielded can be taken back as a definition. That definition
has the SQL of the column, and a second analysis, in whatever table, yields the
column again unless the name policy or the key rules of that table speak against
it, or the column is an HLL column, whose default is final and can no longer be
declared.
-/

namespace ColumnSchema

namespace Column

/-- The outcome of analyzing a column once more. Of the checks of an analysis only
those of the name, of the key and of an HLL default can refuse it. -/
def reanalysis (column : Column) (settings : TableSettings) : Except Rejection Column :=
  match settings.names.fault? column.name with
  | some fault => .error (.invalidName column.name fault)
  | none =>
    if column.key && settings.olap && column.type.primitive.isFloatingPoint then
      .error .floatKey
    else if column.key && settings.olap && column.type.primitive.isSketch then
      .error (.sketchKey column.name)
    else if column.type = .hll then
      .error .hllDefault
    else
      .ok column

/-- A rejection of the second analysis is about the name, the key or an HLL
default. -/
theorem reanalysis_eq_error {column : Column} {settings : TableSettings}
    {rejection : Rejection} (refused : column.reanalysis settings = .error rejection) :
    (∃ fault, settings.names.fault? column.name = some fault ∧
        rejection = .invalidName column.name fault) ∨
      rejection = .floatKey ∨ rejection = .sketchKey column.name ∨
        rejection = .hllDefault := by
  rw [reanalysis] at refused
  split at refused
  next fault found =>
    cases refused
    exact .inl ⟨fault, found, rfl⟩
  next =>
    split at refused
    next =>
      cases refused
      exact .inr (.inl rfl)
    next =>
      split at refused
      next =>
        cases refused
        exact .inr (.inr (.inl rfl))
      next =>
        split at refused
        next =>
          cases refused
          exact .inr (.inr (.inr rfl))
        next => cases refused

end Column

namespace Definition

/-- A column and its definition have the same SQL. -/
theorem toSql_ofColumn (column : Column) : (ofColumn column).toSql = column.toSql := by
  simp only [toSql, Column.toSql, shownName, ofColumn_eq, Option.getD_some, Option.map_some,
    TypeDecl.toSql_ofScalar]

/-- The key of a column that is not aggregated is judged by its type alone. -/
theorem checkKey_ofColumn {column : Column} (olap : Bool)
    (alone : column.key = true → column.aggregation = none) :
    (ofColumn column).checkKey column.name column.type olap =
      if column.key && olap && column.type.primitive.isFloatingPoint then
        .error .floatKey
      else if column.key && olap && column.type.primitive.isSketch then
        .error (.sketchKey column.name)
      else
        .ok () := by
  rw [checkKey]
  cases key : column.key with
  | false => simp [ofColumn_eq, key]
  | true => simp [ofColumn_eq, key, alone key, and_comm]

theorem settledDefault_ofColumn {column : Column}
    (sketch : column.type = .hll → column.defaultText = some emptySketch) :
    (ofColumn column).settledDefault column.type =
      if column.type = .hll then .error .hllDefault else .ok column.defaultText := by
  rw [settledDefault]
  by_cases hll : column.type = .hll
  · simp [ofColumn_eq, hll, ScalarType.primitive, sketch hll]
  · simp [ofColumn_eq, hll]

/-- The second analysis of a declared column. -/
theorem analyze_ofColumn {definition : Definition} {settings : TableSettings}
    {column : Column} (declares : definition.Declares settings column)
    (again : TableSettings) :
    (ofColumn column).analyze again = column.reanalysis again := by
  rcases declares.type with ⟨decl, -, denotes⟩
  have named : (ofColumn column).nameAndType = .ok (column.name, .ofScalar column.type) :=
    nameAndType_eq_ok.mpr ⟨rfl, declares.nonempty, rfl⟩
  have resolved := TypeDecl.resolve_of_denotes (TypeDecl.denotes_ofScalar denotes.legal)
  have compatible : (ofColumn column).checkAggregation column.type = .ok () :=
    checkAggregation_eq_ok.mpr declares.compatible
  have keyed := checkKey_ofColumn again.olap fun key => (declares.keyed key).1
  have settled := settledDefault_ofColumn fun hll => (declares.sketch hll).2
  have valid := ScalarType.checkOptionalDefault_eq_ok.mpr declares.valid
  simp only [analyze, Column.reanalysis, named, resolved, compatible, keyed, settled,
    Outcome.ok_bind, NamePolicy.check]
  cases again.names.fault? column.name with
  | some fault => rfl
  | none =>
      simp only [Outcome.ok_bind]
      split
      next => rfl
      next =>
        split
        next => rfl
        next =>
          by_cases hll : column.type = .hll
          · simp only [hll, ↓reduceIte, Outcome.ok_bind, Outcome.error_bind]
          · simp only [hll, ↓reduceIte, Outcome.ok_bind, valid]
            rfl

/-- In the table that accepted it, a column is accepted again and unchanged,
unless it is an HLL column. -/
theorem reanalysis_of_declares {definition : Definition} {settings : TableSettings}
    {column : Column} (declares : definition.Declares settings column) :
    column.reanalysis settings =
      if column.type = .hll then .error .hllDefault else .ok column := by
  rw [Column.reanalysis]
  rw [declares.policy]
  dsimp only
  rw [if_neg, if_neg]
  · intro sketchKey
    simp only [Bool.and_eq_true] at sketchKey
    rcases sketchKey with ⟨⟨key, olap⟩, sketch⟩
    have exact := ((declares.keyed key).2 olap).2
    rw [sketch] at exact
    cases exact
  · intro floatKey
    simp only [Bool.and_eq_true] at floatKey
    rcases floatKey with ⟨⟨key, olap⟩, floating⟩
    have exact := ((declares.keyed key).2 olap).1
    rw [floating] at exact
    cases exact

/-- An accepted column taken back as a definition keeps its SQL, and whether a
table accepts it again is decided by its name, its key and whether it is an HLL
column. -/
theorem analyze_stored_column {definition : Definition} {settings : TableSettings}
    {column : Column} (accepted : definition.analyze settings = .ok column)
    (again : TableSettings) :
    (ofColumn column).toSql = column.toSql ∧
      (ofColumn column).analyze again = column.reanalysis again ∧
      (column.type ≠ .hll → (ofColumn column).analyze settings = .ok column) ∧
      (column.type = .hll →
        (ofColumn column).analyze settings = .error .hllDefault) ∧
      ∀ rejection, (ofColumn column).analyze again = .error rejection →
        (∃ fault, again.names.fault? column.name = some fault ∧
            rejection = .invalidName column.name fault) ∨
          rejection = .floatKey ∨ rejection = .sketchKey column.name ∨
            rejection = .hllDefault := by
  have declares := declares_of_analyze accepted
  have unchanged : (ofColumn column).analyze settings =
      if column.type = .hll then .error .hllDefault else .ok column :=
    (analyze_ofColumn declares settings).trans (reanalysis_of_declares declares)
  refine ⟨toSql_ofColumn column, analyze_ofColumn declares again, ?_, ?_, ?_⟩
  · intro plain
    rw [unchanged, if_neg plain]
  · intro hll
    rw [unchanged, if_pos hll]
  · intro rejection refused
    rw [analyze_ofColumn declares again] at refused
    exact Column.reanalysis_eq_error refused

/-- A key that declares no digits for its decimal type. -/
def priceKey : Definition where
  name := some "price"
  type := some { primitive := .decimal }
  key := true
  defaultText := some "-15"

/-- The column of the key, with the digits that it gets. -/
def priceColumn : Column where
  name := "price"
  type := .decimal 10 0
  key := true
  aggregation := none
  nullable := false
  defaultText := some "-15"
  comment := ""

/-- The key is accepted again where it was accepted, and refused where names are
shorter. -/
theorem analyze_stored_priceColumn :
    priceKey.analyze { olap := true } = .ok priceColumn ∧
      (ofColumn priceColumn).analyze { olap := true } = .ok priceColumn ∧
      (ofColumn priceColumn).analyze { olap := false, names := { maxLength := 4 } } =
        .error (.invalidName "price" (.tooLong 4)) := by
  have accepted : priceKey.analyze { olap := true } = .ok priceColumn := rfl
  have again := analyze_stored_column accepted { olap := false, names := { maxLength := 4 } }
  have refused :
      priceColumn.reanalysis { olap := false, names := { maxLength := 4 } } =
        .error (.invalidName "price" (.tooLong 4)) := rfl
  exact ⟨accepted, again.2.2.1 (by decide), again.2.1.trans refused⟩

end Definition

end ColumnSchema
