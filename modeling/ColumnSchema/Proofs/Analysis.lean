import ColumnSchema.Analysis
import ColumnSchema.Proofs.NamePolicy
import ColumnSchema.Proofs.Resolution

/-!
# What analysis accepts

Each check of an analysis accepts on a condition of its own, stated here without
the order of the checks. Together the conditions say which columns a definition
declares, and analysis yields a column exactly if the definition declares it.
-/

namespace ColumnSchema

@[simp] theorem ScalarType.primitive_eq_hll {type : ScalarType} :
    type.primitive = .hll ↔ type = .hll := by
  cases type <;> simp [ScalarType.primitive]

@[simp] theorem ScalarType.checkOptionalDefault_eq_ok {type : ScalarType}
    {defaultText : Option String} :
    type.checkOptionalDefault defaultText = .ok () ↔
      ∀ text ∈ defaultText, type.checkDefault text = .ok () := by
  cases defaultText with
  | none => simp [checkOptionalDefault]
  | some text => simp [checkOptionalDefault]

namespace Definition

theorem nameAndType_eq_ok {definition : Definition} {name : String} {decl : TypeDecl} :
    definition.nameAndType = .ok (name, decl) ↔
      definition.name = some name ∧ name.isEmpty = false ∧ definition.type = some decl := by
  rw [nameAndType]
  cases definition.name with
  | none => simp
  | some given =>
      cases definition.type with
      | none => simp
      | some declared =>
          dsimp only
          split
          next empty =>
            constructor
            · intro accepted
              cases accepted
            · rintro ⟨⟨⟩, nonempty, -⟩
              exact absurd empty (by simp [nonempty])
          next nonempty =>
            constructor
            · intro accepted
              cases accepted
              exact ⟨rfl, by simpa using nonempty, rfl⟩
            · rintro ⟨⟨⟩, -, ⟨⟩⟩
              rfl

theorem checkAggregation_eq_ok {definition : Definition} {type : ScalarType} :
    definition.checkAggregation type = .ok () ↔
      ∀ aggregation ∈ definition.aggregation,
        aggregation.isCompatible type.primitive = true := by
  rw [checkAggregation]
  cases definition.aggregation with
  | none => simp
  | some aggregation => simp

theorem checkKey_eq_ok {definition : Definition} {name : String} {type : ScalarType}
    {olap : Bool} :
    definition.checkKey name type olap = .ok () ↔
      (definition.key = true →
        definition.aggregation = none ∧
          (olap = true → type.primitive.isFloatingPoint = false ∧
            type.primitive.isSketch = false)) := by
  rw [checkKey]
  cases definition.key <;> cases olap <;> cases definition.aggregation <;>
    cases type.primitive.isFloatingPoint <;> cases type.primitive.isSketch <;> simp

theorem settledDefault_eq_ok {definition : Definition} {type : ScalarType}
    {settled : Option String} :
    definition.settledDefault type = .ok settled ↔
      (type = .hll → definition.defaultText = none ∧ settled = some emptySketch) ∧
        (type ≠ .hll → settled = definition.defaultText) := by
  rw [settledDefault]
  by_cases sketch : type = .hll
  · subst type
    cases definition.defaultText with
    | none => simp [ScalarType.primitive, eq_comm]
    | some text => simp [ScalarType.primitive]
  · simp [sketch, eq_comm (b := settled)]

/-- The columns that a definition declares in a table with the given settings. -/
structure Declares (definition : Definition) (settings : TableSettings)
    (column : Column) : Prop where
  name : definition.name = some column.name
  nonempty : column.name.isEmpty = false
  policy : settings.names.fault? column.name = none
  type : ∃ decl, definition.type = some decl ∧ decl.Denotes column.type
  compatible : ∀ aggregation ∈ column.aggregation,
    aggregation.isCompatible column.type.primitive = true
  /-- A key is not aggregated, and tables for analytical processing compare it
  exactly. -/
  keyed : column.key = true → column.aggregation = none ∧
    (settings.olap = true → column.type.primitive.isFloatingPoint = false ∧
      column.type.primitive.isSketch = false)
  sketch : column.type = .hll →
    definition.defaultText = none ∧ column.defaultText = some emptySketch
  plain : column.type ≠ .hll → column.defaultText = definition.defaultText
  valid : ∀ text ∈ column.defaultText, column.type.checkDefault text = .ok ()
  key : column.key = definition.key
  aggregation : column.aggregation = definition.aggregation
  nullable : column.nullable = definition.nullable
  comment : column.comment = definition.comment

/-- An accepted definition declares the column that analysis yields. -/
theorem declares_of_analyze {definition : Definition} {settings : TableSettings}
    {column : Column} (accepted : definition.analyze settings = .ok column) :
    definition.Declares settings column := by
  rw [analyze] at accepted
  rcases Outcome.bind_eq_ok.mp accepted with ⟨⟨name, decl⟩, named, accepted⟩
  rcases Outcome.unit_bind_eq_ok.mp accepted with ⟨policy, accepted⟩
  rcases Outcome.bind_eq_ok.mp accepted with ⟨type, resolved, accepted⟩
  rcases Outcome.unit_bind_eq_ok.mp accepted with ⟨compatible, accepted⟩
  rcases Outcome.unit_bind_eq_ok.mp accepted with ⟨keyed, accepted⟩
  rcases Outcome.bind_eq_ok.mp accepted with ⟨settled, settles, accepted⟩
  rcases Outcome.unit_bind_eq_ok.mp accepted with ⟨valid, accepted⟩
  rcases nameAndType_eq_ok.mp named with ⟨nameEq, nonempty, typeEq⟩
  rcases settledDefault_eq_ok.mp settles with ⟨sketch, plain⟩
  cases accepted
  exact {
    name := nameEq
    nonempty
    policy := NamePolicy.check_eq_ok.mp policy
    type := ⟨decl, typeEq, TypeDecl.denotes_of_resolve resolved⟩
    compatible := checkAggregation_eq_ok.mp compatible
    keyed := checkKey_eq_ok.mp keyed
    sketch
    plain
    valid := ScalarType.checkOptionalDefault_eq_ok.mp valid
    key := rfl
    aggregation := rfl
    nullable := rfl
    comment := rfl }

/-- A declared column is what analysis yields. -/
theorem analyze_of_declares {definition : Definition} {settings : TableSettings}
    {column : Column} (declares : definition.Declares settings column) :
    definition.analyze settings = .ok column := by
  rcases declares.type with ⟨decl, typeEq, denotes⟩
  have named := nameAndType_eq_ok.mpr ⟨declares.name, declares.nonempty, typeEq⟩
  have policy := NamePolicy.check_eq_ok.mpr declares.policy
  have resolved := TypeDecl.resolve_of_denotes denotes
  have compatible := checkAggregation_eq_ok.mpr
    (declares.aggregation ▸ declares.compatible)
  have keyed : definition.checkKey column.name column.type settings.olap = .ok () :=
    checkKey_eq_ok.mpr (declares.aggregation ▸ declares.key ▸ declares.keyed)
  have settles := settledDefault_eq_ok.mpr ⟨declares.sketch, declares.plain⟩
  have valid := ScalarType.checkOptionalDefault_eq_ok.mpr declares.valid
  simp only [analyze, named, policy, resolved, compatible, keyed, settles, valid,
    Outcome.ok_bind, ← declares.key, ← declares.aggregation, ← declares.nullable,
    ← declares.comment]
  rfl

/-- Analysis yields exactly the columns that the definition declares. -/
theorem analyze_eq_ok_iff {definition : Definition} {settings : TableSettings}
    {column : Column} :
    definition.analyze settings = .ok column ↔ definition.Declares settings column :=
  ⟨declares_of_analyze, analyze_of_declares⟩

end Definition

end ColumnSchema
