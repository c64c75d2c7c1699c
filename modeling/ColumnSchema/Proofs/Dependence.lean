import ColumnSchema.Proofs.Analysis
import ColumnSchema.Proofs.LiteralFault

/-!
# What analysis depends on

Analysis looks at a declared type only through what it resolves to, at a name policy
only through what it says about the name, and at nullability and comment not at all.
Definitions that agree on the rest are therefore refused for the same reason or yield
columns that differ in nullability and comment only. Of the two kinds of tables, the
one for analytical processing refuses certain keys, and this is the only difference
between them.
-/

namespace ColumnSchema

theorem ScalarType.isFloatingPoint_primitive {type : ScalarType} :
    type.primitive.isFloatingPoint = true ↔ type = .float ∨ type = .double := by
  cases type <;> simp [primitive, Primitive.isFloatingPoint]

theorem ScalarType.isSketch_primitive {type : ScalarType} :
    type.primitive.isSketch = true ↔ type = .hll ∨ type = .bitmap := by
  cases type <;> simp [primitive, Primitive.isSketch]

/-- The rejection says that columns of the type cannot be keys. -/
def Rejection.IsKeyTypeFault : Rejection → Prop
  | floatKey | sketchKey _ => True
  | _ => False

theorem Rejection.IsLiteralFault.not_isKeyTypeFault {rejection : Rejection}
    (literal : rejection.IsLiteralFault) : ¬ rejection.IsKeyTypeFault := by
  cases rejection with
  | floatKey => exact literal.elim
  | sketchKey name => exact literal.elim
  | _ => exact id

namespace Definition

/-! ## Around the key check -/

/-- Analysis gets as far as the key of the column, which has this name and type. -/
structure ReachesKey (definition : Definition) (settings : TableSettings)
    (name : String) (type : ScalarType) : Prop where
  named : definition.name = some name
  nonempty : name ≠ ""
  policy : settings.names.check name = .ok ()
  typed : ∃ decl, definition.type = some decl ∧ decl.resolve = .ok type
  compatible : ∀ aggregation ∈ definition.aggregation,
    aggregation.isCompatible type.primitive = true

/-- What remains of an analysis after the key was judged. -/
def completed (definition : Definition) (name : String) (type : ScalarType) :
    Except Rejection Column := do
  let defaultText ← definition.settledDefault type
  type.checkOptionalDefault defaultText
  return {
    name
    type
    key := definition.key
    aggregation := definition.aggregation
    nullable := definition.nullable
    defaultText
    comment := definition.comment }

variable {definition : Definition} {settings : TableSettings}
variable {name : String} {type : ScalarType} {rejection : Rejection}

/-- The key decides first about what remains. -/
theorem ReachesKey.analyze_eq (reaches : definition.ReachesKey settings name type) :
    definition.analyze settings =
      definition.checkKey name type settings.olap >>= fun _ =>
        definition.completed name type := by
  obtain ⟨decl, declared, resolved⟩ := reaches.typed
  have nonempty : name.isEmpty = false := by simpa using reaches.nonempty
  have named := nameAndType_eq_ok.mpr ⟨reaches.named, nonempty, declared⟩
  have compatible := checkAggregation_eq_ok.mpr reaches.compatible
  simp only [analyze, named, reaches.policy, resolved, compatible, Outcome.ok_bind]
  rfl

/-- What remains is not about the type of the key. -/
theorem refuses_completed (definition : Definition) (name : String) (type : ScalarType) :
    Outcome.Refuses (¬ ·.IsKeyTypeFault) (definition.completed name type) := by
  have settled : Outcome.Refuses (¬ ·.IsKeyTypeFault) (definition.settledDefault type) := by
    rw [settledDefault]
    split
    next =>
      split
      next => exact id
      next => trivial
    next => trivial
  apply settled.bind
  intro defaultText
  have valid := (type.refuses_checkOptionalDefault defaultText).mono
    fun _ => Rejection.IsLiteralFault.not_isKeyTypeFault
  exact valid.bind fun _ => trivial

/-- Only tables for analytical processing refuse a key for its type. -/
theorem refuses_checkKey (definition : Definition) (name : String) (type : ScalarType) :
    Outcome.Refuses (¬ ·.IsKeyTypeFault) (definition.checkKey name type false) := by
  simp only [checkKey, Bool.and_false, Bool.false_eq_true, if_false]
  split
  next =>
    split
    next => exact id
    next => trivial
  next => trivial

theorem ReachesKey.not_isKeyTypeFault (reaches : definition.ReachesKey settings name type)
    (unaware : settings.olap = false)
    (refused : definition.analyze settings = .error rejection) :
    ¬ rejection.IsKeyTypeFault := by
  rw [reaches.analyze_eq, unaware] at refused
  have refuses := (refuses_checkKey definition name type).bind fun _ =>
    refuses_completed definition name type
  exact refuses.of_eq_error refused

/-- The definition has a floating-point key that nothing before its type speaks
against. -/
def HasFloatKey (definition : Definition) (settings : TableSettings) : Prop :=
  definition.key = true ∧ ∃ name type, definition.ReachesKey settings name type ∧
    (type = .float ∨ type = .double)

/-- The definition has a sketch of this name as its key and nothing before its type
speaks against it, nor an aggregation. -/
def HasSketchKey (definition : Definition) (settings : TableSettings) (name : String) :
    Prop :=
  definition.key = true ∧ definition.aggregation = none ∧
    ∃ type, definition.ReachesKey settings name type ∧ (type = .hll ∨ type = .bitmap)

/-- A floating-point key is refused even if the column is aggregated as well. -/
theorem HasFloatKey.analyze_eq (floatKey : definition.HasFloatKey settings)
    (aware : settings.olap = true) : definition.analyze settings = .error .floatKey := by
  obtain ⟨key, name, type, reaches, floating⟩ := floatKey
  have judged : definition.checkKey name type true = .error .floatKey := by
    simp [checkKey, key, ScalarType.isFloatingPoint_primitive.mpr floating]
  rw [reaches.analyze_eq, aware, judged, Outcome.error_bind]

theorem HasSketchKey.analyze_eq (sketchKey : definition.HasSketchKey settings name)
    (aware : settings.olap = true) :
    definition.analyze settings = .error (.sketchKey name) := by
  obtain ⟨key, alone, type, reaches, sketch⟩ := sketchKey
  have exactly : type.primitive.isFloatingPoint = false := by
    cases sketch with
    | inl hll => rw [hll]; rfl
    | inr bitmap => rw [bitmap]; rfl
  have judged : definition.checkKey name type true = .error (.sketchKey name) := by
    simp [checkKey, key, alone, exactly, ScalarType.isSketch_primitive.mpr sketch]
  rw [reaches.analyze_eq, aware, judged, Outcome.error_bind]

/-- What is accepted has no such key. -/
theorem not_hasKey_of_analyze {column : Column} (aware : settings.olap = true)
    (accepted : definition.analyze settings = .ok column) :
    ¬ (definition.HasFloatKey settings ∨ ∃ name, definition.HasSketchKey settings name) := by
  intro refused
  cases refused with
  | inl floatKey => cases (floatKey.analyze_eq aware).symm.trans accepted
  | inr sketchKey =>
      obtain ⟨name, sketchKey⟩ := sketchKey
      cases (sketchKey.analyze_eq aware).symm.trans accepted

/-! ## Two analyses -/

/-- The definitions differ at most in nullability, in comment and in how they spell
their type. -/
structure Agrees (left right : Definition) : Prop where
  name : left.name = right.name
  type : left.type.map TypeDecl.resolve = right.type.map TypeDecl.resolve
  key : left.key = right.key
  aggregation : left.aggregation = right.aggregation
  defaultText : left.defaultText = right.defaultText

/-- The columns are equal but for nullability and comment, which each has from its
own definition. -/
structure Twins (left right : Definition) (leftColumn rightColumn : Column) : Prop where
  name : leftColumn.name = rightColumn.name
  type : leftColumn.type = rightColumn.type
  key : leftColumn.key = rightColumn.key
  aggregation : leftColumn.aggregation = rightColumn.aggregation
  defaultText : leftColumn.defaultText = rightColumn.defaultText
  leftNullable : leftColumn.nullable = left.nullable
  rightNullable : rightColumn.nullable = right.nullable
  leftComment : leftColumn.comment = left.comment
  rightComment : rightColumn.comment = right.comment

/-- Both analyses refuse for the same reason, or both yield columns and these are
twins. -/
abbrev SameVerdict (left right : Definition) :
    Except Rejection Column → Except Rejection Column → Prop :=
  Outcome.Alike (Twins left right)

namespace Agrees

variable {left right : Definition} {settings settings' : TableSettings}

theorem nameAndType (agrees : left.Agrees right) :
    Outcome.Alike (fun one other : String × TypeDecl =>
        one.1 = other.1 ∧ one.2.resolve = other.2.resolve)
      left.nameAndType right.nameAndType := by
  rw [Definition.nameAndType, Definition.nameAndType, ← agrees.name]
  have types := agrees.type
  cases left.name with
  | none => exact .refused _
  | some name =>
      cases leftType : left.type with
      | none =>
          cases rightType : right.type with
          | none => exact .refused _
          | some decl => simp [leftType, rightType] at types
      | some decl =>
          cases rightType : right.type with
          | none => simp [leftType, rightType] at types
          | some decl' =>
              rw [leftType, rightType] at types
              dsimp only
              split
              next => exact .refused _
              next => exact .accepted ⟨rfl, Option.some.inj types⟩

/-- An agreeing definition gets as far under a policy that says the same. -/
theorem reachesKey (agrees : left.Agrees right)
    (names : ∀ name ∈ left.name, settings.names.check name = settings'.names.check name)
    (reaches : left.ReachesKey settings name type) :
    right.ReachesKey settings' name type where
  named := agrees.name ▸ reaches.named
  nonempty := reaches.nonempty
  policy := names name reaches.named ▸ reaches.policy
  typed := by
    obtain ⟨decl, declared, resolved⟩ := reaches.typed
    have types := agrees.type
    rw [declared, Option.map_some, resolved, eq_comm, Option.map_eq_some_iff] at types
    exact types
  compatible := agrees.aggregation ▸ reaches.compatible

theorem completed (agrees : left.Agrees right) (name : String) (type : ScalarType) :
    left.SameVerdict right (left.completed name type) (right.completed name type) := by
  rw [Definition.completed, Definition.completed]
  apply Outcome.Alike.bind_of_eq
  · rw [settledDefault, settledDefault, agrees.defaultText]
  · intro settled _
    apply Outcome.Alike.bind_of_eq rfl
    intro _ _
    exact .accepted {
      name := rfl
      type := rfl
      key := agrees.key
      aggregation := agrees.aggregation
      defaultText := rfl
      leftNullable := rfl
      rightNullable := rfl
      leftComment := rfl
      rightComment := rfl }

/-- Two analyses agree if they judge keys alike wherever they come to judge one. -/
theorem sameVerdict (agrees : left.Agrees right)
    (names : ∀ name ∈ left.name, settings.names.check name = settings'.names.check name)
    (keys : ∀ name type, left.ReachesKey settings name type →
      left.checkKey name type settings.olap = right.checkKey name type settings'.olap) :
    left.SameVerdict right (left.analyze settings) (right.analyze settings') := by
  rw [analyze, analyze]
  apply agrees.nameAndType.bind
  rintro ⟨name, decl⟩ ⟨_, decl'⟩ named - ⟨sameName, sameType⟩
  cases sameName
  obtain ⟨nameEq, nonempty, declared⟩ := nameAndType_eq_ok.mp named
  apply Outcome.Alike.bind_of_eq (names name nameEq)
  intro _ policy
  apply Outcome.Alike.bind_of_eq sameType
  intro type resolved
  apply Outcome.Alike.bind_of_eq
  · rw [checkAggregation, checkAggregation, agrees.aggregation]
  · intro _ compatible
    have reaches : left.ReachesKey settings name type := {
      named := nameEq
      nonempty := by simpa using nonempty
      policy
      typed := ⟨decl, declared, resolved⟩
      compatible := checkAggregation_eq_ok.mp compatible }
    apply Outcome.Alike.bind_of_eq (keys name type reaches)
    intro _ _
    exact agrees.completed name type

theorem checkKey (agrees : left.Agrees right) (name : String) (type : ScalarType)
    (olap : Bool) : left.checkKey name type olap = right.checkKey name type olap := by
  rw [Definition.checkKey, Definition.checkKey, agrees.key, agrees.aggregation]

/-- The kind of the table does not matter to other keys. -/
theorem checkKey_of_not_refused (agrees : left.Agrees right)
    (notFloat : ¬ left.HasFloatKey settings)
    (notSketch : ¬ ∃ name, left.HasSketchKey settings name)
    (reaches : left.ReachesKey settings name type) :
    left.checkKey name type true = right.checkKey name type false := by
  rw [← agrees.checkKey, Definition.checkKey, Definition.checkKey]
  cases key : left.key with
  | false => rfl
  | true =>
      have exactly : type.primitive.isFloatingPoint = false := by
        rw [← Bool.not_eq_true, ScalarType.isFloatingPoint_primitive]
        intro floating
        exact notFloat ⟨key, name, type, reaches, floating⟩
      cases alone : left.aggregation with
      | some aggregation => simp [exactly]
      | none =>
          have plain : type.primitive.isSketch = false := by
            rw [← Bool.not_eq_true, ScalarType.isSketch_primitive]
            intro sketch
            exact notSketch ⟨name, key, alone, type, reaches, sketch⟩
          simp [exactly, plain]

/-- A key that is refused for its type is not refused so elsewhere. -/
theorem not_sameVerdict (agrees : left.Agrees right)
    (names : ∀ name ∈ left.name, settings.names.check name = settings'.names.check name)
    (reaches : left.ReachesKey settings name type) (unaware : settings'.olap = false)
    (refused : left.analyze settings = .error rejection)
    (fault : rejection.IsKeyTypeFault) :
    ¬ left.SameVerdict right (left.analyze settings) (right.analyze settings') := by
  intro same
  exact (agrees.reachesKey names reaches).not_isKeyTypeFault unaware
    (same.eq_error refused) fault

/-- In tables of different kinds the verdict is the same unless one of them refuses the
key for its type. -/
theorem sameVerdict_iff (agrees : left.Agrees right)
    (names : ∀ name ∈ left.name, settings.names.check name = settings'.names.check name)
    (aware : settings.olap = true) (unaware : settings'.olap = false) :
    left.SameVerdict right (left.analyze settings) (right.analyze settings') ↔
      ¬ (left.HasFloatKey settings ∨ ∃ name, left.HasSketchKey settings name) := by
  constructor
  · intro same refused
    cases refused with
    | inl floatKey =>
        obtain ⟨_, _, reaches, -⟩ := floatKey.2
        exact agrees.not_sameVerdict names reaches unaware
          (floatKey.analyze_eq aware) trivial same
    | inr sketchKey =>
        obtain ⟨name, sketchKey⟩ := sketchKey
        obtain ⟨_, reaches, -⟩ := sketchKey.2.2
        exact agrees.not_sameVerdict names reaches unaware
          (sketchKey.analyze_eq aware) trivial same
  · intro notRefused
    rw [not_or] at notRefused
    apply agrees.sameVerdict names
    intro name type reaches
    rw [aware, unaware]
    exact agrees.checkKey_of_not_refused notRefused.1 notRefused.2 reaches

end Agrees

/-- Agreeing definitions get the same verdict in tables of one kind. In tables of
different kinds they get it unless the key is floating-point, or a sketch that is not
aggregated, and only the table for analytical processing refuses those. So the other
kind accepts all that it accepts. -/
theorem analyze_of_agrees {left right : Definition} {settings settings' : TableSettings}
    (agrees : left.Agrees right)
    (names : ∀ name ∈ left.name, settings.names.check name = settings'.names.check name) :
    (settings.olap = settings'.olap →
        left.SameVerdict right (left.analyze settings) (right.analyze settings')) ∧
      (settings.olap = true → settings'.olap = false →
        (left.SameVerdict right (left.analyze settings) (right.analyze settings') ↔
            ¬ (left.HasFloatKey settings ∨ ∃ name, left.HasSketchKey settings name)) ∧
          (left.HasFloatKey settings → left.analyze settings = .error .floatKey) ∧
          (∀ name, left.HasSketchKey settings name →
            left.analyze settings = .error (.sketchKey name)) ∧
          ∀ column, left.analyze settings = .ok column →
            ∃ column', right.analyze settings' = .ok column' ∧
              left.Twins right column column') := by
  constructor
  · intro sameKind
    apply agrees.sameVerdict names
    intro name type _
    rw [sameKind]
    exact agrees.checkKey name type settings'.olap
  · intro aware unaware
    have verdict := agrees.sameVerdict_iff names aware unaware
    refine ⟨verdict, ?_, ?_, ?_⟩
    · intro floatKey
      exact floatKey.analyze_eq aware
    · intro name sketchKey
      exact sketchKey.analyze_eq aware
    · intro column accepted
      exact (verdict.mpr (not_hasKey_of_analyze aware accepted)).exists_ok accepted

/-- A key of one character that leaves out its length. -/
def gradeKey : Definition where
  name := some "grade"
  type := some { primitive := .char }
  key := true
  defaultText := some "A"

/-- The key with its length, and with a comment. -/
def spelledGradeKey : Definition :=
  { gradeKey with type := some (.char 1), nullable := true, comment := "A to F" }

/-- A key that is summed as well. -/
def totalKey : Definition where
  name := some "total"
  type := some { primitive := .double }
  key := true
  aggregation := some .sum

/-- A table for analytical processing. -/
def olapTable : TableSettings where
  olap := true

/-- A table for other purposes, with shorter names. -/
def shortNames : TableSettings where
  olap := false
  names := { maxLength := 5 }

/-- The names are short enough for both tables. So the second one accepts a spelling
of the key that the first one accepts, and it refuses the other key for another
reason. -/
theorem analyze_of_agrees_gradeKey :
    gradeKey.Agrees spelledGradeKey ∧
      (∃ column column', gradeKey.analyze olapTable = .ok column ∧
        spelledGradeKey.analyze shortNames = .ok column' ∧
        gradeKey.Twins spelledGradeKey column column') ∧
      ¬ totalKey.SameVerdict totalKey (totalKey.analyze olapTable)
        (totalKey.analyze shortNames) := by
  have grades : gradeKey.Agrees spelledGradeKey := ⟨rfl, rfl, rfl, rfl, rfl⟩
  have totals : totalKey.Agrees totalKey := ⟨rfl, rfl, rfl, rfl, rfl⟩
  have gradeNames : ∀ name ∈ gradeKey.name,
      olapTable.names.check name = shortNames.names.check name := by
    intro name member
    cases member
    rfl
  have totalNames : ∀ name ∈ totalKey.name,
      olapTable.names.check name = shortNames.names.check name := by
    intro name member
    cases member
    rfl
  have floatKey : totalKey.HasFloatKey olapTable := by
    refine ⟨rfl, "total", .double, ?_, .inr rfl⟩
    exact {
      named := rfl
      nonempty := by decide
      policy := rfl
      typed := ⟨_, rfl, rfl⟩
      compatible := by
        intro aggregation member
        cases member
        rfl }
  have grade := (analyze_of_agrees grades gradeNames).2 rfl rfl
  have total := (analyze_of_agrees totals totalNames).2 rfl rfl
  obtain ⟨column', accepted, twins⟩ := grade.2.2.2 _ rfl
  exact ⟨grades, ⟨_, column', rfl, accepted, twins⟩,
    fun same => total.1.mp same (.inl floatKey)⟩

end Definition

end ColumnSchema
