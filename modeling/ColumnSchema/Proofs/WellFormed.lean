import ColumnSchema.Proofs.Analysis
import ColumnSchema.Proofs.NamePolicy
import ColumnSchema.Session

/-!
# Well-formed columns

Whatever steps a session takes, and whether they succeed, the columns that it
holds are well formed: one step keeps this, and so does every run. Conversely a
session can come to hold every well-formed column, so well-formedness says all
there is to say about the columns that can exist.
-/

namespace ColumnSchema

/-- What holds of every column that passed analysis, whatever the table and
whenever that was. -/
structure Column.WellFormed (column : Column) : Prop where
  name : IsName column.name.toList
  resolved : ∃ decl : TypeDecl, decl.resolve = .ok column.type
  legal : column.type.Legal
  compatible : ∀ aggregation ∈ column.aggregation,
    aggregation.isCompatible column.type.primitive = true
  keyed : column.key = true → column.aggregation = none
  sketch : column.type = .hll → column.defaultText = some "0"
  /-- Types without literals have no default. -/
  plain : column.type = .boolean ∨ column.type = .bitmap → column.defaultText = none
  valid : ∀ text ∈ column.defaultText, column.type.checkDefault text = .ok ()

/-- A type without literals accepts no default. -/
theorem ScalarType.checkDefault_ne_ok {type : ScalarType}
    (literalless : type = .boolean ∨ type = .bitmap) (text : String) :
    type.checkDefault text ≠ .ok () := by
  rcases literalless with rfl | rfl
  · exact nofun
  · exact nofun

/-- Declared columns are well formed. -/
theorem Definition.Declares.wellFormed {definition : Definition}
    {settings : TableSettings} {column : Column}
    (declares : definition.Declares settings column) : column.WellFormed := by
  rcases declares.type with ⟨decl, -, denotes⟩
  exact {
    name := (NamePolicy.fault?_eq_none.mp declares.policy).1
    resolved := ⟨decl, TypeDecl.resolve_of_denotes denotes⟩
    legal := denotes.legal
    compatible := declares.compatible
    keyed := fun key => (declares.keyed key).1
    sketch := fun hll => (declares.sketch hll).2
    plain := by
      intro literalless
      cases present : column.defaultText with
      | none => rfl
      | some text =>
          have valid := declares.valid text present
          exact absurd valid (ScalarType.checkDefault_ne_ok literalless text)
    valid := declares.valid }

namespace Column

/-- The declaration of a column. An HLL column does not declare its default. -/
def declaration (column : Column) : Definition :=
  { Definition.ofColumn column with
    defaultText := if column.type = .hll then none else column.defaultText }

/-- A policy under which the column has its name. -/
def ownPolicy (column : Column) : NamePolicy where
  maxLength := column.name.length
  reservedStem := ""

/-- A well-formed column is declared in a table that restricts nothing. -/
theorem WellFormed.declares {column : Column} (wellFormed : column.WellFormed) :
    column.declaration.Declares { olap := false, names := column.ownPolicy } column := by
  have accepted : column.ownPolicy.fault? column.name = none := by
    rw [NamePolicy.fault?_eq_none]
    exact ⟨wellFormed.name, Nat.le_refl _, by simp [NamePolicy.reserves, ownPolicy]⟩
  exact {
    name := rfl
    nonempty := by
      rcases wellFormed.name with ⟨first, rest, spelled, -⟩
      cases empty : column.name.isEmpty with
      | false => rfl
      | true =>
          rw [String.isEmpty_iff.mp empty] at spelled
          cases spelled
    policy := accepted
    type := ⟨_, rfl, TypeDecl.denotes_ofScalar wellFormed.legal⟩
    compatible := wellFormed.compatible
    keyed := fun key => ⟨wellFormed.keyed key, fun olap => absurd olap Bool.false_ne_true⟩
    sketch := fun hll => ⟨if_pos hll, wellFormed.sketch hll⟩
    plain := fun other => (if_neg other).symm
    valid := wellFormed.valid
    key := rfl
    aggregation := rfl
    nullable := rfl
    comment := rfl }

end Column

namespace Session

/-- The session after a run of steps. Steps that fail are part of the run. -/
def run (session : Session) : List Step → Session
  | [] => session
  | step :: steps => (session.step step).1.run steps

/-- Every column that the session holds is well formed. -/
structure WellFormed (session : Session) : Prop where
  analyzed : ∀ column ∈ session.analyzed, column.WellFormed
  stored : ∀ stored ∈ session.stored, (stored : Column).WellFormed

/-- A session without columns holds none that is ill formed. -/
theorem wellFormed_empty : ({} : Session).WellFormed where
  analyzed := fun column member => absurd member (Option.not_mem_none column)
  stored := fun stored member => absurd member (Option.not_mem_none stored)

/-- An edit leaves the columns alone. -/
theorem applyEdit_wellFormed {session : Session} (wellFormed : session.WellFormed)
    (edit : Edit) : (session.applyEdit edit).1.WellFormed := by
  rw [applyEdit]
  split
  next => exact wellFormed
  next definition =>
    split
    next => exact ⟨wellFormed.analyzed, wellFormed.stored⟩
    next => exact wellFormed

/-- An analysis replaces the analyzed column by a declared one or by none. -/
theorem applyAnalysis_wellFormed {session : Session} (wellFormed : session.WellFormed)
    (settings : TableSettings) : (session.applyAnalysis settings).1.WellFormed := by
  rw [applyAnalysis]
  split
  next => exact wellFormed
  next definition =>
    split
    next column accepted =>
      refine ⟨?_, wellFormed.stored⟩
      intro analyzed member
      cases member
      exact (Definition.declares_of_analyze accepted).wellFormed
    next =>
      refine ⟨?_, wellFormed.stored⟩
      intro analyzed member
      exact absurd member (Option.not_mem_none analyzed)

/-- A step keeps the columns of a session well formed. -/
theorem step_wellFormed {session : Session} (wellFormed : session.WellFormed)
    (step : Step) : (session.step step).1.WellFormed := by
  cases step with
  | define definition => exact ⟨wellFormed.analyzed, wellFormed.stored⟩
  | edit edit => exact applyEdit_wellFormed wellFormed edit
  | setNames policy => exact ⟨wellFormed.analyzed, wellFormed.stored⟩
  | analyze olap => exact applyAnalysis_wellFormed wellFormed _
  | analyzeUnderPolicy olap => exact applyAnalysis_wellFormed wellFormed _
  | store =>
      rw [Session.step]
      split
      next column present =>
        refine ⟨wellFormed.analyzed, ?_⟩
        intro stored member
        cases member
        rw [Column.ofCatalog_toCatalog]
        exact wellFormed.analyzed column present
      next => exact wellFormed
  | «recall» =>
      rw [Session.step]
      split
      next => exact ⟨wellFormed.analyzed, wellFormed.stored⟩
      next => exact wellFormed
  | compare => exact wellFormed

/-- A run keeps the columns of a session well formed. -/
theorem run_keeps_wellFormed {session : Session} (wellFormed : session.WellFormed)
    (steps : List Step) : (session.run steps).WellFormed := by
  induction steps generalizing session with
  | nil => exact wellFormed
  | cons step steps ih => exact ih (step_wellFormed wellFormed step)

/-- Every column that a session can come to hold is well formed. -/
theorem run_wellFormed (steps : List Step) : (({} : Session).run steps).WellFormed :=
  run_keeps_wellFormed wellFormed_empty steps

/-- Every well-formed column can come to be stored. -/
theorem exists_run_stored {stored : CatalogColumn} (wellFormed : (stored : Column).WellFormed) :
    ∃ steps, (({} : Session).run steps).stored = some stored := by
  let column := Column.ofCatalog stored
  refine ⟨[.define column.declaration, .setNames column.ownPolicy,
    .analyzeUnderPolicy false, .store], ?_⟩
  have accepted := Definition.analyze_of_declares wellFormed.declares
  simp only [run, step, applyAnalysis, column, accepted, Column.toCatalog_ofCatalog]

end Session

end ColumnSchema
