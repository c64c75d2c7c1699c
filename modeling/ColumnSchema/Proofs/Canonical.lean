import ColumnSchema.Proofs.Rendering.Column
import ColumnSchema.Proofs.RoundTrip
import Mathlib.Tactic.TFAE

/-!
# What is written out in full

A scalar type has one declaration that writes out all its parameters. That declaration
resolves to the type itself or to nothing, and it does resolve exactly if some
declaration resolves to the type. Any other declaration of the type becomes this one
when the parameters that it omits are filled in.

The definition taken back from a stored column is the one that was stored with all
omissions filled in: the parameters of its type, and the default of a sketch. A
definition without omissions comes back unchanged, and every other one can be told by
its SQL from the one that comes back.
-/

namespace ColumnSchema

namespace TypeDecl

/-! ## Types there and back -/

/-- Written out in full, a type denotes no other. -/
theorem eq_of_denotes_ofScalar {type other : ScalarType}
    (denotes : (ofScalar type).Denotes other) : other = type := by
  have primitives := primitive_ofScalar type
  cases denotes with
  | char primitive _ declared _ =>
      rw [primitive] at primitives
      cases type with
      | char length =>
          rw [← UInt32.toNat_inj.mp (Int.ofNat.inj declared)]
      | _ => cases primitives
  | varchar primitive _ declared _ =>
      rw [primitive] at primitives
      cases type with
      | varchar length =>
          cases length with
          | none => cases declared
          | some length =>
              rw [← UInt32.toNat_inj.mp (Int.ofNat.inj (Option.some.inj declared))]
      | _ => cases primitives
  | decimal primitive _ precisionDeclared scaleDeclared _ =>
      rw [primitive] at primitives
      cases type with
      | decimal precision scale =>
          rw [← UInt32.toNat_inj.mp (Int.ofNat.inj precisionDeclared),
            ← UInt32.toNat_inj.mp (Int.ofNat.inj scaleDeclared)]
      | _ => cases primitives
  | plain notTime notChar notVarchar notDecimal _ _ =>
      cases type with
      | char | varchar | decimal => contradiction
      | _ => rfl

/-- The declaration that writes a type out in full is shown like the type, and it
resolves to nothing else. It resolves exactly if any declaration resolves to the type,
so a type that was resolved once is resolved again. -/
theorem resolve_ofScalar (type : ScalarType) :
    (ofScalar type).toSql = type.toSql ∧
      (∀ other, (ofScalar type).resolve = .ok other → other = type) ∧
      ((ofScalar type).resolve = .ok type ↔ ∃ decl : TypeDecl, decl.resolve = .ok type) ∧
      ∀ decl : TypeDecl, decl.resolve = .ok type → (ofScalar type).resolve = .ok type := by
  have again (decl : TypeDecl) (resolved : decl.resolve = .ok type) :
      (ofScalar type).resolve = .ok type :=
    resolve_of_denotes (denotes_ofScalar (denotes_of_resolve resolved).legal)
  refine ⟨toSql_ofScalar type, ?_, ?_, again⟩
  · intro other resolved
    exact eq_of_denotes_ofScalar (denotes_of_resolve resolved)
  · constructor
    · intro resolved
      exact ⟨ofScalar type, resolved⟩
    · rintro ⟨decl, resolved⟩
      exact again decl resolved

/-- A scale that was left out is written out as zero. No declaration has a `VARCHAR`
without length, which is the default type of the primitive. -/
theorem resolve_ofScalar_decimal :
    (ofScalar (.decimal 12 0)).resolve = .ok (.decimal 12 0) ∧
      ¬ ∃ decl : TypeDecl, decl.resolve = .ok (.ofPrimitive .varchar) := by
  have omitted : TypeDecl.resolve { primitive := .decimal, decimal := some { precision := 12 } } =
      .ok (.decimal 12 0) := rfl
  have lengthless : (ofScalar (.ofPrimitive .varchar)).resolve =
      .error (.invalidType .missingVarcharLength) := rfl
  refine ⟨(resolve_ofScalar (.decimal 12 0)).2.2.2 _ omitted, ?_⟩
  intro resolved
  have written := (resolve_ofScalar (.ofPrimitive .varchar)).2.2.1.mpr resolved
  rw [lengthless] at written
  cases written

/-! ## Omitted parameters -/

/-- The declaration omits no parameter that has a default. -/
structure IsWrittenOut (decl : TypeDecl) : Prop where
  char : decl.primitive = .char → decl.length ≠ none
  decimal : decl.primitive = .decimal →
    ∃ precision scale, decl.decimal = some { precision, scale := some scale }

/-- The declaration with the defaults of the parameters that it omits. -/
def fillIn (decl : TypeDecl) : TypeDecl :=
  match decl.primitive with
  | .char => { decl with length := some (decl.length.getD 1) }
  | .decimal =>
    { decl with
      decimal := some { precision := decl.decimalPrecision, scale := some decl.decimalScale } }
  | _ => decl

@[simp] theorem primitive_fillIn (decl : TypeDecl) :
    decl.fillIn.primitive = decl.primitive := by
  rw [fillIn.eq_def]
  split
  next => rfl
  next => rfl
  next => rfl

/-- What is written out has nothing to be filled in. -/
theorem IsWrittenOut.fillIn_eq {decl : TypeDecl} (written : decl.IsWrittenOut) :
    decl.fillIn = decl := by
  rw [fillIn.eq_def]
  split
  next primitive =>
    obtain ⟨length, declared⟩ := Option.ne_none_iff_exists'.mp (written.char primitive)
    rw [declared, Option.getD_some, ← declared]
  next primitive =>
    obtain ⟨precision, scale, declared⟩ := written.decimal primitive
    rw [decimalPrecision, decimalScale, declared, Option.map_some, Option.bind_some,
      Option.getD_some, Option.getD_some, ← declared]
  next => rfl

theorem isWrittenOut_fillIn (decl : TypeDecl) : decl.fillIn.IsWrittenOut where
  char := by
    rw [primitive_fillIn]
    intro primitive
    simp [fillIn, primitive]
  decimal := by
    rw [primitive_fillIn]
    intro primitive
    simp [fillIn, primitive]

theorem fillIn_eq_iff {decl : TypeDecl} : decl.fillIn = decl ↔ decl.IsWrittenOut := by
  constructor
  · intro same
    rw [← same]
    exact decl.isWrittenOut_fillIn
  · exact IsWrittenOut.fillIn_eq

@[simp] theorem fillIn_fillIn (decl : TypeDecl) : decl.fillIn.fillIn = decl.fillIn :=
  decl.isWrittenOut_fillIn.fillIn_eq

/-- A type is written out in full as any of its declarations is when the omitted
parameters are filled in. -/
theorem Denotes.ofScalar_eq_fillIn {decl : TypeDecl} {type : ScalarType}
    (denotes : decl.Denotes type) : ofScalar type = decl.fillIn := by
  obtain ⟨primitive, length, decimal⟩ := decl
  cases denotes with
  | char primitive noDigits declared _ =>
      cases primitive
      cases noDigits
      simp only [fillIn, declared]
      rfl
  | varchar primitive noDigits declared _ =>
      cases primitive
      cases noDigits
      cases declared
      rfl
  | decimal primitive noLength precisionDeclared scaleDeclared _ =>
      cases primitive
      cases noLength
      simp only [fillIn, precisionDeclared, scaleDeclared]
      rfl
  | plain notTime notChar notVarchar notDecimal noLength noDigits =>
      cases noLength
      cases noDigits
      cases primitive with
      | char | varchar | decimal => contradiction
      | _ => rfl

end TypeDecl

/-! ## Definitions there and back -/

namespace Definition

/-- The definition omits nothing that a stored column has. -/
structure IsCanonical (definition : Definition) : Prop where
  type : ∀ decl ∈ definition.type, decl.IsWrittenOut
  notSketch : ∀ decl ∈ definition.type, decl.primitive ≠ .hll

/-- The default of a definition, or the one that a sketch gets. -/
def filledDefault (definition : Definition) : Option String :=
  if definition.type.map TypeDecl.primitive = some .hll then
    some emptySketch
  else
    definition.defaultText

/-- The definition with all its omissions filled in. -/
def fillIn (definition : Definition) : Definition :=
  { definition with
    type := definition.type.map TypeDecl.fillIn
    defaultText := definition.filledDefault }

theorem fillIn_fillIn (definition : Definition) :
    definition.fillIn.fillIn = definition.fillIn := by
  cases declared : definition.type with
  | none => simp [fillIn, filledDefault, declared]
  | some decl =>
      by_cases hll : decl.primitive = .hll
      · simp [fillIn, filledDefault, declared, hll]
      · simp [fillIn, filledDefault, declared, hll]

theorem IsCanonical.fillIn_eq {definition : Definition} (canonical : definition.IsCanonical) :
    definition.fillIn = definition := by
  obtain ⟨name, type, key, aggregation, nullable, defaultText, comment⟩ := definition
  cases type with
  | none => rfl
  | some decl =>
      have written := (canonical.type decl rfl).fillIn_eq
      have notSketch := canonical.notSketch decl rfl
      simp [fillIn, filledDefault, written, notSketch]

variable {definition : Definition} {settings : TableSettings} {column : Column}

namespace Declares

/-- A definition declares a sketch if its column is one. -/
theorem primitive_eq_hll (declares : definition.Declares settings column) :
    definition.type.map TypeDecl.primitive = some .hll ↔ column.type = .hll := by
  obtain ⟨decl, declared, denotes⟩ := declares.type
  have primitives := TypeDecl.primitive_ofScalar column.type
  rw [denotes.ofScalar_eq_fillIn, TypeDecl.primitive_fillIn] at primitives
  rw [declared, Option.map_some, Option.some_inj, primitives, ScalarType.primitive_eq_hll]

theorem filledDefault_eq (declares : definition.Declares settings column) :
    definition.filledDefault = column.defaultText := by
  rw [filledDefault]
  split
  next sketch => rw [(declares.sketch (declares.primitive_eq_hll.mp sketch)).2]
  next other =>
    rw [declares.primitive_eq_hll] at other
    rw [declares.plain other]

/-- A stored column comes back with the omissions filled in and no other change. -/
theorem ofColumn_eq_fillIn (declares : definition.Declares settings column) :
    ofColumn column = definition.fillIn := by
  obtain ⟨decl, declared, denotes⟩ := declares.type
  rw [ofColumn_eq, fillIn, declares.filledDefault_eq, declares.key, declares.aggregation,
    declares.nullable, declares.comment, declared, Option.map_some,
    denotes.ofScalar_eq_fillIn, ← declares.name]

theorem fillIn_eq_iff (declares : definition.Declares settings column) :
    definition.fillIn = definition ↔ definition.IsCanonical := by
  constructor
  · intro same
    have types : definition.type.map TypeDecl.fillIn = definition.type :=
      congrArg Definition.type same
    refine ⟨?_, ?_⟩
    · intro decl declared
      rw [declared, Option.map_some, Option.some_inj] at types
      exact TypeDecl.fillIn_eq_iff.mp types
    · intro decl declared hll
      have defaults : definition.filledDefault = definition.defaultText :=
        congrArg Definition.defaultText same
      have sketch : column.type = .hll := by
        rw [← declares.primitive_eq_hll, declared, Option.map_some, hll]
      rw [declares.filledDefault_eq, (declares.sketch sketch).1,
        (declares.sketch sketch).2] at defaults
      cases defaults
  · exact IsCanonical.fillIn_eq

/-- A definition with the SQL of its column is the one that comes back. -/
theorem ofColumn_eq_of_toSql_eq (declares : definition.Declares settings column)
    (same : definition.toSql = column.toSql) : ofColumn column = definition := by
  obtain ⟨decl, declared, denotes⟩ := declares.type
  have shows := declares.eq_toDefinition declared
  have storedDenotes : column.shown.type.Denotes column.type :=
    TypeDecl.denotes_ofScalar denotes.legal
  rw [shows, Shown.toSql_toDefinition, ← Column.toSql_shown] at same
  obtain ⟨types, defaults⟩ :=
    Shown.type_and_default_of_toSql_eq storedDenotes denotes same.symm
  rw [shows, ← types, ← defaults, ← declares.key]
  rfl

end Declares

/-- An accepted definition comes back from its column unchanged exactly if its SQL does
not change either, and exactly if it omits nothing. Otherwise its omissions are filled
in, and once they are, it comes back unchanged from then on. -/
theorem ofColumn_tfae (accepted : definition.analyze settings = .ok column) :
    [ofColumn column = definition, definition.toSql = column.toSql,
        (ofColumn column).toSql = definition.toSql, definition.IsCanonical].TFAE ∧
      ofColumn column = definition.fillIn ∧
      ∀ again column', (ofColumn column).analyze again = .ok column' →
        ofColumn column' = ofColumn column := by
  have declares := declares_of_analyze accepted
  have filled := declares.ofColumn_eq_fillIn
  refine ⟨?_, filled, ?_⟩
  · tfae_have 1 → 3 := congrArg toSql
    tfae_have 3 → 2 := fun same => same.symm.trans (toSql_ofColumn column)
    tfae_have 2 → 1 := declares.ofColumn_eq_of_toSql_eq
    tfae_have 1 ↔ 4 := by
      rw [filled]
      exact declares.fillIn_eq_iff
    tfae_finish
  · intro again column' acceptedAgain
    rw [(declares_of_analyze acceptedAgain).ofColumn_eq_fillIn, filled, fillIn_fillIn]

/-- A decimal key without digits comes back with digits, which shows in its SQL. On the
second way it does not change. -/
theorem ofColumn_tfae_priceKey :
    priceKey.analyze { olap := true } = .ok priceColumn ∧
      ofColumn priceColumn ≠ priceKey ∧ priceKey.toSql ≠ priceColumn.toSql ∧
      (ofColumn priceColumn).analyze { olap := false } = .ok priceColumn ∧
      (ofColumn priceColumn).IsCanonical := by
  have accepted : priceKey.analyze { olap := true } = .ok priceColumn := rfl
  have again : (ofColumn priceColumn).analyze { olap := false } = .ok priceColumn := rfl
  have omits : ¬ priceKey.IsCanonical := by
    intro canonical
    obtain ⟨_, _, declared⟩ := (canonical.type _ rfl).decimal rfl
    cases declared
  have first := (ofColumn_tfae accepted).1
  have second := (ofColumn_tfae again).1
  exact ⟨accepted, fun same => omits ((first.out 0 3).mp same),
    fun same => omits ((first.out 1 3).mp same), again, (second.out 0 3).mp rfl⟩

end Definition

end ColumnSchema
