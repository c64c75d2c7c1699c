import ColumnSchema.Proofs.Resolution

/-!
# Admissible declarations

Which declarations resolve is said here by their parameters alone, with one condition for
each primitive that takes some. A time of day is refused as such, and every other
declaration for a parameter. Resolution does not change a declared number: the type has it
as it was declared, and the default of the primitive where there is none.
-/

namespace ColumnSchema

/-- What is wrong is a parameter of the declared type. -/
def Rejection.IsParameterFault (rejection : Rejection) : Prop :=
  ∃ fault, rejection = .invalidType fault

namespace Primitive

/-- The length of a type for which none is declared. -/
def defaultLength? : Primitive → Option Int
  | char => some 1
  | hll => some 16385
  | _ => none

/-- The precision of a type for which none is declared. -/
def defaultPrecision? : Primitive → Option Int
  | decimal => some 10
  | _ => none

/-- The scale of a type for which none is declared. -/
def defaultScale? : Primitive → Option Int
  | decimal => some 0
  | _ => none

end Primitive

namespace TypeDecl

open Outcome (Refuses)

/-- The declaration has a type: its primitive takes the declared parameters, has those
that it needs, and all of them are in range. -/
def Admissible (decl : TypeDecl) : Prop :=
  match decl.primitive with
  | .time => False
  | .char => decl.decimal = none ∧ ∀ length ∈ decl.length, 1 ≤ length ∧ length ≤ 255
  | .varchar => decl.decimal = none ∧ ∃ length ∈ decl.length, 1 ≤ length ∧ length ≤ 65533
  | .decimal =>
    let precision := (decl.decimal.map (·.precision)).getD 10
    let scale := (decl.decimal.bind (·.scale)).getD 0
    decl.length = none ∧ (1 ≤ precision ∧ precision ≤ 27) ∧ (0 ≤ scale ∧ scale ≤ 9) ∧
      scale ≤ precision
  | _ => decl.length = none ∧ decl.decimal = none

/-- The type has the numbers that the declaration has, and the defaults of the primitive
for those that are not declared. -/
structure KeptBy (decl : TypeDecl) (type : ScalarType) : Prop where
  primitive : type.primitive = decl.primitive
  length : type.length?.map (fun length => (length.toNat : Int)) =
    decl.length.or decl.primitive.defaultLength?
  precision : type.precision?.map (fun precision => (precision.toNat : Int)) =
    (decl.decimal.map (·.precision)).or decl.primitive.defaultPrecision?
  scale : type.scale?.map (fun scale => (scale.toNat : Int)) =
    (decl.decimal.bind (·.scale)).or decl.primitive.defaultScale?

/-! ## Which declarations are refused -/

variable (decl : TypeDecl)

theorem refuses_refuseLength : Refuses Rejection.IsParameterFault decl.refuseLength := by
  rw [refuseLength]
  split
  next => exact ⟨_, rfl⟩
  next => trivial

theorem refuses_refuseDigits : Refuses Rejection.IsParameterFault decl.refuseDigits := by
  rw [refuseDigits]
  split
  next => exact ⟨_, rfl⟩
  next => trivial

theorem refuses_resolveChar : Refuses Rejection.IsParameterFault decl.resolveChar := by
  apply decl.refuses_refuseDigits.bind
  intro _
  dsimp only
  split
  next => trivial
  next => exact ⟨_, rfl⟩

theorem refuses_resolveVarchar : Refuses Rejection.IsParameterFault decl.resolveVarchar := by
  apply decl.refuses_refuseDigits.bind
  intro _
  split
  next => exact ⟨_, rfl⟩
  next =>
    split
    next => trivial
    next => exact ⟨_, rfl⟩

theorem refuses_resolveDecimal : Refuses Rejection.IsParameterFault decl.resolveDecimal := by
  apply decl.refuses_refuseLength.bind
  intro _
  dsimp only
  split
  next => exact ⟨_, rfl⟩
  next =>
    split
    next => exact ⟨_, rfl⟩
    next =>
      split
      next => exact ⟨_, rfl⟩
      next => trivial

theorem refuses_resolvePlain : Refuses Rejection.IsParameterFault decl.resolvePlain :=
  decl.refuses_refuseLength.bind fun _ => decl.refuses_refuseDigits.bind fun _ => trivial

variable {decl : TypeDecl} {type : ScalarType}

theorem resolve_of_time (time : decl.primitive = .time) :
    decl.resolve = .error (.unsupportedDataType .time) := by
  rw [resolve, time]

/-- Only a time of day is refused for anything but its parameters. -/
theorem refuses_resolve_of_ne_time (notTime : decl.primitive ≠ .time) :
    Refuses Rejection.IsParameterFault decl.resolve := by
  rw [resolve]
  split
  next time => exact absurd time notTime
  next => exact decl.refuses_resolveChar
  next => exact decl.refuses_resolveVarchar
  next => exact decl.refuses_resolveDecimal
  next => exact decl.refuses_resolvePlain

theorem resolve_eq_unsupportedDataType {primitive : Primitive} :
    decl.resolve = .error (.unsupportedDataType primitive) ↔
      decl.primitive = .time ∧ primitive = .time := by
  by_cases time : decl.primitive = .time
  · rw [resolve_of_time time]
    simp [time, eq_comm]
  · constructor
    · intro refused
      obtain ⟨fault, equal⟩ := (refuses_resolve_of_ne_time time).of_eq_error refused
      cases equal
    · rintro ⟨time', -⟩
      exact absurd time' time

/-! ## Which declarations resolve -/

theorem decimalPrecision_eq (decl : TypeDecl) :
    decl.decimalPrecision = (decl.decimal.map (·.precision)).getD 10 := rfl

theorem decimalScale_eq (decl : TypeDecl) :
    decl.decimalScale = (decl.decimal.bind (·.scale)).getD 0 := rfl

theorem Denotes.admissible (denotes : decl.Denotes type) : decl.Admissible := by
  obtain ⟨primitive, length, decimal⟩ := decl
  cases denotes with
  | @char word primitive noDigits declared legal =>
      cases primitive
      cases noDigits
      obtain ⟨first, last⟩ := ScalarType.legal_char.mp legal
      refine ⟨rfl, ?_⟩
      rintro _ ⟨⟩
      rw [Option.getD_some] at declared
      omega
  | @varchar word primitive noDigits declared legal =>
      cases primitive
      cases noDigits
      cases declared
      obtain ⟨first, last⟩ := ScalarType.legal_varchar.mp legal
      exact ⟨rfl, _, rfl, by omega, by omega⟩
  | @decimal word word' primitive noLength precisionDeclared scaleDeclared legal =>
      cases primitive
      cases noLength
      obtain ⟨positive, precisionLe, scaleLe, ordered⟩ := ScalarType.legal_decimal.mp legal
      rw [decimalPrecision_eq] at precisionDeclared
      rw [decimalScale_eq] at scaleDeclared
      refine ⟨rfl, ?_⟩
      simp only [precisionDeclared, scaleDeclared]
      omega
  | plain notTime notChar notVarchar notDecimal noLength noDigits =>
      cases primitive with
      | time | char | varchar | decimal => contradiction
      | _ => exact ⟨noLength, noDigits⟩

/-- The numbers of an admissible declaration fit the words of a type. -/
theorem Admissible.exists_denotes (admissible : decl.Admissible) :
    ∃ type, decl.Denotes type := by
  rw [Admissible] at admissible
  split at admissible
  next => exact admissible.elim
  next primitive =>
    obtain ⟨noDigits, range⟩ := admissible
    have bounds : 1 ≤ decl.length.getD 1 ∧ decl.length.getD 1 ≤ 255 := by
      cases declared : decl.length with
      | none => decide
      | some length => exact range length declared
    have kept := toNat_word (decl.length.getD 1) (by omega) (by omega)
    exact ⟨_, .char primitive noDigits kept.symm (ScalarType.legal_char.mpr (by omega))⟩
  next primitive =>
    obtain ⟨noDigits, length, declared, range⟩ := admissible
    have kept := toNat_word length (by omega) (by omega)
    exact ⟨_, .varchar primitive noDigits (kept.symm ▸ declared)
      (ScalarType.legal_varchar.mpr (by omega))⟩
  next primitive =>
    obtain ⟨noLength, precisionRange, scaleRange, ordered⟩ := admissible
    rw [← decimalPrecision_eq] at precisionRange ordered
    rw [← decimalScale_eq] at scaleRange ordered
    have precisionKept := toNat_word decl.decimalPrecision (by omega) (by omega)
    have scaleKept := toNat_word decl.decimalScale (by omega) (by omega)
    exact ⟨_, .decimal primitive noLength precisionKept.symm scaleKept.symm
      (ScalarType.legal_decimal.mpr (by omega))⟩
  next notTime notChar notVarchar notDecimal =>
    exact ⟨_, .plain notTime notChar notVarchar notDecimal admissible.1 admissible.2⟩

theorem exists_resolve_iff_admissible :
    (∃ type, decl.resolve = .ok type) ↔ decl.Admissible := by
  constructor
  · rintro ⟨type, resolved⟩
    exact (denotes_of_resolve resolved).admissible
  · intro admissible
    obtain ⟨type, denotes⟩ := admissible.exists_denotes
    exact ⟨type, resolve_of_denotes denotes⟩

/-- What a declaration denotes has the declared numbers. -/
theorem Denotes.keptBy (denotes : decl.Denotes type) : decl.KeptBy type := by
  obtain ⟨primitive, length, decimal⟩ := decl
  cases denotes with
  | char primitive noDigits declared legal =>
      cases primitive
      cases noDigits
      refine ⟨rfl, ?_, rfl, rfl⟩
      cases length with
      | none => exact congrArg some declared.symm
      | some length => exact congrArg some declared.symm
  | varchar primitive noDigits declared legal =>
      cases primitive
      cases noDigits
      cases declared
      exact ⟨rfl, rfl, rfl, rfl⟩
  | decimal primitive noLength precisionDeclared scaleDeclared legal =>
      cases primitive
      cases noLength
      refine ⟨rfl, rfl, ?_, ?_⟩
      · rw [ScalarType.precision?, Option.map_some, ← precisionDeclared]
        cases decimal with
        | none => rfl
        | some digits => rfl
      · rw [ScalarType.scale?, Option.map_some, ← scaleDeclared, decimalScale]
        cases decimal.bind (·.scale) with
        | none => rfl
        | some scale => rfl
  | plain notTime notChar notVarchar notDecimal noLength noDigits =>
      cases noLength
      cases noDigits
      cases primitive with
      | time | char | varchar | decimal => contradiction
      | _ => exact ⟨rfl, rfl, rfl, rfl⟩

/-- A declaration is refused as a time of day exactly if it is one, it resolves exactly if
it is admissible, and in all other cases it is refused for a parameter. If it resolves,
then to a type with the declared numbers. -/
theorem resolve_by_admissibility (decl : TypeDecl) :
    (∀ primitive, decl.resolve = .error (.unsupportedDataType primitive) ↔
        decl.primitive = .time ∧ primitive = .time) ∧
      ((∃ type, decl.resolve = .ok type) ↔ decl.Admissible) ∧
      (decl.primitive ≠ .time → ¬ decl.Admissible →
        ∃ fault, decl.resolve = .error (.invalidType fault)) ∧
      ∀ type, decl.resolve = .ok type → decl.KeptBy type := by
  refine ⟨fun _ => resolve_eq_unsupportedDataType, exists_resolve_iff_admissible, ?_, ?_⟩
  · intro notTime inadmissible
    cases resolved : decl.resolve with
    | error rejection =>
        obtain ⟨fault, rfl⟩ := (refuses_resolve_of_ne_time notTime).of_eq_error resolved
        exact ⟨fault, rfl⟩
    | ok type => exact absurd (exists_resolve_iff_admissible.mp ⟨type, resolved⟩) inadmissible
  · intro type resolved
    exact (denotes_of_resolve resolved).keptBy

/-- A declared precision below the default one is kept, and a whole number takes no
length. -/
theorem resolve_by_admissibility_precision :
    KeptBy { primitive := .decimal, decimal := some { precision := 3 } } (.decimal 3 0) ∧
      ∃ fault, resolve { primitive := .int, length := some 11 } =
        .error (.invalidType fault) := by
  have resolved : resolve { primitive := .decimal, decimal := some { precision := 3 } } =
      .ok (.decimal 3 0) := rfl
  constructor
  · exact (resolve_by_admissibility _).2.2.2 _ resolved
  · apply (resolve_by_admissibility _).2.2.1 (by decide)
    intro admissible
    have noLength : some (11 : Int) = none := admissible.1
    cases noLength

end TypeDecl

end ColumnSchema
