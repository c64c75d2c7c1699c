import ColumnSchema.Proofs.Outcome
import ColumnSchema.TypeDecl
import Mathlib.Algebra.Group.Int.Defs

/-!
# Legal types and the declarations that denote them

The types that resolution can yield are described by their parameters alone, and
a relation says which declaration denotes which of them. Resolution computes that
relation, and writing a legal type out in full gives a declaration that denotes
it.
-/

namespace ColumnSchema

namespace ScalarType

/-- The type can be that of a column: it carries the parameters of its primitive
and no others, each in its range. -/
def Legal (type : ScalarType) : Prop :=
  match type.primitive, type.length?, type.precision?, type.scale? with
  | .time, _, _, _ => False
  | .char, some length, none, none => 1 ≤ length.toNat ∧ length.toNat ≤ 255
  | .varchar, some length, none, none => 1 ≤ length.toNat ∧ length.toNat ≤ 65533
  | .decimal, none, some precision, some scale =>
    1 ≤ precision.toNat ∧ precision.toNat ≤ 27 ∧
      scale.toNat ≤ 9 ∧ scale.toNat ≤ precision.toNat
  | .hll, some length, none, none => length.toNat = 16385
  | .char, _, _, _ | .varchar, _, _, _ | .decimal, _, _, _ | .hll, _, _, _ => False
  | _, none, none, none => True
  | _, _, _, _ => False

@[simp] theorem legal_char {length : UInt32} :
    (char length).Legal ↔ 1 ≤ length.toNat ∧ length.toNat ≤ 255 := Iff.rfl

@[simp] theorem legal_varchar {length : UInt32} :
    (varchar (some length)).Legal ↔ 1 ≤ length.toNat ∧ length.toNat ≤ 65533 := Iff.rfl

@[simp] theorem not_legal_varchar_none : ¬ (varchar none).Legal := id

@[simp] theorem legal_decimal {precision scale : UInt32} :
    (decimal precision scale).Legal ↔
      1 ≤ precision.toNat ∧ precision.toNat ≤ 27 ∧
        scale.toNat ≤ 9 ∧ scale.toNat ≤ precision.toNat := Iff.rfl

@[simp] theorem not_legal_time : ¬ time.Legal := id

/-- A primitive that takes no declared parameter is legal with its defaults. -/
theorem legal_ofPrimitive {primitive : Primitive} (notTime : primitive ≠ .time)
    (notVarchar : primitive ≠ .varchar) : (ofPrimitive primitive).Legal := by
  cases primitive with
  | time => exact absurd rfl notTime
  | varchar => exact absurd rfl notVarchar
  | char | decimal => simp [ofPrimitive, defaultDecimalPrecision, defaultDecimalScale]
  | hll => rfl
  | _ => trivial

end ScalarType

namespace TypeDecl

/-- A number in the range of a 32-bit word is kept by its word. -/
theorem toNat_word (number : Int) (nonneg : 0 ≤ number) (small : number < 2 ^ 32) :
    ((word number).toNat : Int) = number := by
  simp only [word, Nat.toUInt32_eq, UInt32.toNat_ofNat']
  omega

@[simp] theorem word_toNat (number : UInt32) : word number.toNat = number := by
  simp [word]

/-- The scalar types that declarations denote. A parameter that is declared is
the one that the type carries; one that is omitted has its default, where there
is one. -/
inductive Denotes (decl : TypeDecl) : ScalarType → Prop where
  | char {length : UInt32} (primitive : decl.primitive = .char)
      (noDigits : decl.decimal = none)
      (declared : decl.length.getD 1 = length.toNat)
      (legal : (ScalarType.char length).Legal) :
      Denotes decl (.char length)
  | varchar {length : UInt32} (primitive : decl.primitive = .varchar)
      (noDigits : decl.decimal = none)
      (declared : decl.length = some (length.toNat : Int))
      (legal : (ScalarType.varchar (some length)).Legal) :
      Denotes decl (.varchar (some length))
  | decimal {precision scale : UInt32} (primitive : decl.primitive = .decimal)
      (noLength : decl.length = none)
      (precisionDeclared : decl.decimalPrecision = precision.toNat)
      (scaleDeclared : decl.decimalScale = scale.toNat)
      (legal : (ScalarType.decimal precision scale).Legal) :
      Denotes decl (.decimal precision scale)
  | plain (notTime : decl.primitive ≠ .time) (notChar : decl.primitive ≠ .char)
      (notVarchar : decl.primitive ≠ .varchar) (notDecimal : decl.primitive ≠ .decimal)
      (noLength : decl.length = none) (noDigits : decl.decimal = none) :
      Denotes decl (.ofPrimitive decl.primitive)

@[simp] theorem refuseLength_eq_ok {decl : TypeDecl} :
    decl.refuseLength = .ok () ↔ decl.length = none := by
  rw [refuseLength]
  cases decl.length with
  | none => simp
  | some length => simp

@[simp] theorem refuseDigits_eq_ok {decl : TypeDecl} :
    decl.refuseDigits = .ok () ↔ decl.decimal = none := by
  rw [refuseDigits]
  cases decl.decimal with
  | none => simp
  | some digits => simp

theorem denotes_of_resolveChar {decl : TypeDecl} {type : ScalarType}
    (primitive : decl.primitive = .char) (resolved : decl.resolveChar = .ok type) :
    decl.Denotes type := by
  rw [resolveChar] at resolved
  rcases Outcome.unit_bind_eq_ok.mp resolved with ⟨noDigits, resolved⟩
  dsimp only at resolved
  split at resolved
  next range =>
    rw [show ScalarType.maxCharLength.toNat = 255 from rfl] at range
    have kept := toNat_word (decl.length.getD 1) (by omega) (by omega)
    cases resolved
    refine .char primitive (refuseDigits_eq_ok.mp noDigits) kept.symm ?_
    rw [ScalarType.legal_char]
    omega
  next => cases resolved

theorem denotes_of_resolveVarchar {decl : TypeDecl} {type : ScalarType}
    (primitive : decl.primitive = .varchar) (resolved : decl.resolveVarchar = .ok type) :
    decl.Denotes type := by
  rw [resolveVarchar] at resolved
  rcases Outcome.unit_bind_eq_ok.mp resolved with ⟨noDigits, resolved⟩
  split at resolved
  next => cases resolved
  next length declared =>
    split at resolved
    next range =>
      rw [show ScalarType.maxVarcharLength.toNat = 65533 from rfl] at range
      have kept := toNat_word length (by omega) (by omega)
      cases resolved
      refine .varchar primitive (refuseDigits_eq_ok.mp noDigits) ?_ ?_
      · rw [declared, kept]
      · rw [ScalarType.legal_varchar]
        omega
    next => cases resolved

theorem denotes_of_resolveDecimal {decl : TypeDecl} {type : ScalarType}
    (primitive : decl.primitive = .decimal) (resolved : decl.resolveDecimal = .ok type) :
    decl.Denotes type := by
  rw [resolveDecimal] at resolved
  rcases Outcome.unit_bind_eq_ok.mp resolved with ⟨noLength, resolved⟩
  dsimp only at resolved
  split at resolved
  next => cases resolved
  next precisionRange =>
    split at resolved
    next => cases resolved
    next scaleRange =>
      split at resolved
      next => cases resolved
      next ordered =>
        rw [show ScalarType.maxDecimalPrecision.toNat = 27 from rfl] at precisionRange
        rw [show ScalarType.maxDecimalScale.toNat = 9 from rfl] at scaleRange
        have precisionKept := toNat_word decl.decimalPrecision (by omega) (by omega)
        have scaleKept := toNat_word decl.decimalScale (by omega) (by omega)
        cases resolved
        refine .decimal primitive (refuseLength_eq_ok.mp noLength) precisionKept.symm
          scaleKept.symm ?_
        rw [ScalarType.legal_decimal]
        omega

/-- What resolution yields is denoted. -/
theorem denotes_of_resolve {decl : TypeDecl} {type : ScalarType}
    (resolved : decl.resolve = .ok type) : decl.Denotes type := by
  rw [resolve] at resolved
  split at resolved
  next => cases resolved
  next primitive => exact denotes_of_resolveChar primitive resolved
  next primitive => exact denotes_of_resolveVarchar primitive resolved
  next primitive => exact denotes_of_resolveDecimal primitive resolved
  next notTime notChar notVarchar notDecimal =>
    rw [resolvePlain] at resolved
    rcases Outcome.unit_bind_eq_ok.mp resolved with ⟨noLength, resolved⟩
    rcases Outcome.unit_bind_eq_ok.mp resolved with ⟨noDigits, resolved⟩
    cases resolved
    exact .plain notTime notChar notVarchar notDecimal
      (refuseLength_eq_ok.mp noLength) (refuseDigits_eq_ok.mp noDigits)

/-- What a declaration denotes is what it resolves to. -/
theorem resolve_of_denotes {decl : TypeDecl} {type : ScalarType}
    (denotes : decl.Denotes type) : decl.resolve = .ok type := by
  rw [resolve]
  cases denotes with
  | @char length primitive noDigits declared legal =>
      rw [ScalarType.legal_char] at legal
      simp only [primitive, resolveChar, refuseDigits_eq_ok.mpr noDigits, declared,
        Outcome.ok_bind]
      rw [if_pos ⟨by omega, Int.ofNat_le.mpr legal.2⟩, word_toNat]
      rfl
  | @varchar length primitive noDigits declared legal =>
      rw [ScalarType.legal_varchar] at legal
      simp only [primitive, resolveVarchar, refuseDigits_eq_ok.mpr noDigits, declared,
        Outcome.ok_bind]
      rw [if_pos ⟨by omega, Int.ofNat_le.mpr legal.2⟩, word_toNat]
      rfl
  | @decimal precision scale primitive noLength precisionDeclared scaleDeclared legal =>
      obtain ⟨positive, precisionLe, scaleLe, ordered⟩ := ScalarType.legal_decimal.mp legal
      simp only [primitive, resolveDecimal, refuseLength_eq_ok.mpr noLength,
        precisionDeclared, scaleDeclared, Outcome.ok_bind]
      rw [if_neg (not_not_intro ⟨by omega, Int.ofNat_le.mpr precisionLe⟩),
        if_neg (not_not_intro ⟨by omega, Int.ofNat_le.mpr scaleLe⟩),
        if_neg (by omega), word_toNat, word_toNat]
      rfl
  | plain notTime notChar notVarchar notDecimal noLength noDigits =>
      split
      next primitive => exact absurd primitive notTime
      next primitive => exact absurd primitive notChar
      next primitive => exact absurd primitive notVarchar
      next primitive => exact absurd primitive notDecimal
      next =>
        simp only [resolvePlain, refuseLength_eq_ok.mpr noLength,
          refuseDigits_eq_ok.mpr noDigits, Outcome.ok_bind]
        rfl

/-- Resolution yields exactly the type that the declaration denotes. -/
theorem resolve_eq_ok_iff {decl : TypeDecl} {type : ScalarType} :
    decl.resolve = .ok type ↔ decl.Denotes type :=
  ⟨denotes_of_resolve, resolve_of_denotes⟩

theorem Denotes.legal {decl : TypeDecl} {type : ScalarType} (denotes : decl.Denotes type) :
    type.Legal := by
  cases denotes with
  | char _ _ _ legal => exact legal
  | varchar _ _ _ legal => exact legal
  | decimal _ _ _ _ legal => exact legal
  | plain notTime _ notVarchar _ _ _ =>
      exact ScalarType.legal_ofPrimitive notTime notVarchar

/-- A legal type is denoted by the declaration that writes it out in full. -/
theorem denotes_ofScalar {type : ScalarType} (legal : type.Legal) :
    (ofScalar type).Denotes type := by
  cases type with
  | char length => exact .char rfl rfl rfl legal
  | varchar length =>
      cases length with
      | none => exact absurd legal ScalarType.not_legal_varchar_none
      | some length => exact .varchar rfl rfl rfl legal
  | decimal precision scale => exact .decimal rfl rfl rfl rfl legal
  | time => exact absurd legal ScalarType.not_legal_time
  | _ => exact .plain nofun nofun nofun nofun rfl rfl

/-- Legal types are written out in full in different ways. -/
theorem ofScalar_inj {left right : ScalarType} (leftLegal : left.Legal)
    (rightLegal : right.Legal) (same : ofScalar left = ofScalar right) : left = right := by
  have resolved := resolve_of_denotes (denotes_ofScalar leftLegal)
  rw [same, resolve_of_denotes (denotes_ofScalar rightLegal)] at resolved
  cases resolved
  rfl

/-- The legal types are the ones that resolution can yield. -/
theorem legal_iff_exists_resolve {type : ScalarType} :
    type.Legal ↔ ∃ decl : TypeDecl, decl.resolve = .ok type := by
  constructor
  · intro legal
    exact ⟨ofScalar type, resolve_of_denotes (denotes_ofScalar legal)⟩
  · rintro ⟨decl, resolved⟩
    exact (denotes_of_resolve resolved).legal

/-- Writing a type out in full does not change how it is shown. -/
@[simp] theorem toSql_ofScalar (type : ScalarType) :
    (ofScalar type).toSql = type.toSql := by
  cases type with
  | varchar length =>
      cases length with
      | none => rfl
      | some length => rfl
  | _ => rfl

end TypeDecl

end ColumnSchema
