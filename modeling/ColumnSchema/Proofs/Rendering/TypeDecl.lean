import ColumnSchema.Proofs.Cut
import ColumnSchema.Proofs.Integer
import ColumnSchema.Proofs.Resolution

/-!
# Reading declared types off their SQL

The SQL of a type is a keyword and, where there are parameters, parentheses around
them. Different declarations can look the same, because a length and a precision
are written alike, but then no more than one of them denotes a type.
-/

namespace ColumnSchema

/-! ## Numbers -/

/-- A parameter as it is written. -/
def numberText (number : Int) : List Char :=
  number.repr.toList

/-- The characters of parameters. -/
def isNumberCharacter (c : Char) : Bool :=
  c.isDigit || c == '-'

theorem isNumberCharacter_of_mem_numberText {number : Int} {c : Char}
    (member : c ∈ numberText number) : isNumberCharacter c = true := by
  have digits {magnitude : Nat} (inDigits : c ∈ magnitude.repr.toList) :
      isNumberCharacter c = true := by
    rw [Nat.toList_repr] at inDigits
    have digit := Nat.isDigit_of_mem_toDigits (by decide) (by decide) inDigits
    simp [isNumberCharacter, digit]
  rw [numberText, Int.repr_eq_if] at member
  split at member
  next => exact digits member
  next =>
    rw [String.toList_append] at member
    rcases List.mem_append.mp member with minus | inDigits
    · cases List.mem_singleton.mp minus
      rfl
    · exact digits inDigits

theorem numberText_injective : Function.Injective numberText := by
  intro left right same
  have denotes : Integer.Denotes (numberText left) left := Integer.denotes_toString left
  exact denotes.unique (same ▸ Integer.denotes_toString right)

namespace DecimalParameters

def scaleText (scale : Int) : List Char :=
  ',' :: ' ' :: numberText scale

/-- The digits of a decimal as they are written: the precision, and after a comma
the scale if there is one. -/
def text (digits : DecimalParameters) : List Char :=
  numberText digits.precision ++ Cut.optional scaleText digits.scale

theorem text_injective : Function.Injective text := by
  intro left right same
  have ends (scale : Option Int) :
      ∀ c ∈ (Cut.optional scaleText scale).head?, isNumberCharacter c = false := by
    intro c member
    cases scale with
    | none => cases member
    | some scale =>
        cases member
        rfl
  have numbers (number : Int) : ∀ c ∈ numberText number, isNumberCharacter c = true :=
    fun _ member => isNumberCharacter_of_mem_numberText member
  rcases Cut.row_cancel isNumberCharacter (numbers _) (numbers _) (ends _) (ends _) same
    with ⟨precision, scale⟩
  cases left with
  | mk leftPrecision leftScale =>
      cases right with
      | mk rightPrecision rightScale =>
          cases numberText_injective precision
          cases leftScale with
          | none =>
              cases rightScale with
              | none => rfl
              | some rightScale => cases scale
          | some leftScale =>
              cases rightScale with
              | none => cases scale
              | some rightScale =>
                  have texts := List.tail_eq_of_cons_eq (List.tail_eq_of_cons_eq scale)
                  cases numberText_injective texts
                  rfl

end DecimalParameters

namespace TypeDecl

/-! ## Parameters -/

/-- What stands between the parentheses of a declaration that has them. -/
def parameterText (decl : TypeDecl) : Option (List Char) :=
  match decl.length with
  | some length => some (numberText length)
  | none => decl.decimal.map DecimalParameters.text

def parenthesized (parameters : List Char) : List Char :=
  '(' :: (parameters ++ [')'])

theorem toList_toSql (decl : TypeDecl) :
    decl.toSql.toList =
      decl.primitive.keyword.toList ++ Cut.optional parenthesized decl.parameterText := by
  rw [toSql.eq_def, parameterText]
  cases decl.length with
  | some length => simp [toString, Cut.optional, parenthesized, numberText]
  | none =>
      cases decl.decimal with
      | none => simp [Cut.optional]
      | some digits =>
          rcases digits with ⟨precision, _ | scale⟩
          · simp [toString, Cut.optional, parenthesized, DecimalParameters.text, numberText]
          · simp [toString, Cut.optional, parenthesized, DecimalParameters.text,
              DecimalParameters.scaleText, numberText]

theorem unclosed_numberText (number : Int) : ')' ∉ numberText number := by
  intro member
  cases isNumberCharacter_of_mem_numberText member

/-- Parameters do not contain the parenthesis that ends them. -/
theorem unclosed_of_parameterText {decl : TypeDecl} {parameters : List Char}
    (declared : decl.parameterText = some parameters) : ')' ∉ parameters := by
  rw [parameterText.eq_def] at declared
  split at declared
  next =>
    cases declared
    exact unclosed_numberText _
  next =>
    rcases Option.map_eq_some_iff.mp declared with ⟨⟨precision, scale⟩, -, rfl⟩
    cases scale with
    | none =>
        simp [DecimalParameters.text, Cut.optional, unclosed_numberText]
    | some scale =>
        simp [DecimalParameters.text, DecimalParameters.scaleText, Cut.optional,
          unclosed_numberText]

/-- A declaration that denotes a type has a length or digits, but not both, and its
primitive decides which. -/
theorem Denotes.parameters {decl : TypeDecl} {type : ScalarType}
    (denotes : decl.Denotes type) :
    if decl.primitive.isString then decl.decimal = none else decl.length = none := by
  cases denotes with
  | char primitive noDigits => simp [primitive, Primitive.isString, noDigits]
  | varchar primitive noDigits => simp [primitive, Primitive.isString, noDigits]
  | decimal primitive noLength => simp [primitive, Primitive.isString, noLength]
  | plain _ _ _ _ noLength noDigits => simp [noLength, noDigits]

/-- Declarations that denote types are equal if their primitives are and their
parameters are written alike. -/
theorem eq_of_parameterText {left right : TypeDecl} {leftType rightType : ScalarType}
    (leftDenotes : left.Denotes leftType) (rightDenotes : right.Denotes rightType)
    (primitive : left.primitive = right.primitive)
    (same : left.parameterText = right.parameterText) : left = right := by
  have leftParameters := leftDenotes.parameters
  have rightParameters := rightDenotes.parameters
  rcases left with ⟨leftPrimitive, leftLength, leftDecimal⟩
  rcases right with ⟨rightPrimitive, rightLength, rightDecimal⟩
  cases primitive
  cases string : leftPrimitive.isString with
  | true =>
      simp only [string, ↓reduceIte] at leftParameters rightParameters
      subst leftParameters rightParameters
      have lengths : leftLength.map numberText = rightLength.map numberText := by
        cases leftLength <;> cases rightLength <;> exact same
      rw [Option.map_injective numberText_injective lengths]
  | false =>
      simp only [string, Bool.false_eq_true, ↓reduceIte] at leftParameters rightParameters
      subst leftParameters rightParameters
      have digits : leftDecimal.map DecimalParameters.text =
          rightDecimal.map DecimalParameters.text := same
      rw [Option.map_injective DecimalParameters.text_injective digits]

/-! ## Whole types -/

theorem isAlpha_of_mem_keyword (primitive : Primitive) :
    ∀ c ∈ primitive.keyword.toList, c.isAlpha = true := by
  intro c member
  have letters : primitive.keyword.toList.all Char.isAlpha = true := by
    cases primitive <;> simp [Primitive.keyword]
  exact List.all_eq_true.mp letters c member

theorem keyword_injective : Function.Injective Primitive.keyword :=
  Outcome.injective_of_ok Primitive.ofKeyword_keyword

/-- Where a blank follows, the SQL of a type shows where the type ends and which
declaration it is. -/
theorem toSql_cancel {left right : TypeDecl} {leftType rightType : ScalarType}
    {leftRest rightRest : List Char} (leftDenotes : left.Denotes leftType)
    (rightDenotes : right.Denotes rightType)
    (same : left.toSql.toList ++ ' ' :: leftRest = right.toSql.toList ++ ' ' :: rightRest) :
    left = right ∧ leftRest = rightRest := by
  have ends (parameters : Option (List Char)) (rest : List Char) :
      ∀ c ∈ (Cut.optional parenthesized parameters ++ ' ' :: rest).head?,
        c.isAlpha = false := by
    intro c member
    cases parameters with
    | none =>
        cases member
        rfl
    | some parameters =>
        cases member
        rfl
  have blank (rest : List Char) : ∀ c ∈ (' ' :: rest).head?, (c == ' ') = true := by
    intro c member
    cases member
    rfl
  rw [toList_toSql, toList_toSql, List.append_assoc, List.append_assoc] at same
  rcases Cut.row_cancel Char.isAlpha (isAlpha_of_mem_keyword _) (isAlpha_of_mem_keyword _)
    (ends _ _) (ends _ _) same with ⟨keywords, afterKeyword⟩
  have closes : ∀ leftInner ∈ left.parameterText, ∀ rightInner ∈ right.parameterText,
      parenthesized leftInner ++ ' ' :: leftRest =
        parenthesized rightInner ++ ' ' :: rightRest →
      leftInner = rightInner ∧ ' ' :: leftRest = ' ' :: rightRest := by
    intro leftInner leftDeclared rightInner rightDeclared equal
    rw [parenthesized, parenthesized, List.cons_append, List.cons_append,
      List.append_assoc, List.append_assoc] at equal
    exact Cut.delimiter_cancel (unclosed_of_parameterText leftDeclared)
      (unclosed_of_parameterText rightDeclared) (List.tail_eq_of_cons_eq equal)
  rcases Cut.optional_cancel (fun _ => ⟨'(', rfl, rfl⟩) (blank leftRest) (blank rightRest)
    closes afterKeyword with ⟨parameters, rest⟩
  have primitives := keyword_injective (String.toList_inj.mp keywords)
  exact ⟨eq_of_parameterText leftDenotes rightDenotes primitives parameters,
    List.tail_eq_of_cons_eq rest⟩

end TypeDecl

end ColumnSchema
