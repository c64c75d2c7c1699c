import ColumnSchema.Proofs.Analysis
import ColumnSchema.Proofs.LiteralCharacters
import ColumnSchema.Proofs.NamePolicy
import ColumnSchema.Proofs.Rendering.TypeDecl

/-!
# Reading columns off their SQL

Texts stand in the SQL of a column as they are, nothing is escaped. It still shows
all its parts, since a name has no backtick, no literal has a quotation mark, and
the comment, which may have anything, comes last. Only the default of a text column
could contain what looks like the parts that follow it.
-/

namespace ColumnSchema

/-- The parts of a column that its SQL shows. -/
@[ext] structure Shown where
  name : String
  type : TypeDecl
  aggregation : Option Aggregation
  nullable : Bool
  defaultText : Option String
  comment : String

namespace Shown

def toSql (shown : Shown) : String :=
  columnSql shown.name shown.type.toSql shown.aggregation shown.nullable
    shown.defaultText shown.comment

/-- No part can be mistaken for the end of it. -/
structure Legible (shown : Shown) : Prop where
  name : '`' ∉ shown.name.toList
  type : ∃ type, shown.type.Denotes type
  defaultText : ∀ text ∈ shown.defaultText, '\"' ∉ text.toList

/-! ## The parts after the type -/

def aggregationSegment (aggregation : Aggregation) : List Char :=
  (aggregation.keyword ++ " ").toList

def nullabilitySegment (nullable : Bool) : List Char :=
  (if nullable then "" else "NOT NULL ").toList

def defaultSegment (text : String) : List Char :=
  ("DEFAULT \"" ++ text ++ "\" ").toList

def commentSegment (comment : String) : List Char :=
  "COMMENT \"".toList ++ (comment.toList ++ "\"".toList)

/-- What stands after the type. -/
def tailText (shown : Shown) : List Char :=
  Cut.optional aggregationSegment shown.aggregation ++
    (nullabilitySegment shown.nullable ++
      (Cut.optional defaultSegment shown.defaultText ++ commentSegment shown.comment))

/-- The SQL as a row of characters. -/
theorem toList_toSql (shown : Shown) :
    shown.toSql.toList =
      '`' :: (shown.name.toList ++ '`' :: ' ' ::
        (shown.type.toSql.toList ++ ' ' :: shown.tailText)) := by
  rcases shown with ⟨name, type, aggregation, nullable, defaultText, comment⟩
  rw [toSql, columnSql.eq_def]
  simp only [String.toList_append, List.append_assoc]
  cases aggregation <;> cases defaultText <;> rfl

/-! ## Telling the parts apart -/

/-- What can follow the aggregation: a nullability, a default or the comment. -/
def followsAggregation (c : Char) : Bool :=
  ['N', 'D', 'C'].contains c

/-- What can follow the nullability: a default or the comment. -/
def followsNullability (c : Char) : Bool :=
  ['D', 'C'].contains c

/-- What can follow the default: the comment. -/
def followsDefault (c : Char) : Bool :=
  c == 'C'

theorem comment_follows (comment : String) :
    ∀ c ∈ (commentSegment comment).head?, followsDefault c = true := by
  intro c member
  cases member
  rfl

theorem head?_defaultSegment (text : String) : (defaultSegment text).head? = some 'D' := by
  rw [defaultSegment, String.toList_append, String.toList_append, List.append_assoc]
  rfl

theorem default_follows (text : Option String) (comment : String) :
    ∀ c ∈ (Cut.optional defaultSegment text ++ commentSegment comment).head?,
      followsNullability c = true := by
  intro c member
  cases text with
  | none =>
      cases member
      rfl
  | some text =>
      rw [Cut.optional, List.head?_append, head?_defaultSegment] at member
      cases member
      rfl

theorem nullability_follows (nullable : Bool) (text : Option String) (comment : String) :
    ∀ c ∈ (nullabilitySegment nullable ++
        (Cut.optional defaultSegment text ++ commentSegment comment)).head?,
      followsAggregation c = true := by
  intro c member
  cases nullable with
  | false =>
      cases member
      rfl
  | true =>
      have follows := default_follows text comment c member
      simp only [followsNullability, followsAggregation, List.contains_iff_mem] at follows ⊢
      exact List.mem_cons_of_mem 'N' follows

theorem keyword_injective : Function.Injective Aggregation.keyword :=
  Outcome.injective_of_ok Aggregation.ofKeyword_keyword

theorem aggregation_cancel {left right : Option Aggregation}
    {leftRest rightRest : List Char}
    (leftFollows : ∀ c ∈ leftRest.head?, followsAggregation c = true)
    (rightFollows : ∀ c ∈ rightRest.head?, followsAggregation c = true)
    (same : Cut.optional aggregationSegment left ++ leftRest =
      Cut.optional aggregationSegment right ++ rightRest) :
    left = right ∧ leftRest = rightRest := by
  have opens (aggregation : Aggregation) :
      ∃ c ∈ (aggregationSegment aggregation).head?, followsAggregation c = false := by
    cases aggregation <;> exact ⟨_, rfl, rfl⟩
  have oneWord (aggregation : Aggregation) : ' ' ∉ aggregation.keyword.toList := by
    cases aggregation <;> simp [Aggregation.keyword]
  refine Cut.optional_cancel opens leftFollows rightFollows ?_ same
  intro leftValue _ rightValue _ equal
  rw [aggregationSegment, aggregationSegment, String.toList_append, String.toList_append,
    List.append_assoc, List.append_assoc] at equal
  rcases Cut.delimiter_cancel (oneWord leftValue) (oneWord rightValue) equal with
    ⟨keywords, rest⟩
  exact ⟨keyword_injective (String.toList_inj.mp keywords), rest⟩

theorem nullability_cancel {left right : Bool} {leftRest rightRest : List Char}
    (leftFollows : ∀ c ∈ leftRest.head?, followsNullability c = true)
    (rightFollows : ∀ c ∈ rightRest.head?, followsNullability c = true)
    (same : nullabilitySegment left ++ leftRest = nullabilitySegment right ++ rightRest) :
    left = right ∧ leftRest = rightRest := by
  cases left with
  | true =>
      cases right with
      | true => exact ⟨rfl, same⟩
      | false =>
          have opens : leftRest.head? = some 'N' := congrArg List.head? same
          cases leftFollows 'N' opens
  | false =>
      cases right with
      | true =>
          have opens : rightRest.head? = some 'N' := congrArg List.head? same.symm
          cases rightFollows 'N' opens
      | false => exact ⟨rfl, List.append_cancel_left same⟩

theorem default_cancel {left right : Option String} {leftRest rightRest : List Char}
    (leftUnquoted : ∀ text ∈ left, '\"' ∉ text.toList)
    (rightUnquoted : ∀ text ∈ right, '\"' ∉ text.toList)
    (leftFollows : ∀ c ∈ leftRest.head?, followsDefault c = true)
    (rightFollows : ∀ c ∈ rightRest.head?, followsDefault c = true)
    (same : Cut.optional defaultSegment left ++ leftRest =
      Cut.optional defaultSegment right ++ rightRest) :
    left = right ∧ leftRest = rightRest := by
  have opens (text : String) :
      ∃ c ∈ (defaultSegment text).head?, followsDefault c = false :=
    ⟨'D', head?_defaultSegment text, rfl⟩
  refine Cut.optional_cancel opens leftFollows rightFollows ?_ same
  intro leftText leftMember rightText rightMember equal
  rw [defaultSegment, defaultSegment, String.toList_append, String.toList_append,
    String.toList_append, String.toList_append, List.append_assoc, List.append_assoc,
    List.append_assoc, List.append_assoc] at equal
  have texts := List.append_cancel_left equal
  rcases Cut.delimiter_cancel (leftUnquoted leftText leftMember)
    (rightUnquoted rightText rightMember) texts with ⟨textEq, rest⟩
  exact ⟨String.toList_inj.mp textEq, List.tail_eq_of_cons_eq rest⟩

theorem default_injective : Function.Injective defaultSegment := by
  intro left right same
  have texts := List.append_cancel_right
    (String.toList_append.symm.trans (same.trans String.toList_append))
  rw [String.toList_append, String.toList_append] at texts
  exact String.toList_inj.mp (List.append_cancel_left texts)

theorem comment_injective : Function.Injective commentSegment := by
  intro left right same
  have texts := List.append_cancel_left same
  exact String.toList_inj.mp (List.append_cancel_right texts)

/-- A legible column can be read off its SQL. -/
theorem toSql_inj {left right : Shown} (leftLegible : left.Legible)
    (rightLegible : right.Legible) (same : left.toSql = right.toSql) : left = right := by
  rcases leftLegible.type with ⟨leftType, leftDenotes⟩
  rcases rightLegible.type with ⟨rightType, rightDenotes⟩
  have texts := congrArg String.toList same
  rw [toList_toSql, toList_toSql] at texts
  rcases Cut.delimiter_cancel leftLegible.name rightLegible.name
    (List.tail_eq_of_cons_eq texts) with ⟨names, afterName⟩
  rcases TypeDecl.toSql_cancel leftDenotes rightDenotes
    (List.tail_eq_of_cons_eq afterName) with ⟨types, afterType⟩
  rcases aggregation_cancel (nullability_follows _ _ _) (nullability_follows _ _ _)
    afterType with ⟨aggregations, afterAggregation⟩
  rcases nullability_cancel (default_follows _ _) (default_follows _ _)
    afterAggregation with ⟨nullabilities, afterNullability⟩
  rcases default_cancel leftLegible.defaultText rightLegible.defaultText
    (comment_follows _) (comment_follows _) afterNullability with ⟨defaults, comments⟩
  exact Shown.ext (String.toList_inj.mp names) types aggregations nullabilities defaults
    (comment_injective comments)

/-- If nothing but the type and the default is in question, both can be read off the
SQL whatever the texts are: around the default all is known. -/
theorem type_and_default_of_toSql_eq {shown : Shown} {decl : TypeDecl}
    {defaultText : Option String} {type type' : ScalarType}
    (denotes : shown.type.Denotes type) (denotes' : decl.Denotes type')
    (same : shown.toSql = { shown with type := decl, defaultText }.toSql) :
    shown.type = decl ∧ shown.defaultText = defaultText := by
  have texts := congrArg String.toList same
  rw [toList_toSql, toList_toSql] at texts
  have afterName := List.append_cancel_left (List.tail_eq_of_cons_eq texts)
  have typeAndTail := List.tail_eq_of_cons_eq (List.tail_eq_of_cons_eq afterName)
  rcases TypeDecl.toSql_cancel denotes denotes' typeAndTail with ⟨types, tails⟩
  have afterNullability := List.append_cancel_left (List.append_cancel_left tails)
  have nonempty (text : String) : defaultSegment text ≠ [] := by
    intro empty
    have opens := head?_defaultSegment text
    rw [empty] at opens
    cases opens
  exact ⟨types, Cut.optional_injective nonempty default_injective
    (List.append_cancel_right afterNullability)⟩

end Shown

/-! ## Accepted columns -/

/-- The default of a text column has no quotation mark. -/
def Column.Unquoted (column : Column) : Prop :=
  column.type.primitive.isString = true → ∀ text ∈ column.defaultText, '\"' ∉ text.toList

/-- What the SQL of a column shows. -/
def Column.shown (column : Column) : Shown :=
  { column with type := .ofScalar column.type }

/-- The definition that shows these parts. -/
def Shown.toDefinition (shown : Shown) (key : Bool) : Definition :=
  { shown with name := some shown.name, type := some shown.type, key }

theorem Column.toSql_shown (column : Column) : column.shown.toSql = column.toSql := by
  rw [Shown.toSql, Column.toSql, shown, TypeDecl.toSql_ofScalar]

theorem Shown.toSql_toDefinition (shown : Shown) (key : Bool) :
    (shown.toDefinition key).toSql = shown.toSql := rfl

theorem IsName.no_backtick {name : List Char} (identifier : IsName name) : '`' ∉ name := by
  rcases identifier with ⟨first, rest, rfl, start, others⟩
  intro member
  rcases List.mem_cons.mp member with rfl | inRest
  · exact absurd start (by decide)
  · exact absurd (others '`' inRest) (by decide)

namespace Definition.Declares

variable {definition : Definition} {settings : TableSettings} {column : Column}

/-- Of the defaults only those of text columns can have a quotation mark. -/
theorem unquoted (declares : definition.Declares settings column)
    (textUnquoted : column.Unquoted) : ∀ text ∈ column.defaultText, '\"' ∉ text.toList := by
  intro text member
  cases string : column.type.primitive.isString with
  | true => exact textUnquoted string text member
  | false =>
      by_cases hll : column.type = .hll
      · rw [(declares.sketch hll).2] at member
        cases member
        decide
      · exact (ScalarType.isLiteralText_of_checkDefault string hll
          (declares.valid text member)).not_mem (by decide)

theorem legible_shown (declares : definition.Declares settings column)
    (textUnquoted : column.Unquoted) : column.shown.Legible where
  name := (NamePolicy.fault?_eq_none.mp declares.policy).1.no_backtick
  type := by
    rcases declares.type with ⟨decl, -, denotes⟩
    exact ⟨column.type, TypeDecl.denotes_ofScalar denotes.legal⟩
  defaultText := declares.unquoted textUnquoted

/-- Accepted columns that show the same differ in their keys at most. -/
theorem eq_of_shown_eq {left right : Definition} {leftSettings rightSettings : TableSettings}
    {leftColumn rightColumn : Column} (leftDeclares : left.Declares leftSettings leftColumn)
    (rightDeclares : right.Declares rightSettings rightColumn)
    (same : leftColumn.shown = rightColumn.shown) :
    { leftColumn with key := rightColumn.key } = rightColumn := by
  rcases leftDeclares.type with ⟨_, -, leftDenotes⟩
  rcases rightDeclares.type with ⟨_, -, rightDenotes⟩
  have types := TypeDecl.ofScalar_inj leftDenotes.legal rightDenotes.legal
    (congrArg Shown.type same)
  cases leftColumn
  cases rightColumn
  cases types
  simp only [Column.shown, Shown.mk.injEq, true_and] at same
  simp only [Column.mk.injEq, true_and]
  exact same

/-- An accepted definition shows the parts of its column, but for the type, which it
shows as it was declared, and for the default of a sketch. -/
theorem eq_toDefinition (declares : definition.Declares settings column) {decl : TypeDecl}
    (typed : definition.type = some decl) :
    definition =
      Shown.toDefinition
        { column.shown with type := decl, defaultText := definition.defaultText }
        definition.key := by
  cases definition
  simp only [Shown.toDefinition, Definition.mk.injEq, true_and]
  exact ⟨declares.name, typed, declares.aggregation.symm, declares.nullable.symm,
    declares.comment.symm⟩

/-- An accepted definition shows its own type and the default as it was declared. -/
theorem exists_shown (declares : definition.Declares settings column)
    (textUnquoted : column.Unquoted) :
    ∃ shown : Shown, shown.Legible ∧ definition = shown.toDefinition definition.key := by
  rcases declares.type with ⟨decl, typeEq, denotes⟩
  have legible := declares.legible_shown textUnquoted
  refine ⟨{ column.shown with type := decl, defaultText := definition.defaultText }, ?_,
    declares.eq_toDefinition typeEq⟩
  refine ⟨legible.name, ⟨column.type, denotes⟩, ?_⟩
  intro text member
  by_cases hll : column.type = .hll
  · rw [(declares.sketch hll).1] at member
    cases member
  · rw [← declares.plain hll] at member
    exact legible.defaultText text member

end Definition.Declares

namespace Definition

/-- The SQL of accepted columns is the same exactly if they agree on all but the key,
and so is the SQL of their definitions. -/
theorem toSql_eq_iff_of_analyze {left right : Definition}
    {leftSettings rightSettings : TableSettings} {leftColumn rightColumn : Column}
    (leftAccepted : left.analyze leftSettings = .ok leftColumn)
    (rightAccepted : right.analyze rightSettings = .ok rightColumn)
    (leftUnquoted : leftColumn.Unquoted) (rightUnquoted : rightColumn.Unquoted) :
    (leftColumn.toSql = rightColumn.toSql ↔
        { leftColumn with key := rightColumn.key } = rightColumn) ∧
      (left.toSql = right.toSql ↔ { left with key := right.key } = right) := by
  have leftDeclares := declares_of_analyze leftAccepted
  have rightDeclares := declares_of_analyze rightAccepted
  constructor
  · constructor
    · intro same
      rw [← Column.toSql_shown, ← Column.toSql_shown] at same
      have shown := Shown.toSql_inj (leftDeclares.legible_shown leftUnquoted)
        (rightDeclares.legible_shown rightUnquoted) same
      exact leftDeclares.eq_of_shown_eq rightDeclares shown
    · intro agree
      rw [← agree]
      rfl
  · constructor
    · intro same
      rcases leftDeclares.exists_shown leftUnquoted with ⟨leftShown, leftLegible, leftEq⟩
      rcases rightDeclares.exists_shown rightUnquoted with
        ⟨rightShown, rightLegible, rightEq⟩
      rw [leftEq, rightEq, Shown.toSql_toDefinition, Shown.toSql_toDefinition] at same
      rw [leftEq, rightEq, Shown.toSql_inj leftLegible rightLegible same]
      rfl
    · intro agree
      rw [← agree]
      rfl

/-- A city as a text column with a quotation mark in its comment. -/
def city : Definition where
  name := some "city"
  type := some (.varchar 20)
  key := true
  defaultText := some "Bonn"
  comment := "the \"home\" city"

/-- The same city as it is shown by a column that is no key. -/
def cityValue : Definition :=
  { city with key := false }

def cityColumn : Column where
  name := "city"
  type := .varchar (some 20)
  key := true
  aggregation := none
  nullable := false
  defaultText := some "Bonn"
  comment := "the \"home\" city"

/-- Another city of the same name. -/
def otherCity : Definition :=
  { city with defaultText := some "Bern" }

def otherCityColumn : Column :=
  { cityColumn with defaultText := some "Bern" }

/-- The key does not show, and the default does. -/
theorem toSql_eq_iff_of_analyze_city :
    city.analyze { olap := true } = .ok cityColumn ∧
      cityColumn.toSql = { cityColumn with key := false }.toSql ∧
      city.toSql = cityValue.toSql ∧
      otherCity.analyze { olap := true } = .ok otherCityColumn ∧
      cityColumn.toSql ≠ otherCityColumn.toSql ∧
      city.toSql ≠ otherCity.toSql := by
  have accepted : city.analyze { olap := true } = .ok cityColumn := rfl
  have acceptedValue :
      cityValue.analyze { olap := false } = .ok { cityColumn with key := false } := rfl
  have acceptedOther : otherCity.analyze { olap := true } = .ok otherCityColumn := rfl
  have unquoted : cityColumn.Unquoted := by
    intro _ text member
    cases member
    decide
  have unquotedOther : otherCityColumn.Unquoted := by
    intro _ text member
    cases member
    decide
  have same := toSql_eq_iff_of_analyze accepted acceptedValue unquoted unquoted
  have other := toSql_eq_iff_of_analyze accepted acceptedOther unquoted unquotedOther
  refine ⟨accepted, same.1.mpr rfl, same.2.mpr rfl, acceptedOther, ?_, ?_⟩
  · intro equal
    exact absurd (other.1.mp equal) (by decide)
  · intro equal
    exact absurd (other.2.mp equal) (by decide)

/-- A quotation mark in the default of a text column can pass for the one after it,
so that a part of the default is taken for the comment. -/
example :
    columnSql "city" "VARCHAR(20)" none true (some "x\" COMMENT \"y") "z" =
      columnSql "city" "VARCHAR(20)" none true (some "x") "y\" COMMENT \"z" := by
  rfl

end Definition

end ColumnSchema
