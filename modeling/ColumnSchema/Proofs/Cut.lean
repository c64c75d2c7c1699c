/-!
# Cutting texts

A text can be cut in one way only where the kind of its characters changes. So two
texts that are written one after the other can be told apart again if the first
ends with a delimiter that it does not contain otherwise, if what follows it starts
with a character of another kind, or if it is optional and shows by its first
character whether it is there.
-/

namespace ColumnSchema.Cut

/-- Characters of one kind end at the first character of another. -/
theorem takeWhile_append {p : Char → Bool} {row rest : List Char}
    (kind : ∀ c ∈ row, p c = true) (ends : ∀ c ∈ rest.head?, p c = false) :
    (row ++ rest).takeWhile p = row ∧ (row ++ rest).dropWhile p = rest := by
  rw [List.takeWhile_append_of_pos kind, List.dropWhile_append_of_pos kind]
  cases rest with
  | nil => simp
  | cons c rest =>
      have stops : ¬ p c = true := by simp [ends c rfl]
      rw [List.takeWhile_cons_of_neg stops, List.dropWhile_cons_of_neg stops,
        List.append_nil]
      exact ⟨rfl, rfl⟩

/-- Rows of one kind are equal if they can be followed by other kinds to give equal
texts. -/
theorem row_cancel (p : Char → Bool) {left right leftRest rightRest : List Char}
    (leftKind : ∀ c ∈ left, p c = true) (rightKind : ∀ c ∈ right, p c = true)
    (leftEnds : ∀ c ∈ leftRest.head?, p c = false)
    (rightEnds : ∀ c ∈ rightRest.head?, p c = false)
    (same : left ++ leftRest = right ++ rightRest) :
    left = right ∧ leftRest = rightRest := by
  have leftCut := takeWhile_append leftKind leftEnds
  have rightCut := takeWhile_append rightKind rightEnds
  rw [same] at leftCut
  exact ⟨leftCut.1.symm.trans rightCut.1, leftCut.2.symm.trans rightCut.2⟩

/-- A delimiter cuts a text where it first stands. -/
theorem delimiter_cancel {delimiter : Char} {left right leftRest rightRest : List Char}
    (leftFree : delimiter ∉ left) (rightFree : delimiter ∉ right)
    (same : left ++ delimiter :: leftRest = right ++ delimiter :: rightRest) :
    left = right ∧ leftRest = rightRest := by
  have others {row : List Char} (free : delimiter ∉ row) :
      ∀ c ∈ row, (c != delimiter) = true := by
    intro c member
    rw [bne_iff_ne]
    rintro rfl
    exact free member
  have ends {rest : List Char} :
      ∀ c ∈ (delimiter :: rest).head?, (c != delimiter) = false := by
    intro c member
    cases member
    exact bne_self_eq_false delimiter
  rcases row_cancel (· != delimiter) (others leftFree) (others rightFree) ends ends same
    with ⟨equal, rest⟩
  exact ⟨equal, List.tail_eq_of_cons_eq rest⟩

/-- A row of one kind at the end of a text does not reach back over a character of another
kind. -/
theorem suffix_of_kind {p : Char → Bool} {row front rest : List Char} {mark : Char}
    (kind : ∀ c ∈ row, p c = true) (other : p mark = false)
    (suffix : row <:+ front ++ mark :: rest) : row <:+ rest := by
  have unmarked : mark ∉ row := by
    intro member
    rw [kind mark member] at other
    cases other
  rcases List.suffix_or_suffix_of_suffix suffix (List.suffix_append front (mark :: rest))
    with shorter | longer
  · rcases List.suffix_cons_iff.mp shorter with rfl | inRest
    · exact absurd List.mem_cons_self unmarked
    · exact inRest
  · exact absurd (longer.subset List.mem_cons_self) unmarked

/-- A character of another kind cuts a text where it last stands. -/
theorem last_cancel {p : Char → Bool} {leftFront left rightFront right : List Char}
    {leftMark rightMark : Char} (leftKind : ∀ c ∈ left, p c = true)
    (rightKind : ∀ c ∈ right, p c = true) (leftOther : p leftMark = false)
    (rightOther : p rightMark = false)
    (same : leftFront ++ leftMark :: left = rightFront ++ rightMark :: right) :
    leftFront = rightFront ∧ leftMark = rightMark ∧ left = right := by
  have leftSuffix : left <:+ rightFront ++ rightMark :: right :=
    same ▸ (List.suffix_cons leftMark left).trans (List.suffix_append _ _)
  have rightSuffix : right <:+ leftFront ++ leftMark :: left :=
    same ▸ (List.suffix_cons rightMark right).trans (List.suffix_append _ _)
  have inRight := suffix_of_kind leftKind rightOther leftSuffix
  have inLeft := suffix_of_kind rightKind leftOther rightSuffix
  obtain rfl := inRight.eq_of_length_le inLeft.length_le
  obtain ⟨front, tail⟩ := List.append_inj' same rfl
  exact ⟨front, List.head_eq_of_cons_eq tail, rfl⟩

/-- The text of a value that may be absent. -/
def optional {α : Type} (text : α → List Char) : Option α → List Char
  | none => []
  | some value => text value

/-- An optional text can be told from what follows it if the two cannot start with
the same character. -/
theorem optional_cancel {α : Type} {text : α → List Char} {p : Char → Bool}
    {left right : Option α} {leftRest rightRest : List Char}
    (opens : ∀ value, ∃ c ∈ (text value).head?, p c = false)
    (leftFollows : ∀ c ∈ leftRest.head?, p c = true)
    (rightFollows : ∀ c ∈ rightRest.head?, p c = true)
    (cancel : ∀ leftValue ∈ left, ∀ rightValue ∈ right,
      text leftValue ++ leftRest = text rightValue ++ rightRest →
        leftValue = rightValue ∧ leftRest = rightRest)
    (same : optional text left ++ leftRest = optional text right ++ rightRest) :
    left = right ∧ leftRest = rightRest := by
  have absent {value : α} {rest following : List Char}
      (follows : ∀ c ∈ following.head?, p c = true) :
      text value ++ rest ≠ following := by
    rcases opens value with ⟨c, first, other⟩
    rintro rfl
    have same := follows c (by rw [List.head?_append, Option.mem_def.mp first]; rfl)
    rw [other] at same
    cases same
  cases left with
  | none =>
      cases right with
      | none => exact ⟨rfl, same⟩
      | some value => exact absurd same.symm (absent leftFollows)
  | some leftValue =>
      cases right with
      | none => exact absurd same (absent rightFollows)
      | some rightValue =>
          rcases cancel leftValue rfl rightValue rfl same with ⟨equal, rest⟩
          exact ⟨congrArg some equal, rest⟩

/-- An optional text shows whether it is there if it is never empty. -/
theorem optional_injective {α : Type} {text : α → List Char}
    (nonempty : ∀ value, text value ≠ []) (injective : Function.Injective text) :
    Function.Injective (optional text) := by
  intro left right same
  cases left with
  | none =>
      cases right with
      | none => rfl
      | some value => exact absurd same.symm (nonempty value)
  | some leftValue =>
      cases right with
      | none => exact absurd same (nonempty leftValue)
      | some rightValue => exact congrArg some (injective same)

end ColumnSchema.Cut
