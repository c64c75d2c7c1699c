import ColumnSchema.Proofs.Decimal.Rounding
import ColumnSchema.Proofs.Numeral

/-!
# Numerals with a power of ten

A decimal is written as a numeral that a power of ten may follow, and such a text
denotes the product of the two. Every text from which a decimal is read is of this
form, in one way only, and the decimal comes from that of its numeral by that
power. Reading a text is the same as reading it as a plain numeral first, and if that
fails, splitting it at its first mark of a power.
-/

namespace ColumnSchema

/-- A numeral and the power of ten by which it is multiplied. -/
structure Scientific where
  numeral : Numeral
  power : Int
  deriving DecidableEq, Repr

namespace Scientific

/-- The exact number, nothing rounded. -/
def toRat (number : Scientific) : ℚ :=
  number.numeral.toRat * 10 ^ number.power

/-- How a power of ten is written after a numeral: not at all, or as a mark and
digits, with a minus sign before a negative power. A plus sign may stand in front
of the digits, even after the minus sign. -/
inductive PowerWritten : Int → List Char → Prop where
  | unwritten : PowerWritten 0 []
  | up {mark : Char} {plus digits : List Char} (marked : mark = 'e' ∨ mark = 'E')
      (signed : plus = [] ∨ plus = ['+']) (nonempty : digits ≠ []) (row : Digits digits) :
      PowerWritten (digitsValue digits) (mark :: (plus ++ digits))
  | down {mark : Char} {plus digits : List Char} (marked : mark = 'e' ∨ mark = 'E')
      (signed : plus = [] ∨ plus = ['+']) (nonempty : digits ≠ []) (row : Digits digits) :
      PowerWritten (-digitsValue digits) (mark :: '-' :: (plus ++ digits))

/-- The texts that write a number. -/
def Written (number : Scientific) (text : List Char) : Prop :=
  ∃ front back, number.numeral.Written front ∧ PowerWritten number.power back ∧
    text = front ++ back

theorem isExponentMark_eq_true {c : Char} :
    Numeral.isExponentMark c = true ↔ c = 'e' ∨ c = 'E' := by
  simp [Numeral.isExponentMark]

/-- The mark of a power does not belong to the numeral before it. -/
theorem ends_mark {mark : Char} (back : List Char) (marked : mark = 'e' ∨ mark = 'E') :
    Numeral.Ends (mark :: back) := by
  intro c member
  cases member
  rcases marked with rfl | rfl
  · decide
  · decide

theorem PowerWritten.ends {power : Int} {back : List Char}
    (written : PowerWritten power back) : Numeral.Ends back := by
  cases written with
  | unwritten => exact nofun
  | up marked | down marked => exact ends_mark _ marked

/-- The digits of a power are the same whether or not a plus sign is skipped. -/
theorem digits_cancel {plus digits plus' digits' : List Char}
    (signed : plus = [] ∨ plus = ['+']) (signed' : plus' = [] ∨ plus' = ['+'])
    (row : Digits digits) (row' : Digits digits')
    (same : plus ++ digits = plus' ++ digits') : digits = digits' := by
  have noDigit {rest row : List Char} (digits : Digits row) : row ≠ '+' :: rest := by
    rintro rfl
    cases digits '+' List.mem_cons_self
  rcases signed with rfl | rfl
  · rcases signed' with rfl | rfl
    · exact same
    · exact absurd same (noDigit row)
  · rcases signed' with rfl | rfl
    · exact absurd same.symm (noDigit row')
    · exact List.tail_eq_of_cons_eq same

/-- A minus sign starts no digits. -/
theorem minus_ne {plus digits rest : List Char} (signed : plus = [] ∨ plus = ['+'])
    (row : Digits digits) : '-' :: rest ≠ plus ++ digits := by
  intro same
  rcases signed with rfl | rfl
  · rw [List.nil_append] at same
    have digit := row '-' (same ▸ List.mem_cons_self)
    cases digit
  · cases same

theorem PowerWritten.unique {left right : Int} {text : List Char}
    (leftWritten : PowerWritten left text) (rightWritten : PowerWritten right text) :
    left = right := by
  -- One text has two shapes here, so they are compared as an equation.
  generalize textEq : text = text' at rightWritten
  cases leftWritten with
  | unwritten =>
      cases rightWritten with
      | unwritten => rfl
      | up => cases textEq
      | down => cases textEq
  | up _ signed _ row =>
      cases rightWritten with
      | unwritten => cases textEq
      | up _ signed' _ row' =>
          rw [digits_cancel signed signed' row row' (List.tail_eq_of_cons_eq textEq)]
      | down => exact absurd (List.tail_eq_of_cons_eq textEq).symm (minus_ne signed row)
  | down _ signed _ row =>
      cases rightWritten with
      | unwritten => cases textEq
      | up _ signed' _ row' =>
          exact absurd (List.tail_eq_of_cons_eq textEq) (minus_ne signed' row')
      | down _ signed' _ row' =>
          have rest := List.tail_eq_of_cons_eq (List.tail_eq_of_cons_eq textEq)
          rw [digits_cancel signed signed' row row' rest]

/-- No text writes two numbers. -/
theorem Written.unique {left right : Scientific} {text : List Char}
    (leftWritten : left.Written text) (rightWritten : right.Written text) :
    left = right := by
  rcases leftWritten with ⟨front, back, numeral, power, rfl⟩
  rcases rightWritten with ⟨front', back', numeral', power', textEq⟩
  have scanned := Numeral.scan?_append numeral power.ends
  rw [textEq, Numeral.scan?_append numeral' power'.ends] at scanned
  cases left
  cases right
  cases scanned
  cases power.unique power'
  rfl

end Scientific

namespace Decimal

/-- The digits of a power, with or without a plus sign, are read as they are, up to
28. -/
theorem power?_append {plus digits : List Char} (signed : plus = [] ∨ plus = ['+'])
    (nonempty : digits ≠ []) (row : Digits digits) :
    power? (plus ++ digits) =
      if digitsValue digits ≤ 28 then some (digitsValue digits) else none := by
  have isRow : isDigits digits = true := isDigits_eq_true.mpr ⟨nonempty, row⟩
  rcases signed with rfl | rfl
  · rw [List.nil_append, power?.eq_def]
    split
    next rest =>
      have plus := row '+' List.mem_cons_self
      cases plus
    next => simp [isRow]
  · simp [power?, isRow]

/-- Only digits, with or without a plus sign, are read as a power. -/
theorem eq_append_of_power? {text : List Char} {power : Nat}
    (read : power? text = some power) :
    ∃ plus digits, (plus = [] ∨ plus = ['+']) ∧ digits ≠ [] ∧ Digits digits ∧
      text = plus ++ digits ∧ digitsValue digits = power := by
  rw [power?.eq_def] at read
  simp only [Option.ite_none_right_eq_some, Bool.and_eq_true, isDigits_eq_true,
    Option.some.injEq] at read
  split at read
  next rest =>
    rcases read with ⟨⟨⟨nonempty, row⟩, -⟩, value⟩
    exact ⟨['+'], rest, .inr rfl, nonempty, row, rfl, value⟩
  next =>
    rcases read with ⟨⟨⟨nonempty, row⟩, -⟩, value⟩
    exact ⟨[], text, .inl rfl, nonempty, row, rfl, value⟩

/-- A power without a minus sign multiplies. -/
theorem applyPower?_append (value : Decimal) {plus digits : List Char}
    (signed : plus = [] ∨ plus = ['+']) (row : Digits digits) :
    value.applyPower? (plus ++ digits) = (power? (plus ++ digits)).bind value.scaleUp? := by
  rw [applyPower?.eq_def]
  split
  next rest minus => exact absurd minus.symm (Scientific.minus_ne signed row)
  next => rfl

/-- A numeral without a power is read as it is. -/
theorem read?_eq_ofNumeral? {numeral : Numeral} {text : List Char}
    (written : numeral.Written text) : read? text = ofNumeral? numeral := by
  rw [read?, written.scan?_eq]

/-- A decimal read from a written number comes from the decimal of the numeral by
the power, which is exact unless it fills the scale. -/
theorem exists_base_of_read? {number : Scientific} {text : List Char} {value : Decimal}
    (written : number.Written text) (read : read? text = some value) :
    ∃ base, ofNumeral? number.numeral = some base ∧
      (value.scale < 28 → Moved base value number.power) := by
  rcases number with ⟨numeral, power⟩
  rcases written with ⟨front, back, numeralWritten, powerWritten, rfl⟩
  rw [read?, Numeral.scan?_append numeralWritten powerWritten.ends] at read
  cases powerWritten with
  | unwritten => exact ⟨value, read, fun _ => .refl value⟩
  | up marked signed nonempty row =>
      dsimp only at read
      rw [if_pos (Scientific.isExponentMark_eq_true.mpr marked)] at read
      rcases Option.bind_eq_some_iff.mp read with ⟨base, baseEq, applied⟩
      rw [applyPower?_append base signed row, power?_append signed nonempty row] at applied
      split at applied
      next => exact ⟨base, baseEq, fun _ => moved_of_scaleUp? applied⟩
      next => cases applied
  | down marked signed nonempty row =>
      dsimp only at read
      rw [if_pos (Scientific.isExponentMark_eq_true.mpr marked)] at read
      rcases Option.bind_eq_some_iff.mp read with ⟨base, baseEq, applied⟩
      rw [applyPower?, power?_append signed nonempty row] at applied
      split at applied
      next => exact ⟨base, baseEq, moved_of_scaleDown? applied⟩
      next => cases applied

/-- Every text from which a decimal is read writes a number. -/
theorem exists_written_of_read? {text : List Char} {value : Decimal}
    (read : read? text = some value) : ∃ number : Scientific, number.Written text := by
  rw [read?.eq_def] at read
  split at read
  next => cases read
  next numeral scanned =>
    rcases Numeral.written_of_scan? scanned with ⟨front, written, rfl⟩
    exact ⟨⟨numeral, 0⟩, front, [], written, .unwritten, rfl⟩
  next numeral mark power scanned =>
    rcases Numeral.written_of_scan? scanned with ⟨front, written, rfl⟩
    split at read
    next marked =>
      rcases Option.bind_eq_some_iff.mp read with ⟨base, -, applied⟩
      have mark := Scientific.isExponentMark_eq_true.mp marked
      rw [applyPower?.eq_def] at applied
      split at applied
      next digits =>
        rcases Option.bind_eq_some_iff.mp applied with ⟨magnitude, powerRead, -⟩
        rcases eq_append_of_power? powerRead with
          ⟨plus, digits, signed, nonempty, row, rfl, -⟩
        exact ⟨⟨numeral, -digitsValue digits⟩, front, _, written,
          .down mark signed nonempty row, rfl⟩
      next =>
        rcases Option.bind_eq_some_iff.mp applied with ⟨magnitude, powerRead, -⟩
        rcases eq_append_of_power? powerRead with
          ⟨plus, digits, signed, nonempty, row, rfl, -⟩
        exact ⟨⟨numeral, digitsValue digits⟩, front, _, written,
          .up mark signed nonempty row, rfl⟩
    next => cases read

/-! ## The reader in parts -/

/-- The decimal of a text that is a numeral and nothing else. -/
def plain? (text : List Char) : Option Decimal :=
  match Numeral.scan? text with
  | some (numeral, []) => ofNumeral? numeral
  | _ => none

/-- The decimal of a text that is split at its first mark: what stands before the mark is
plain, and the power after it is applied. -/
def scientific? (text : List Char) : Option Decimal :=
  match text.dropWhile (!Numeral.isExponentMark ·) with
  | [] => none
  | _ :: power =>
    (plain? (text.takeWhile (!Numeral.isExponentMark ·))).bind (applyPower? · power)

/-- No mark of a power stands within a numeral. -/
theorem unmarked_of_written {numeral : Numeral} {text : List Char}
    (written : numeral.Written text) :
    ∀ c ∈ text, (!Numeral.isExponentMark c) = true := by
  refine written.forall_mem ?_ (by decide) (by decide) (by decide)
  intro c digit
  rw [Bool.not_eq_true', Bool.eq_false_iff, Ne, Scientific.isExponentMark_eq_true]
  rintro (rfl | rfl)
  · cases digit
  · cases digit

/-- A numeral before a mark is multiplied by the power after it. -/
theorem scientific?_append {numeral : Numeral} {front back : List Char} {mark : Char}
    (written : numeral.Written front) (marked : Numeral.isExponentMark mark = true) :
    scientific? (front ++ mark :: back) =
      (ofNumeral? numeral).bind (applyPower? · back) := by
  have ends : ∀ c ∈ (mark :: back).head?, (!Numeral.isExponentMark c) = false := by
    intro c member
    cases member
    rw [marked, Bool.not_true]
  have cut := Cut.takeWhile_append (unmarked_of_written written) ends
  rw [scientific?, cut.1, cut.2, plain?, written.scan?_eq]

/-- A text that is read after being split is scanned up to a mark. -/
theorem exists_scan?_of_scientific? {text : List Char} {value : Decimal}
    (read : scientific? text = some value) :
    ∃ numeral mark back, Numeral.scan? text = some (numeral, mark :: back) ∧
      Numeral.isExponentMark mark = true := by
  rw [scientific?] at read
  split at read
  next => cases read
  next mark back rest =>
    obtain ⟨base, baseEq, -⟩ := Option.bind_eq_some_iff.mp read
    have marked : Numeral.isExponentMark mark = true := by
      have stops := List.head?_dropWhile_not (!Numeral.isExponentMark ·) text
      rw [rest] at stops
      simpa using stops
    rw [plain?] at baseEq
    split at baseEq
    next numeral scanned =>
      obtain ⟨front, written, frontEq⟩ := Numeral.written_of_scan? scanned
      rw [List.append_nil] at frontEq
      have whole : text = front ++ mark :: back := by
        rw [← frontEq, ← rest, List.takeWhile_append_dropWhile]
      have ends := Scientific.ends_mark back (Scientific.isExponentMark_eq_true.mp marked)
      exact ⟨numeral, mark, back, whole ▸ Numeral.scan?_append written ends, marked⟩
    next => cases baseEq

/-- A text is read as a plain numeral, or else it is split at its first mark. -/
theorem read?_eq_or (text : List Char) :
    read? text = (plain? text).or (scientific? text) := by
  have unsplit (other : ∀ numeral mark back,
      Numeral.scan? text = some (numeral, mark :: back) →
        Numeral.isExponentMark mark = false) : scientific? text = none := by
    cases read : scientific? text with
    | none => rfl
    | some value =>
        obtain ⟨numeral, mark, back, scanned, marked⟩ := exists_scan?_of_scientific? read
        rw [other numeral mark back scanned] at marked
        cases marked
  cases scanned : Numeral.scan? text with
  | none => rw [read?, plain?, scanned, unsplit (by simp [scanned]), Option.none_or]
  | some found =>
      obtain ⟨numeral, rest⟩ := found
      cases rest with
      | nil => rw [read?, plain?, scanned, unsplit (by simp [scanned]), Option.or_none]
      | cons mark back =>
          rw [read?, plain?, scanned, Option.none_or]
          dsimp only
          split
          next marked =>
            obtain ⟨front, written, rfl⟩ := Numeral.written_of_scan? scanned
            rw [scientific?_append written marked]
          next unmarked =>
            rw [unsplit]
            intro numeral' mark' back' scanned'
            cases scanned.symm.trans scanned'
            exact Bool.eq_false_iff.mpr unmarked

end Decimal

end ColumnSchema
