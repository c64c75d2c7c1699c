import ColumnSchema.Proofs.Decimal.Exactness

/-!
# Which texts are decimal literals

The numeric literals of SQL are numerals that a power of ten may follow, with one sign
at most in each of the two. Reading a decimal accepts no other texts but one: after
the minus sign of a power a plus sign is skipped. Such a text has the value of the
literal without the plus sign.
-/

namespace ColumnSchema

/-- How a power of ten is written after a numeral: not at all, or as a mark, at most
one sign and one or more digits. -/
inductive PowerText : List Char → Prop where
  | absent : PowerText []
  | present {mark : Char} {sign digits : List Char} (marked : mark = 'e' ∨ mark = 'E')
      (signed : sign = [] ∨ sign = ['+'] ∨ sign = ['-']) (nonempty : digits ≠ [])
      (row : Digits digits) : PowerText (mark :: (sign ++ digits))

/-- The numeric literals of SQL. -/
def IsNumericText (text : List Char) : Prop :=
  ∃ (numeral : Numeral) (front back : List Char),
    numeral.Written front ∧ PowerText back ∧ text = front ++ back

/-- The first text is the second one, a numeric literal with a negative power, with a
plus sign put after the minus sign of that power. -/
def HasExtraPlus (text plain : List Char) : Prop :=
  ∃ (numeral : Numeral) (front : List Char) (mark : Char) (digits : List Char),
    numeral.Written front ∧ (mark = 'e' ∨ mark = 'E') ∧ digits ≠ [] ∧ Digits digits ∧
      text = front ++ mark :: '-' :: '+' :: digits ∧ plain = front ++ mark :: '-' :: digits

theorem PowerText.negative {mark : Char} {digits : List Char}
    (marked : mark = 'e' ∨ mark = 'E') (nonempty : digits ≠ []) (row : Digits digits) :
    PowerText (mark :: '-' :: digits) :=
  @present mark ['-'] digits marked (.inr (.inr rfl)) nonempty row

theorem PowerText.exists_powerWritten {back : List Char} (written : PowerText back) :
    ∃ power, Scientific.PowerWritten power back := by
  cases written with
  | absent => exact ⟨0, .unwritten⟩
  | present marked signed nonempty row =>
      obtain bare | plus | minus := signed
      · exact ⟨_, .up marked (.inl bare) nonempty row⟩
      · exact ⟨_, .up marked (.inr plus) nonempty row⟩
      · rw [minus]
        exact ⟨_, .down marked (.inl rfl) nonempty row⟩

/-- A power that is read has one sign at most, or the two. -/
theorem Scientific.PowerWritten.powerText_or {power : Int} {back : List Char}
    (written : PowerWritten power back) :
    PowerText back ∨ ∃ mark digits, (mark = 'e' ∨ mark = 'E') ∧ digits ≠ [] ∧
      Digits digits ∧ back = mark :: '-' :: '+' :: digits := by
  cases written with
  | unwritten => exact .inl .absent
  | up marked signed nonempty row =>
      exact .inl (.present marked (signed.imp_right .inl) nonempty row)
  | @down mark plus digits marked signed nonempty row =>
      cases signed with
      | inl bare =>
          rw [bare, List.nil_append]
          exact .inl (.negative marked nonempty row)
      | inr plus =>
          rw [plus]
          exact .inr ⟨mark, digits, marked, nonempty, row, rfl⟩

/-- No sign stands after the sign of a power. -/
theorem not_powerText_of_extraPlus (mark : Char) (digits : List Char) :
    ¬ PowerText (mark :: '-' :: '+' :: digits) := by
  intro written
  generalize textEq : mark :: '-' :: '+' :: digits = text at written
  cases written with
  | absent => cases textEq
  | @present _ sign row _ signed _ isRow =>
      have afterMark := List.tail_eq_of_cons_eq textEq
      obtain rfl | rfl | rfl := signed
      · have rest : '-' :: '+' :: digits = row := afterMark
        cases isRow '-' (rest ▸ List.mem_cons_self)
      · cases afterMark
      · have rest : '+' :: digits = row := List.tail_eq_of_cons_eq afterMark
        cases isRow '+' (rest ▸ List.mem_cons_self)

/-- After the numeral at its front a numeric literal has a power of ten or nothing. -/
theorem IsNumericText.exists_scan? {text : List Char} (numeric : IsNumericText text) :
    ∃ numeral back, Numeral.scan? text = some (numeral, back) ∧ PowerText back := by
  obtain ⟨numeral, front, back, written, power, rfl⟩ := numeric
  obtain ⟨_, powerWritten⟩ := power.exists_powerWritten
  exact ⟨numeral, back, Numeral.scan?_append written powerWritten.ends, power⟩

namespace HasExtraPlus

variable {text plain : List Char}

/-- With the extra sign a text is no numeric literal, and without it it is one. -/
theorem isNumericText (extra : HasExtraPlus text plain) :
    ¬ IsNumericText text ∧ IsNumericText plain := by
  obtain ⟨numeral, front, mark, digits, written, marked, nonempty, row, rfl, rfl⟩ := extra
  constructor
  · intro numeric
    obtain ⟨numeral', back, scanned, power⟩ := numeric.exists_scan?
    have extraWritten : Scientific.PowerWritten _ (mark :: '-' :: '+' :: digits) :=
      @Scientific.PowerWritten.down mark ['+'] digits marked (.inr rfl) nonempty row
    rw [Numeral.scan?_append written extraWritten.ends] at scanned
    cases scanned
    exact not_powerText_of_extraPlus mark digits power
  · exact ⟨numeral, front, _, written, .negative marked nonempty row, rfl⟩

/-- The extra sign does not change what is read. -/
theorem read?_eq (extra : HasExtraPlus text plain) :
    Decimal.read? text = Decimal.read? plain := by
  obtain ⟨numeral, front, mark, digits, written, marked, nonempty, row, rfl, rfl⟩ := extra
  have withPlus : Scientific.PowerWritten _ (mark :: '-' :: '+' :: digits) :=
    @Scientific.PowerWritten.down mark ['+'] digits marked (.inr rfl) nonempty row
  have without : Scientific.PowerWritten _ (mark :: '-' :: digits) :=
    @Scientific.PowerWritten.down mark [] digits marked (.inl rfl) nonempty row
  have powers : Decimal.power? ('+' :: digits) = Decimal.power? digits :=
    (@Decimal.power?_append ['+'] digits (.inr rfl) nonempty row).trans
      (@Decimal.power?_append [] digits (.inl rfl) nonempty row).symm
  rw [Decimal.read?, Decimal.read?, Numeral.scan?_append written withPlus.ends,
    Numeral.scan?_append written without.ends]
  simp only [Decimal.applyPower?, powers]

end HasExtraPlus

namespace Decimal

/-- What is read is a numeric literal, or would be one without the extra sign. -/
theorem isNumericText_or_of_read? {text : List Char} {value : Decimal}
    (read : read? text = some value) :
    IsNumericText text ∨ ∃ plain, HasExtraPlus text plain := by
  obtain ⟨number, front, back, written, powerWritten, rfl⟩ := exists_written_of_read? read
  cases powerWritten.powerText_or with
  | inl power => exact .inl ⟨number.numeral, front, back, written, power, rfl⟩
  | inr extra =>
      obtain ⟨mark, digits, marked, nonempty, row, rfl⟩ := extra
      exact .inr ⟨_, number.numeral, front, mark, digits, written, marked, nonempty, row,
        rfl, rfl⟩

end Decimal

namespace Literal

/-- A text that is not accepted is no decimal. -/
theorem decimal_eq_error {text : String} (unread : Decimal.read? text.toList = none) :
    decimal text = .error (.invalidDecimal text) := by
  rw [decimal, unread]

/-- Only numeric literals are accepted as decimals, except that a text with the extra
sign is accepted whenever the numeric literal without it is, and as the same decimal.
All other texts are rejected as no decimals. -/
theorem decimal_isNumericText (text : String) :
    (∀ value, decimal text = .ok value → IsNumericText text.toList ∨
        ∃ plain : String, HasExtraPlus text.toList plain.toList) ∧
      (∀ plain : String, HasExtraPlus text.toList plain.toList →
        ¬ IsNumericText text.toList ∧ IsNumericText plain.toList ∧
          ∀ value, decimal text = .ok value ↔ decimal plain = .ok value) ∧
      (¬ IsNumericText text.toList →
        (∀ plain : String, ¬ HasExtraPlus text.toList plain.toList) →
          decimal text = .error (.invalidDecimal text)) := by
  have accepted (value : Decimal) (read : Decimal.read? text.toList = some value) :
      IsNumericText text.toList ∨ ∃ plain : String, HasExtraPlus text.toList plain.toList := by
    refine (Decimal.isNumericText_or_of_read? read).imp_right ?_
    intro ⟨plain, extra⟩
    exact ⟨String.ofList plain, by rwa [String.toList_ofList]⟩
  refine ⟨?_, ?_, ?_⟩
  · intro value literal
    exact accepted value (decimal_eq_ok.mp literal)
  · intro plain extra
    refine ⟨extra.isNumericText.1, extra.isNumericText.2, ?_⟩
    intro value
    rw [decimal_eq_ok, decimal_eq_ok, extra.read?_eq]
  · intro notNumeric notExtra
    apply decimal_eq_error
    cases read : Decimal.read? text.toList with
    | none => rfl
    | some value =>
        cases accepted value read with
        | inl numeric => exact absurd numeric notNumeric
        | inr extra =>
            obtain ⟨plain, extra⟩ := extra
            exact absurd extra (notExtra plain)

/-- A half, written with two signs before its power of ten. -/
theorem decimal_isNumericText_half :
    HasExtraPlus "+5.E-+1".toList "+5.E-1".toList ∧ IsNumericText "+5.E-1".toList ∧
      decimal "+5.E-+1" = .ok ⟨.positive, 5, 1, by decide, by decide⟩ := by
  have extra : HasExtraPlus "+5.E-+1".toList "+5.E-1".toList := by
    refine ⟨⟨.positive, ['5'], []⟩, ['+', '5', '.'], 'E', ['1'], ?_, .inr rfl, ?_, ?_, rfl, rfl⟩
    · exact {
        whole := by decide
        fraction := by decide
        nonempty := by decide
        spelled := ⟨['+'], ['.'], .plus, .pointed [], rfl⟩ }
    · exact List.cons_ne_nil '1' []
    · decide
  have plain := (decimal_isNumericText "+5.E-+1").2.1 "+5.E-1" extra
  exact ⟨extra, plain.2.1, (plain.2.2 _).mpr rfl⟩

/-- Two signs before a power are accepted, though they are no numeric literal. -/
theorem decimal_accepts_extraPlus :
    decimal "1e-+5" = .ok ⟨.positive, 1, 5, by decide, by decide⟩ ∧
      ¬ IsNumericText "1e-+5".toList := by
  refine ⟨rfl, ?_⟩
  intro numeric
  obtain ⟨numeral, back, scanned, power⟩ := numeric.exists_scan?
  cases scanned
  exact not_powerText_of_extraPlus 'e' ['5'] power

end Literal

end ColumnSchema
