import ColumnSchema.Number.Numeral
import ColumnSchema.Proofs.Cut
import Mathlib.Algebra.Group.Nat.Defs

/-!
# Digit rows and numerals

A row of decimal digits denotes a number below the power of ten that its length
gives, a row is read after another by making room for it, and only zeros denote
zero.

Numerals have a grammar, and the scanner agrees with it in two directions: what it takes
off a text is a numeral of the grammar, and a numeral of the grammar is what it takes off
if nothing that follows could extend it.
-/

namespace ColumnSchema

/-! ## Values of digit rows -/

/-- Every character of the text is a decimal digit. -/
def Digits (text : List Char) : Prop :=
  ∀ c ∈ text, c.isDigit = true

instance (text : List Char) : Decidable (Digits text) :=
  List.decidableBAll _ text

theorem Digits.of_append {left right : List Char} (digits : Digits (left ++ right)) :
    Digits left ∧ Digits right :=
  ⟨fun c member => digits c (List.mem_append_left right member),
    fun c member => digits c (List.mem_append_right left member)⟩

theorem digits_takeWhile (text : List Char) : Digits (text.takeWhile Char.isDigit) :=
  fun _ member => List.all_eq_true.mp List.all_takeWhile _ member

@[simp] theorem isDigits_eq_true {text : List Char} :
    isDigits text = true ↔ text ≠ [] ∧ Digits text := by
  simp [isDigits, Digits]

/-- The digit that a character stands for. -/
theorem digitsValue_singleton (c : Char) : digitsValue [c] = c.toNat - 48 := by
  simp [digitsValue, Nat.ofDigitChars_cons]

theorem digitsValue_append (left right : List Char) :
    digitsValue (left ++ right) =
      10 ^ right.length * digitsValue left + digitsValue right := by
  rw [digitsValue, Nat.ofDigitChars_append, Nat.ofDigitChars_eq_ofDigitChars_zero]
  rfl

theorem digitsValue_cons (c : Char) (rest : List Char) :
    digitsValue (c :: rest) = 10 ^ rest.length * digitsValue [c] + digitsValue rest :=
  digitsValue_append [c] rest

/-- A digit more is worth one place more. -/
theorem ofDigitChars_digit (c : Char) (row : List Char) :
    Nat.ofDigitChars 10 [c] (digitsValue row) = digitsValue (row ++ [c]) := by
  rw [digitsValue, digitsValue, Nat.ofDigitChars_append]

theorem digitsValue_singleton_lt {c : Char} (digit : c.isDigit = true) :
    digitsValue [c] < 10 := by
  have range := Char.isDigit_iff_toNat.mp digit
  rw [digitsValue_singleton]
  simp only [Char.reduceToNat] at range
  omega

theorem digitsValue_singleton_eq_zero {c : Char} (digit : c.isDigit = true) :
    digitsValue [c] = 0 ↔ c = '0' := by
  have range := Char.isDigit_iff_toNat.mp digit
  simp only [Char.reduceToNat] at range
  rw [digitsValue_singleton]
  constructor
  · intro zero
    apply Char.toNat_inj.mp
    simp only [Char.reduceToNat]
    omega
  · rintro rfl
    rfl

/-- A row of digits denotes less than the next power of ten. -/
theorem digitsValue_lt {row : List Char} (digits : Digits row) :
    digitsValue row < 10 ^ row.length := by
  induction row with
  | nil => simp [digitsValue]
  | cons c rest ih =>
      have first := digitsValue_singleton_lt (digits c List.mem_cons_self)
      have others := ih fun d member => digits d (List.mem_cons_of_mem c member)
      rw [digitsValue_cons, List.length_cons, Nat.pow_succ]
      calc 10 ^ rest.length * digitsValue [c] + digitsValue rest
          < 10 ^ rest.length * digitsValue [c] + 10 ^ rest.length :=
            Nat.add_lt_add_left others _
        _ = 10 ^ rest.length * (digitsValue [c] + 1) := (Nat.mul_succ _ _).symm
        _ ≤ 10 ^ rest.length * 10 := Nat.mul_le_mul_left _ first

/-- More digits denote no less. -/
theorem digitsValue_le_append (row more : List Char) :
    digitsValue row ≤ digitsValue (row ++ more) := by
  rw [digitsValue_append]
  have place : 0 < 10 ^ more.length := Nat.pow_pos (by decide)
  exact Nat.le_trans (Nat.le_mul_of_pos_left _ place) (Nat.le_add_right _ _)

/-- Only zeros denote zero. -/
theorem digitsValue_eq_zero {row : List Char} (digits : Digits row) :
    digitsValue row = 0 ↔ ∀ c ∈ row, c = '0' := by
  induction row with
  | nil => simp [digitsValue]
  | cons c rest ih =>
      have digit := digits c List.mem_cons_self
      have others := ih fun d member => digits d (List.mem_cons_of_mem c member)
      have place : 10 ^ rest.length ≠ 0 := Nat.pos_iff_ne_zero.mp (Nat.pow_pos (by decide))
      rw [digitsValue_cons, Nat.add_eq_zero_iff, Nat.mul_eq_zero, others]
      simp only [place, false_or, digitsValue_singleton_eq_zero digit, List.forall_mem_cons]

theorem digits_decimalDigits (number : Nat) : Digits (decimalDigits number) :=
  fun _ => isDigit_of_mem_decimalDigits

theorem digits_zeros (count : Nat) : Digits (List.replicate count '0') := by
  intro c member
  rw [List.eq_of_mem_replicate member]
  rfl

/-- Zeros in front of the digits of a number are digits. -/
theorem digits_leftpad (width number : Nat) :
    Digits ((decimalDigits number).leftpad width '0') :=
  List.forall_mem_append.mpr ⟨digits_zeros _, digits_decimalDigits number⟩

/-- Zeros in front do not change the number. -/
theorem digitsValue_leftpad (width number : Nat) :
    digitsValue ((decimalDigits number).leftpad width '0') = number := by
  rw [List.leftpad, digitsValue_append, digitsValue_decimalDigits,
    (digitsValue_eq_zero (digits_zeros _)).mpr fun c => List.eq_of_mem_replicate,
    Nat.mul_zero, Nat.zero_add]

/-! ## How numerals are written -/

/-- How a sign is written in front of digits. A positive number may go without. -/
inductive Sign.Written : Sign → List Char → Prop where
  | bare : Written .positive []
  | plus : Written .positive ['+']
  | minus : Written .negative ['-']

/-- How the fraction digits are written after the whole ones. Without a point there
are none. -/
inductive Numeral.FractionWritten : List Char → List Char → Prop where
  | pointless : FractionWritten [] []
  | pointed (fraction : List Char) : FractionWritten fraction ('.' :: fraction)

theorem Numeral.fractionWritten_iff {fraction point : List Char} :
    FractionWritten fraction point ↔
      (fraction = [] ∧ point = []) ∨ point = '.' :: fraction := by
  constructor
  · intro written
    cases written with
    | pointless => exact .inl ⟨rfl, rfl⟩
    | pointed => exact .inr rfl
  · rintro (⟨rfl, rfl⟩ | rfl)
    · exact .pointless
    · exact .pointed fraction

/-- The texts that write a numeral: its sign, its whole digits, and a point with its
fraction digits. -/
structure Numeral.Written (numeral : Numeral) (text : List Char) : Prop where
  whole : Digits numeral.whole
  fraction : Digits numeral.fraction
  nonempty : numeral.whole ≠ [] ∨ numeral.fraction ≠ []
  spelled : ∃ sign point, Sign.Written numeral.sign sign ∧
    FractionWritten numeral.fraction point ∧ text = sign ++ (numeral.whole ++ point)

namespace Sign

theorem ne_of_isDigit {c : Char} (digit : c.isDigit = true) : c ≠ '+' ∧ c ≠ '-' := by
  constructor
  · rintro rfl
    cases digit
  · rintro rfl
    cases digit

/-- No sign comes next. -/
def Absent (text : List Char) : Prop :=
  ∀ c ∈ text.head?, c ≠ '+' ∧ c ≠ '-'

theorem Written.forall_mem {sign : Sign} {text : List Char} {p : Char → Prop}
    (written : sign.Written text) (plus : p '+') (minus : p '-') : ∀ c ∈ text, p c := by
  cases written with
  | bare => exact nofun
  | plus => exact List.forall_mem_singleton.mpr plus
  | minus => exact List.forall_mem_singleton.mpr minus

theorem written_of_split {text rest : List Char} {sign : Sign}
    (splits : split text = (sign, rest)) :
    ∃ front, Written sign front ∧ text = front ++ rest := by
  rw [split.eq_def] at splits
  split at splits
  next rest =>
    cases splits
    exact ⟨['+'], .plus, rfl⟩
  next rest =>
    cases splits
    exact ⟨['-'], .minus, rfl⟩
  next =>
    cases splits
    exact ⟨[], .bare, rfl⟩

theorem split_of_absent {text : List Char} (absent : Absent text) :
    split text = (positive, text) := by
  rw [split.eq_def]
  split
  next rest => exact absurd rfl (absent '+' rfl).1
  next rest => exact absurd rfl (absent '-' rfl).2
  next => rfl

theorem split_append {sign : Sign} {front rest : List Char}
    (written : Written sign front) (absent : Absent rest) :
    split (front ++ rest) = (sign, rest) := by
  cases written with
  | bare => exact split_of_absent absent
  | plus => rfl
  | minus => rfl

end Sign

namespace Numeral

/-- Nothing comes next that could belong to a numeral. -/
def Ends (rest : List Char) : Prop :=
  ∀ c ∈ rest.head?, c.isDigit = false ∧ c ≠ '.'

theorem written_of_splitFraction {text fraction rest : List Char}
    (splits : splitFraction text = (fraction, rest)) :
    Digits fraction ∧ ∃ point, FractionWritten fraction point ∧ text = point ++ rest := by
  rw [splitFraction.eq_def] at splits
  split at splits
  next after =>
    cases splits
    refine ⟨digits_takeWhile after, _, .pointed _, ?_⟩
    rw [List.cons_append, List.takeWhile_append_dropWhile]
  next =>
    cases splits
    exact ⟨nofun, [], .pointless, rfl⟩

theorem splitFraction_append {fraction point rest : List Char} (digits : Digits fraction)
    (written : FractionWritten fraction point) (ends : Ends rest) :
    splitFraction (point ++ rest) = (fraction, rest) := by
  cases written with
  | pointless =>
      rw [List.nil_append, splitFraction.eq_def]
      split
      next after => exact absurd rfl (ends '.' rfl).2
      next => rfl
  | pointed =>
      have row := Cut.takeWhile_append digits fun c member => (ends c member).1
      rw [List.cons_append, splitFraction, row.1, row.2]

/-- What the scanner takes off a text is a numeral. -/
theorem written_of_scan? {text rest : List Char} {numeral : Numeral}
    (scanned : scan? text = some (numeral, rest)) :
    ∃ front, numeral.Written front ∧ text = front ++ rest := by
  rw [scan?] at scanned
  cases splits : Sign.split text with
  | mk sign unsigned =>
      cases fractionSplits : splitFraction (unsigned.dropWhile Char.isDigit) with
      | mk fraction after =>
          simp only [splits, fractionSplits] at scanned
          rcases Sign.written_of_split splits with ⟨signText, signWritten, rfl⟩
          rcases written_of_splitFraction fractionSplits with
            ⟨fractionDigits, point, pointWritten, pointed⟩
          split at scanned
          next => cases scanned
          next present =>
            cases scanned
            refine ⟨signText ++ (unsigned.takeWhile Char.isDigit ++ point), ?_, ?_⟩
            · exact {
                whole := digits_takeWhile unsigned
                fraction := fractionDigits
                nonempty := by
                  simp only [Bool.and_eq_true, List.isEmpty_iff, not_and] at present
                  exact Classical.or_iff_not_imp_left.mpr fun missing =>
                    present (Classical.not_not.mp missing)
                spelled := ⟨signText, point, signWritten, pointWritten, rfl⟩ }
            · rw [List.append_assoc, List.append_assoc, ← pointed,
                List.takeWhile_append_dropWhile]

/-- Digits and points are no signs. -/
theorem Written.absent {numeral : Numeral} {text point : List Char} (rest : List Char)
    (written : numeral.Written text) (pointWritten : FractionWritten numeral.fraction point) :
    Sign.Absent (numeral.whole ++ (point ++ rest)) := by
  intro c member
  cases wholeEq : numeral.whole with
  | cons digit others =>
      simp only [wholeEq, List.cons_append, List.head?_cons, Option.mem_some] at member
      subst c
      exact Sign.ne_of_isDigit (written.whole digit (wholeEq ▸ List.mem_cons_self))
  | nil =>
      have fraction := written.nonempty.resolve_left (not_not_intro wholeEq)
      rcases fractionWritten_iff.mp pointWritten with ⟨noFraction, -⟩ | rfl
      · exact absurd noFraction fraction
      · simp only [wholeEq, List.nil_append, List.cons_append, List.head?_cons,
          Option.mem_some] at member
        subst c
        decide

/-- A numeral consists of digits, signs and the point. -/
theorem Written.forall_mem {numeral : Numeral} {text : List Char} {p : Char → Prop}
    (written : numeral.Written text) (digit : ∀ c : Char, c.isDigit = true → p c)
    (plus : p '+') (minus : p '-') (mark : p '.') : ∀ c ∈ text, p c := by
  rcases written.spelled with ⟨sign, point, signWritten, pointWritten, rfl⟩
  have row {digits : List Char} (isRow : Digits digits) : ∀ c ∈ digits, p c :=
    fun c member => digit c (isRow c member)
  have pointed : ∀ c ∈ point, p c := by
    rcases fractionWritten_iff.mp pointWritten with ⟨-, rfl⟩ | rfl
    · exact nofun
    · exact List.forall_mem_cons.mpr ⟨mark, row written.fraction⟩
  exact List.forall_mem_append.mpr
    ⟨signWritten.forall_mem plus minus,
      List.forall_mem_append.mpr ⟨row written.whole, pointed⟩⟩

/-- The scanner takes a numeral off a text if nothing that follows extends it. -/
theorem scan?_append {numeral : Numeral} {front rest : List Char}
    (written : numeral.Written front) (ends : Ends rest) :
    scan? (front ++ rest) = some (numeral, rest) := by
  rcases written.spelled with ⟨sign, point, signWritten, pointWritten, rfl⟩
  have splits := Sign.split_append signWritten (written.absent rest pointWritten)
  have stops : ∀ c ∈ (point ++ rest).head?, c.isDigit = false := by
    intro c member
    rcases fractionWritten_iff.mp pointWritten with ⟨-, rfl⟩ | rfl
    · exact (ends c member).1
    · simp only [List.cons_append, List.head?_cons, Option.mem_some] at member
      subst c
      rfl
  have row := Cut.takeWhile_append written.whole stops
  have fractionSplits := splitFraction_append written.fraction pointWritten ends
  rw [List.append_assoc, List.append_assoc, scan?, splits]
  simp only [row.1, row.2, fractionSplits]
  rw [if_neg]
  simp only [Bool.and_eq_true, List.isEmpty_iff, not_and]
  intro noWhole noFraction
  exact written.nonempty.elim (absurd noWhole) (absurd noFraction)

/-- The scanner takes a whole text that is a numeral. -/
theorem Written.scan?_eq {numeral : Numeral} {text : List Char}
    (written : numeral.Written text) : scan? text = some (numeral, []) := by
  have ends : Ends [] := nofun
  have scanned := scan?_append written ends
  rwa [List.append_nil] at scanned

end Numeral

end ColumnSchema
