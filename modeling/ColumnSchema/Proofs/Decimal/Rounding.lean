import ColumnSchema.Number.Decimal
import ColumnSchema.Proofs.Decimal.Value

/-!
# Where reading a decimal rounds

A numeral is read exactly as long as its fraction digits have room. Digits are
dropped when the mantissa is nearly full, which leaves a mantissa of at least 28
digits, or after the 28th fraction digit. In the second case the decimal is still
the number of the numeral if the dropped digits are zeros, and only then. A power
of ten afterwards is exact unless it brings the scale to 28.
-/

namespace ColumnSchema.Decimal

theorem ofParts?_eq_some {sign : Sign} {mantissa scale : Nat} {value : Decimal} :
    ofParts? sign mantissa scale = some value ↔
      value.sign = sign ∧ value.mantissa = mantissa ∧ value.scale = scale := by
  rw [ofParts?]
  constructor
  · intro made
    split at made
    next =>
      cases made
      exact ⟨rfl, rfl, rfl⟩
    next => cases made
  · rintro ⟨rfl, rfl, rfl⟩
    exact dif_pos ⟨value.mantissa_lt, value.scale_le⟩

/-- The parts of a decimal determine its number. -/
theorem toRat_of_ofParts? {sign : Sign} {mantissa scale : Nat} {value : Decimal}
    (made : ofParts? sign mantissa scale = some value) :
    value.toRat = sign.decimalRat mantissa scale := by
  rcases ofParts?_eq_some.mp made with ⟨rfl, rfl, rfl⟩
  rfl

/-! ## Reading a numeral -/

/-- The fraction digits of a row are absorbed up to some digit; one that is left
over had no room in the scale or none in the mantissa. -/
theorem absorb_digitsValue (row : List Char) (scale : Nat) (fraction : List Char) :
    ∃ taken rest, fraction = taken ++ rest ∧
      absorb (digitsValue row) scale fraction =
        (digitsValue (row ++ taken), scale + taken.length, rest) ∧
      ∀ c ∈ rest.head?,
        2 ^ 96 ≤ digitsValue (row ++ taken ++ [c]) ∨ 28 ≤ scale + taken.length := by
  induction fraction generalizing row scale with
  | nil => exact ⟨[], [], rfl, by simp [absorb], nofun⟩
  | cons c fraction ih =>
      rw [absorb, ofDigitChars_digit, Nat.pow_eq]
      split
      next room =>
        rcases ih (row ++ [c]) (scale + 1) with ⟨taken, rest, split, absorbed, stops⟩
        refine ⟨c :: taken, rest, by rw [split, List.cons_append], ?_, ?_⟩
        · rw [absorbed, List.append_assoc, List.singleton_append, List.length_cons,
            Nat.add_right_comm, Nat.add_assoc]
        · intro d member
          have stop := stops d member
          rw [List.append_assoc row [c] taken, List.singleton_append] at stop
          rw [List.length_cons]
          omega
      next full =>
        refine ⟨[], c :: fraction, rfl, by simp, ?_⟩
        intro d member
        cases member
        rw [List.append_nil, List.length_nil]
        omega

/-- Digits are absorbed to the last if there is room for all of them. -/
theorem absorb_eq_of_room {row fraction : List Char} {scale : Nat}
    (room : digitsValue (row ++ fraction) < 2 ^ 96) (places : scale + fraction.length ≤ 28) :
    absorb (digitsValue row) scale fraction =
      (digitsValue (row ++ fraction), scale + fraction.length, []) := by
  rcases absorb_digitsValue row scale fraction with ⟨taken, rest, split, absorbed, stops⟩
  cases rest with
  | nil =>
      rw [absorbed, split, List.append_nil]
  | cons c rest =>
      rw [split, List.length_append, List.length_cons] at places
      have whole : row ++ fraction = row ++ taken ++ [c] ++ rest := by simp [split]
      have grows := digitsValue_le_append (row ++ taken ++ [c]) rest
      rw [← whole] at grows
      have stop := stops c rfl
      omega

/-- A mantissa without room for another digit has 28 digits. -/
theorem large_of_full {row : List Char} {c : Char} (digit : c.isDigit = true)
    (full : 2 ^ 96 ≤ digitsValue (row ++ [c])) : 10 ^ 27 ≤ digitsValue row := by
  have last := digitsValue_singleton_lt digit
  rw [digitsValue_append, List.length_singleton] at full
  omega

/-- Rounding up adds one to the mantissa or leaves one of 28 digits. -/
theorem roundUp?_eq_some {sign : Sign} {mantissa scale : Nat} {value : Decimal}
    (rounded : roundUp? sign mantissa scale = some value) :
    ofParts? sign (mantissa + 1) scale = some value ∨ 10 ^ 27 ≤ value.mantissa := by
  cases scale with
  | zero => exact .inl rounded
  | succ scale =>
      rw [roundUp?, Nat.pow_eq] at rounded
      split at rounded
      next => exact .inl rounded
      next full =>
        rcases ofParts?_eq_some.mp rounded with ⟨-, mantissaEq, -⟩
        rw [mantissaEq]
        omega

@[simp] theorem mantissa_unsignZero (value : Decimal) :
    value.unsignZero.mantissa = value.mantissa := by
  rw [unsignZero]
  split
  next => rfl
  next => rfl

@[simp] theorem scale_unsignZero (value : Decimal) :
    value.unsignZero.scale = value.scale := by
  rw [unsignZero]
  split
  next => rfl
  next => rfl

/-- Zero is the same number with either sign. -/
@[simp] theorem toRat_unsignZero (value : Decimal) :
    value.unsignZero.toRat = value.toRat := by
  rw [unsignZero]
  split
  next zero =>
    simp only [toRat, Sign.decimalRat, zero]
    cases value.sign with
    | positive => rfl
    | negative => simp [Sign.apply]
  next => rfl

/-- Dropping digits keeps the number if they are zeros and only then. -/
theorem decimalRat_append_iff (sign : Sign) {row rest : List Char} (digits : Digits rest)
    (scale : Nat) :
    sign.decimalRat (digitsValue row) scale =
        sign.decimalRat (digitsValue (row ++ rest)) (scale + rest.length) ↔
      ∀ c ∈ rest, c = '0' := by
  rw [Sign.decimalRat_eq_iff, digitsValue_append, pow_add, ← digitsValue_eq_zero digits]
  have unit : 0 < 10 ^ scale := Nat.pow_pos (by decide)
  have common : digitsValue row * (10 ^ scale * 10 ^ rest.length) =
      10 ^ rest.length * digitsValue row * 10 ^ scale := by ring
  rw [common, Nat.add_mul, Nat.left_eq_add, Nat.mul_eq_zero]
  exact or_iff_left unit.ne'

/-- Rounding up at dropped digits never keeps the number. -/
theorem decimalRat_succ_ne (sign : Sign) {row rest : List Char} (digits : Digits rest)
    (scale : Nat) :
    sign.decimalRat (digitsValue row + 1) scale ≠
      sign.decimalRat (digitsValue (row ++ rest)) (scale + rest.length) := by
  rw [Ne, Sign.decimalRat_eq_iff, digitsValue_append, pow_add]
  have unit : 0 < 10 ^ scale := Nat.pow_pos (by decide)
  have below := Nat.mul_lt_mul_of_pos_right (digitsValue_lt digits) unit
  have common : (digitsValue row + 1) * (10 ^ scale * 10 ^ rest.length) =
      10 ^ rest.length * digitsValue row * 10 ^ scale + 10 ^ rest.length * 10 ^ scale := by
    ring
  rw [common, Nat.add_mul, Nat.add_right_inj]
  exact below.ne'

/-- A numeral keeps its digits if there is room for all of them. -/
theorem ofNumeral?_eq_of_room {numeral : Numeral} (room : numeral.significand < 2 ^ 96)
    (places : numeral.fraction.length ≤ 28) :
    ofNumeral? numeral = (ofParts? numeral.sign numeral.significand
      numeral.fraction.length).map unsignZero := by
  have absorbed : absorb (digitsValue numeral.whole) 0 numeral.fraction =
      (numeral.significand, numeral.fraction.length, []) := by
    rw [absorb_eq_of_room room (by omega), Nat.zero_add, Numeral.significand]
  simp only [ofNumeral?, absorbed]

/-- A numeral is read digit for digit if there is room for all of them. -/
theorem exists_ofNumeral?_of_room {numeral : Numeral} (room : numeral.significand < 2 ^ 96)
    (places : numeral.fraction.length ≤ 28) :
    ∃ value, ofNumeral? numeral = some value ∧ value.mantissa = numeral.significand ∧
      value.scale = numeral.fraction.length ∧ value.toRat = numeral.toRat := by
  let value : Decimal :=
    ⟨numeral.sign, numeral.significand, numeral.fraction.length, room, places⟩
  have made : ofParts? numeral.sign numeral.significand numeral.fraction.length = some value :=
    ofParts?_eq_some.mpr ⟨rfl, rfl, rfl⟩
  refine ⟨value.unsignZero, ?_, ?_, ?_, ?_⟩
  · rw [ofNumeral?_eq_of_room room places, made, Option.map_some]
  · rw [mantissa_unsignZero]
  · rw [scale_unsignZero]
  · rw [toRat_unsignZero, toRat_of_ofParts? made, Numeral.toRat]

/-- Unless the mantissa has 28 digits, a fraction digit is left over only when the scale
is full. -/
theorem scale_full_of_ofParts? {sign : Sign} {row taken : List Char} {c : Char}
    {mantissa : Nat} {value : Decimal} (digit : c.isDigit = true)
    (stops : 2 ^ 96 ≤ digitsValue (row ++ taken ++ [c]) ∨ 28 ≤ taken.length)
    (above : digitsValue (row ++ taken) ≤ mantissa)
    (made : ofParts? sign mantissa taken.length = some value)
    (small : value.mantissa < 10 ^ 27) : taken.length = 28 ∧ value.scale = 28 := by
  rcases ofParts?_eq_some.mp made with ⟨-, mantissaEq, scaleEq⟩
  have atMost := value.scale_le
  rcases stops with full | full
  · have large := large_of_full digit full
    omega
  · exact ⟨by omega, by omega⟩

/-- Unless its mantissa has 28 digits, a decimal keeps 28 fraction digits of the
numeral that it was read from. It is the number of that numeral exactly if the
others are zeros. -/
theorem scale_and_toRat_of_ofNumeral? {numeral : Numeral} {value : Decimal}
    (digits : Digits numeral.fraction) (read : ofNumeral? numeral = some value)
    (small : value.mantissa < 10 ^ 27) :
    value.scale = min numeral.fraction.length 28 ∧
      (value.toRat = numeral.toRat ↔ ∀ c ∈ numeral.fraction.drop 28, c = '0') := by
  rcases absorb_digitsValue numeral.whole 0 numeral.fraction with
    ⟨taken, rest, split, absorbed, stops⟩
  rw [ofNumeral?, absorbed] at read
  rcases Option.map_eq_some_iff.mp read with ⟨rounded, roundedEq, rfl⟩
  rw [mantissa_unsignZero] at small
  rw [scale_unsignZero, toRat_unsignZero, Numeral.toRat, Numeral.significand]
  rw [split] at digits ⊢
  rw [Nat.zero_add] at roundedEq stops
  cases rest with
  | nil =>
      have parts := ofParts?_eq_some.mp roundedEq
      have atMost : taken.length ≤ 28 := parts.2.2 ▸ rounded.scale_le
      rw [toRat_of_ofParts? roundedEq, List.append_nil, List.drop_eq_nil_of_le atMost]
      exact ⟨by rw [parts.2.2, Nat.min_eq_left atMost], iff_of_true rfl (List.forall_mem_nil _)⟩
  | cons c rest =>
      have dropped : Digits (c :: rest) := digits.of_append.2
      have digit := dropped c List.mem_cons_self
      have kept : taken.length = 28 → min (taken ++ c :: rest).length 28 = 28 ∧
          (taken ++ c :: rest).drop 28 = c :: rest := by
        intro exact
        refine ⟨Nat.min_eq_right ?_, by rw [← exact, List.drop_left]⟩
        rw [List.length_append, exact]
        exact Nat.le_add_right 28 _
      dsimp only at roundedEq
      split at roundedEq
      next =>
        rcases scale_full_of_ofParts? digit (stops c rfl) (Nat.le_refl _) roundedEq small
          with ⟨full, scale⟩
        rw [scale, (kept full).1, (kept full).2, toRat_of_ofParts? roundedEq,
          ← List.append_assoc, List.length_append]
        exact ⟨rfl, decimalRat_append_iff numeral.sign dropped taken.length⟩
      next half =>
        rcases roundUp?_eq_some roundedEq with made | large
        · rcases scale_full_of_ofParts? digit (stops c rfl) (Nat.le_succ _) made small
            with ⟨full, scale⟩
          rw [scale, (kept full).1, (kept full).2, toRat_of_ofParts? made,
            ← List.append_assoc, List.length_append]
          refine ⟨rfl, iff_of_false
            (decimalRat_succ_ne numeral.sign dropped taken.length) ?_⟩
          intro zeros
          rw [zeros c List.mem_cons_self] at half
          exact half (by decide)
        · exact absurd small (Nat.not_lt.mpr large)

/-! ## Applying a power of ten -/

/-- The decimal is another one multiplied by a power of ten, nothing rounded. -/
structure Moved (value moved : Decimal) (power : ℤ) : Prop where
  toRat : moved.toRat = value.toRat * 10 ^ power
  mantissa : value.mantissa ≤ moved.mantissa
  /-- Fraction digits are lost to the power only. -/
  scale : value.scale ≤ moved.scale + power

/-- No power leaves the decimal as it is. -/
theorem Moved.refl (value : Decimal) : Moved value value 0 where
  toRat := by rw [zpow_zero, mul_one]
  mantissa := Nat.le_refl _
  scale := (add_zero (value.scale : ℤ)).ge

/-- Dividing by a power of ten is exact as long as the scale stays below the
largest. -/
theorem moved_of_scaleDown? {value scaled : Decimal} {power : Nat}
    (scales : value.scaleDown? power = some scaled) (room : scaled.scale < 28) :
    Moved value scaled (-power) := by
  rw [scaleDown?] at scales
  split at scales
  next =>
    rcases ofParts?_eq_some.mp scales with ⟨-, mantissaEq, scaleEq⟩
    exact {
      toRat := by
        rw [toRat_of_ofParts? scales, Decimal.toRat]
        exact (value.sign.decimalRat_mul_zpow value.mantissa (by omega)).symm
      mantissa := mantissaEq.ge
      scale := by omega }
  next =>
    rcases ofParts?_eq_some.mp scales with ⟨-, -, scaleEq⟩
    omega

/-- Multiplying by a power of ten is exact. -/
theorem moved_of_scaleUp? {value scaled : Decimal} {power : Nat}
    (scales : value.scaleUp? power = some scaled) : Moved value scaled power := by
  rw [scaleUp?] at scales
  split at scales
  next =>
    rcases ofParts?_eq_some.mp scales with ⟨-, mantissaEq, scaleEq⟩
    exact {
      toRat := by
        rw [toRat_of_ofParts? scales, Decimal.toRat]
        exact (value.sign.decimalRat_mul_zpow value.mantissa (by omega)).symm
      mantissa := mantissaEq.ge
      scale := by omega }
  next above =>
    rcases ofParts?_eq_some.mp scales with ⟨-, mantissaEq, scaleEq⟩
    exact {
      toRat := by
        have appended : value.toRat = value.sign.decimalRat
            (value.mantissa * 10 ^ (power - value.scale))
            (value.scale + (power - value.scale)) := by
          rw [Decimal.toRat, Sign.decimalRat_eq_iff, pow_add]
          ring
        rw [toRat_of_ofParts? scales, appended]
        exact (value.sign.decimalRat_mul_zpow _ (by omega)).symm
      mantissa := by
        rw [mantissaEq]
        exact Nat.le_mul_of_pos_right _ (Nat.pow_pos (by decide))
      scale := by omega }

end ColumnSchema.Decimal
