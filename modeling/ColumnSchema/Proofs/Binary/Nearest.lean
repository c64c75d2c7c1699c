import ColumnSchema.Number.Binary
import Mathlib.Algebra.Order.Field.Basic
import Mathlib.Algebra.Order.Field.Power
import Mathlib.Algebra.Order.Field.Rat
import Mathlib.Tactic.FieldSimp
import Mathlib.Tactic.Linarith
import Mathlib.Tactic.NormNum
import Mathlib.Tactic.Ring

/-!
# The nearest binary magnitude

A number is rounded to the magnitude of a format that is nearest to it, and of two that
are equally near to the even one. The number has a unit in the format, the smallest one
in which the format has room for its digits. Counted in this unit, the magnitudes with
the same unit or a larger one are whole numbers, and those with a smaller unit lie
further off than the least whole number that has all digits. So it is enough to round
the count to the nearest whole number.
-/

namespace ColumnSchema

/-! ## Nearest whole numbers -/

/-- The whole number is as near to the number as can be, and even if another one is
equally near. -/
structure NearestWhole (number : ℚ) (whole : ℕ) : Prop where
  close : |number - whole| ≤ 1 / 2
  even : |number - whole| = 1 / 2 → Even whole

namespace NearestWhole

variable {number : ℚ} {whole : ℕ}

theorem of_lt (close : |number - whole| < 1 / 2) : NearestWhole number whole where
  close := close.le
  even := fun tie => absurd tie close.ne

/-- Other whole numbers are at least half a unit away. -/
theorem half_le (nearest : NearestWhole number whole) {other : ℤ} (different : other ≠ whole) :
    1 / 2 ≤ |number - other| := by
  have apart : (1 : ℚ) ≤ |(whole : ℚ) - other| := by
    have whole_sub : (1 : ℤ) ≤ |(whole : ℤ) - other| := by
      apply Int.one_le_abs
      rw [sub_ne_zero]
      exact different.symm
    exact_mod_cast whole_sub
  have triangle := abs_sub_le (whole : ℚ) number other
  rw [abs_sub_comm (whole : ℚ) number] at triangle
  linarith [nearest.close]

theorem le (nearest : NearestWhole number whole) (other : ℤ) :
    |number - whole| ≤ |number - other| := by
  by_cases same : other = whole
  · rw [same, Int.cast_natCast]
  · exact nearest.close.trans (nearest.half_le same)

/-- A number that does not exceed a whole number does not do so when rounded. -/
theorem whole_le (nearest : NearestWhole number whole) {bound : ℕ} (le : number ≤ bound) :
    whole ≤ bound := by
  by_contra above
  have next : (bound : ℚ) + 1 ≤ whole := by exact_mod_cast Nat.lt_of_not_le above
  have close := (abs_le.mp nearest.close).1
  linarith

theorem le_whole (nearest : NearestWhole number whole) {bound : ℕ} (le : bound ≤ number) :
    bound ≤ whole := by
  by_contra below
  have next : (whole : ℚ) + 1 ≤ bound := by exact_mod_cast Nat.lt_of_not_le below
  have close := (abs_le.mp nearest.close).2
  linarith

/-- Halfway below an even number it is already rounded up to it. -/
theorem whole_lt_iff (nearest : NearestWhole number whole) {bound : ℕ} (even : Even bound) :
    whole < bound ↔ number < bound - 1 / 2 := by
  have close := abs_le.mp nearest.close
  constructor
  · intro below
    have next : (whole : ℚ) + 1 ≤ bound := by exact_mod_cast below
    by_contra above
    have tie : number - whole = 1 / 2 := by linarith
    have last : (whole : ℚ) + 1 = bound := by linarith
    have wholeEven := nearest.even (by rw [tie, abs_of_pos one_half_pos])
    have successor : bound = whole + 1 := by exact_mod_cast last.symm
    exact Nat.not_even_iff_odd.mpr wholeEven.add_one (successor ▸ even)
  · intro below
    have less : (whole : ℚ) < bound := by linarith
    exact_mod_cast less

end NearestWhole

/-! ## Formats -/

namespace Binary

/-- The number that a magnitude denotes. -/
def toRat (value : Binary) : ℚ :=
  value.mantissa * 2 ^ value.exponent

end Binary

namespace BinaryFormat

/-- The magnitudes of a format, each in one way: the mantissa has all binary digits
unless the format has no smaller unit. -/
structure Holds (format : BinaryFormat) (value : Binary) : Prop where
  mantissa_lt : value.mantissa < 2 ^ format.precision
  le_exponent : format.minExponent ≤ value.exponent
  exponent_le : value.exponent ≤ format.maxExponent
  normal : value.exponent = format.minExponent ∨ 2 ^ (format.precision - 1) ≤ value.mantissa

/-- The format has magnitudes with at least two digits. -/
structure Proper (format : BinaryFormat) : Prop where
  precise : 2 ≤ format.precision
  ordered : format.minExponent ≤ format.maxExponent

/-- The number is rounded to the magnitude: no other one of the format is nearer, and
the mantissa is even if another one is as near. -/
structure Nearest (format : BinaryFormat) (number : ℚ) (value : Binary) : Prop where
  holds : format.Holds value
  le : ∀ other, format.Holds other → |number - value.toRat| ≤ |number - other.toRat|
  even : ∀ other, format.Holds other → other.toRat ≠ value.toRat →
    |number - value.toRat| = |number - other.toRat| → Even value.mantissa

/-- The unit in which the number is rounded: in it the number has all its binary
digits before the point and no more, unless the format has no unit so small. -/
structure IsUnit (format : BinaryFormat) (number : ℚ) (unit : ℤ) : Prop where
  le_unit : format.minExponent ≤ unit
  lt : number < 2 ^ (unit + format.precision)
  normal : unit = format.minExponent ∨ 2 ^ (unit + format.precision - 1) ≤ number

variable {format : BinaryFormat}

/-! ## Rounding in a unit -/

namespace IsUnit

variable {number : ℚ} {unit : ℤ} {whole : ℕ}

/-- The number has no more digits than the format when it is rounded in its unit. -/
theorem whole_le (unitOf : format.IsUnit number unit)
    (nearest : NearestWhole (number / 2 ^ unit) whole) : whole ≤ 2 ^ format.precision := by
  apply nearest.whole_le
  rw [div_le_iff₀ (by positivity), Nat.cast_pow, Nat.cast_two, ← zpow_natCast,
    ← zpow_add₀ two_ne_zero, add_comm (format.precision : ℤ)]
  exact unitOf.lt.le

/-- Nor has it fewer, unless the unit is the smallest. -/
theorem le_whole (unitOf : format.IsUnit number unit) (proper : format.Proper)
    (nearest : NearestWhole (number / 2 ^ unit) whole) :
    unit = format.minExponent ∨ 2 ^ (format.precision - 1) ≤ whole := by
  refine unitOf.normal.imp_right ?_
  intro digits
  apply nearest.le_whole
  have precise := proper.precise
  rw [le_div_iff₀ (by positivity), Nat.cast_pow, Nat.cast_two, ← zpow_natCast,
    ← zpow_add₀ two_ne_zero, Nat.cast_sub (by omega), Nat.cast_one]
  have exponents : (format.precision : ℤ) - 1 + unit = unit + format.precision - 1 := by ring
  rw [exponents]
  exact digits

end IsUnit

/-- Settling a mantissa of at most the full number of digits keeps the number. -/
theorem settle?_eq_some {whole : ℕ} {unit : ℤ} {value : Binary} (proper : format.Proper)
    (le : whole ≤ 2 ^ format.precision)
    (settled : format.settle? ⟨whole, unit⟩ = some value) :
    value.exponent ≤ format.maxExponent ∧
      (whole < 2 ^ format.precision ∧ value = ⟨whole, unit⟩ ∨
        whole = 2 ^ format.precision ∧ value = ⟨2 ^ (format.precision - 1), unit + 1⟩) := by
  have precise := proper.precise
  rw [settle?, Nat.pow_eq] at settled
  dsimp only at settled
  by_cases room : whole < 2 ^ format.precision
  · rw [if_pos room, Option.ite_none_right_eq_some] at settled
    obtain ⟨exponent_le, valueEq⟩ := settled
    cases valueEq
    exact ⟨exponent_le, .inl ⟨room, rfl⟩⟩
  · have full : whole = 2 ^ format.precision := le.antisymm (Nat.le_of_not_lt room)
    have half : whole / 2 = 2 ^ (format.precision - 1) := by
      rw [full, ← Nat.pow_div (by omega) two_pos, pow_one]
    rw [if_neg room, Option.ite_none_right_eq_some, half] at settled
    obtain ⟨exponent_le, valueEq⟩ := settled
    cases valueEq
    exact ⟨exponent_le, .inr ⟨full, rfl⟩⟩

/-- A mantissa is settled unless its unit is too large, or is the largest one and there
are too many digits for it. -/
theorem exists_settle?_iff {whole : ℕ} {unit : ℤ} :
    (∃ value, format.settle? ⟨whole, unit⟩ = some value) ↔
      unit < format.maxExponent ∨ unit = format.maxExponent ∧ whole < 2 ^ format.precision := by
  rw [settle?, Nat.pow_eq]
  by_cases fits : whole < 2 ^ format.precision
  · rw [if_pos fits]
    simp only [Option.ite_none_right_eq_some, Option.some.injEq, exists_and_left, exists_eq',
      and_true, fits]
    exact Int.le_iff_lt_or_eq
  · rw [if_neg fits]
    simp only [Option.ite_none_right_eq_some, Option.some.injEq, exists_and_left, exists_eq',
      and_true, fits, and_false, or_false]
    exact Int.add_one_le_iff

/-- Distances can be measured in units. -/
theorem distance_eq (number count : ℚ) (unit : ℤ) :
    |number - count * 2 ^ unit| = |number / 2 ^ unit - count| * 2 ^ unit := by
  have positive : (0 : ℚ) < 2 ^ unit := by positivity
  rw [← abs_of_pos positive, ← abs_mul, abs_of_pos positive, sub_mul,
    div_mul_cancel₀ _ positive.ne']

/-- A magnitude with a larger unit is a whole number of units. -/
theorem exists_count {other : Binary} {unit : ℤ} (larger : unit ≤ other.exponent) :
    ∃ count : ℕ, other.toRat = count * 2 ^ unit := by
  refine ⟨other.mantissa * 2 ^ (other.exponent - unit).toNat, ?_⟩
  have exponent : other.exponent = (other.exponent - unit).toNat + unit := by omega
  rw [Binary.toRat, exponent, zpow_add₀ two_ne_zero, zpow_natCast]
  push_cast
  rw [← exponent]
  ring

section

variable {number : ℚ} {unit : ℤ} {whole : ℕ} {other value : Binary}

/-- A magnitude with a smaller unit is not the nearest. -/
theorem IsUnit.distance_lt (unitOf : format.IsUnit number unit) (proper : format.Proper)
    (nearest : NearestWhole (number / 2 ^ unit) whole) (holds : format.Holds other)
    (smaller : other.exponent < unit) :
    |number - whole * 2 ^ unit| < |number - other.toRat| := by
  have precise := proper.precise
  have notLeast : unit ≠ format.minExponent := (holds.le_exponent.trans_lt smaller).ne'
  have digits := unitOf.normal.resolve_left notLeast
  have least : ((2 ^ (format.precision - 1) : ℤ) : ℚ) * 2 ^ unit =
      2 ^ (unit + format.precision - 1) := by
    push_cast
    rw [← zpow_natCast, ← zpow_add₀ two_ne_zero, Nat.cast_sub (by omega), Nat.cast_one]
    ring_nf
  have below : other.toRat < 2 ^ (unit + format.precision - 1) := by
    have mantissa : (other.mantissa : ℚ) < 2 ^ (format.precision : ℤ) := by
      rw [zpow_natCast]
      exact_mod_cast holds.mantissa_lt
    calc other.toRat
        < 2 ^ (format.precision : ℤ) * 2 ^ other.exponent := by
          rw [Binary.toRat]
          gcongr
      _ = 2 ^ (format.precision + other.exponent) := (zpow_add₀ two_ne_zero _ _).symm
      _ ≤ 2 ^ (unit + format.precision - 1) :=
          zpow_le_zpow_right₀ one_le_two (by omega)
  have nearer := nearest.le (2 ^ (format.precision - 1))
  calc |number - whole * 2 ^ unit|
      ≤ |number - (2 ^ (format.precision - 1) : ℤ) * 2 ^ unit| := by
        rw [distance_eq, distance_eq]
        gcongr
    _ = number - 2 ^ (unit + format.precision - 1) := by
        rw [least, abs_of_nonneg (sub_nonneg.mpr digits)]
    _ < number - other.toRat := by linarith
    _ ≤ |number - other.toRat| := le_abs_self _

/-- A settled magnitude is one of the format and counts the units. -/
theorem IsUnit.settled (unitOf : format.IsUnit number unit) (proper : format.Proper)
    (nearest : NearestWhole (number / 2 ^ unit) whole)
    (settled : format.settle? ⟨whole, unit⟩ = some value) :
    format.Holds value ∧ value.toRat = whole * 2 ^ unit ∧
      (Even whole → Even value.mantissa) := by
  have precise := proper.precise
  obtain ⟨exponent_le, kept | carried⟩ :=
    settle?_eq_some proper (unitOf.whole_le nearest) settled
  · obtain ⟨room, rfl⟩ := kept
    exact ⟨⟨room, unitOf.le_unit, exponent_le, unitOf.le_whole proper nearest⟩, rfl, id⟩
  · obtain ⟨full, rfl⟩ := carried
    have twice : 2 ^ format.precision = 2 ^ (format.precision - 1) * 2 := by
      rw [← pow_succ, Nat.sub_add_cancel (by omega)]
    refine ⟨⟨?_, ?_, exponent_le, .inr le_rfl⟩, ?_, fun _ => ?_⟩
    · exact Nat.pow_lt_pow_right one_lt_two (by omega)
    · exact unitOf.le_unit.trans (le_add_of_nonneg_right zero_le_one)
    · rw [Binary.toRat, full, zpow_add_one₀ two_ne_zero, twice]
      push_cast
      ring
    · exact (Nat.even_pow' (by omega)).mpr even_two

/-- Rounding a number in its unit gives the nearest magnitude. -/
theorem IsUnit.nearest (unitOf : format.IsUnit number unit) (proper : format.Proper)
    (nearest : NearestWhole (number / 2 ^ unit) whole)
    (settled : format.settle? ⟨whole, unit⟩ = some value) : format.Nearest number value := by
  obtain ⟨holds, valueEq, even⟩ := unitOf.settled proper nearest settled
  have others (other : Binary) (held : format.Holds other) :
      |number - value.toRat| ≤ |number - other.toRat| ∧
        (other.toRat ≠ value.toRat → |number - value.toRat| = |number - other.toRat| →
          Even value.mantissa) := by
    rw [valueEq]
    cases lt_or_ge other.exponent unit with
    | inl smaller =>
        have further := unitOf.distance_lt proper nearest held smaller
        exact ⟨further.le, fun _ tie => absurd tie further.ne⟩
    | inr larger =>
        obtain ⟨count, otherEq⟩ := exists_count larger
        have positive : (0 : ℚ) < 2 ^ unit := by positivity
        rw [otherEq]
        by_cases same : (count : ℤ) = whole
        · rw [Nat.cast_inj.mp same]
          exact ⟨le_rfl, fun different => absurd rfl different⟩
        · have apart : 1 / 2 ≤ |number / 2 ^ unit - count| := nearest.half_le same
          rw [distance_eq, distance_eq]
          constructor
          · have nearer := nearest.close.trans apart
            gcongr
          · intro _ tie
            have equal := mul_right_cancel₀ positive.ne' tie
            exact even (nearest.even (nearest.close.antisymm (apart.trans equal.ge)))
  exact {
    holds
    le := fun other held => (others other held).1
    even := fun other held => (others other held).2 }

end

/-! ## Zero and overflow -/

theorem toRat_zero : format.zero.toRat = 0 := by
  rw [zero, Binary.toRat, Nat.cast_zero, zero_mul]

theorem holds_zero (proper : format.Proper) : format.Holds format.zero where
  mantissa_lt := Nat.two_pow_pos _
  le_exponent := le_rfl
  exponent_le := proper.ordered
  normal := .inl rfl

/-- Less than half of the smallest unit is rounded to zero. -/
theorem nearest_zero {number : ℚ} (proper : format.Proper) (nonneg : 0 ≤ number)
    (small : number < 2 ^ (format.minExponent - 1)) : format.Nearest number format.zero := by
  have further (other : Binary) (held : format.Holds other)
      (nonzero : other.toRat ≠ 0) : |number - 0| < |number - other.toRat| := by
    have mantissa : (1 : ℚ) ≤ other.mantissa := by
      have positive : other.mantissa ≠ 0 := by
        intro zero
        rw [Binary.toRat, zero, Nat.cast_zero, zero_mul] at nonzero
        exact nonzero rfl
      exact_mod_cast Nat.one_le_iff_ne_zero.mpr positive
    have least : 2 * 2 ^ (format.minExponent - 1) ≤ other.toRat := by
      calc (2 : ℚ) * 2 ^ (format.minExponent - 1)
          = 1 * 2 ^ format.minExponent := by
            rw [← zpow_one_add₀ two_ne_zero]
            ring_nf
        _ ≤ other.mantissa * 2 ^ other.exponent := by
            gcongr
            · exact one_le_two
            · exact held.le_exponent
    rw [sub_zero, abs_of_nonneg nonneg, abs_sub_comm]
    apply lt_of_lt_of_le _ (le_abs_self _)
    linarith
  refine ⟨holds_zero proper, ?_, ?_⟩
  · intro other held
    rw [toRat_zero]
    by_cases zero : other.toRat = 0
    · rw [zero]
    · exact (further other held zero).le
  · intro other held different tie
    rw [toRat_zero] at different tie
    exact absurd tie (further other held different).ne

/-- Halfway from the largest magnitude of a format to the next power of two. -/
def overflow (format : BinaryFormat) : ℚ :=
  (2 ^ format.precision - 1 / 2) * 2 ^ format.maxExponent

theorem overflow_lt :
    format.overflow < 2 ^ (format.maxExponent + format.precision) := by
  rw [overflow, add_comm, zpow_add₀ two_ne_zero, zpow_natCast]
  gcongr
  linarith

theorem two_zpow_le_overflow (proper : format.Proper) :
    2 ^ (format.maxExponent + format.precision - 1) ≤ format.overflow := by
  have precise := proper.precise
  have exponents : format.maxExponent + format.precision - 1 =
      (format.precision - 1 : ℕ) + format.maxExponent := by omega
  have twice : (2 : ℚ) ^ format.precision = 2 ^ (format.precision - 1) * 2 := by
    rw [← pow_succ, Nat.sub_add_cancel (by omega)]
  have one : (1 : ℚ) ≤ 2 ^ (format.precision - 1) := one_le_pow₀ one_le_two
  rw [overflow, exponents, zpow_add₀ two_ne_zero, zpow_natCast]
  gcongr
  linarith

/-- A number is rounded to a magnitude of the format exactly if it lies below that
point. -/
theorem IsUnit.exists_settle?_iff {number : ℚ} {unit : ℤ} {whole : ℕ}
    (unitOf : format.IsUnit number unit) (proper : format.Proper)
    (nearest : NearestWhole (number / 2 ^ unit) whole) :
    (∃ value, format.settle? ⟨whole, unit⟩ = some value) ↔ number < format.overflow := by
  have precise := proper.precise
  rw [BinaryFormat.exists_settle?_iff]
  obtain smaller | rfl | larger := lt_trichotomy unit format.maxExponent
  · have below : number < format.overflow := by
      calc number
          < 2 ^ (unit + format.precision) := unitOf.lt
        _ ≤ 2 ^ (format.maxExponent + format.precision - 1) :=
            zpow_le_zpow_right₀ one_le_two (by omega)
        _ ≤ format.overflow := two_zpow_le_overflow proper
    exact iff_of_true (.inl smaller) below
  · have even : Even (2 ^ format.precision) := (Nat.even_pow' (by omega)).mpr even_two
    have digits := nearest.whole_lt_iff even
    rw [div_lt_iff₀ (by positivity), Nat.cast_pow, Nat.cast_two] at digits
    simpa [overflow] using digits
  · have notLeast : unit ≠ format.minExponent := (proper.ordered.trans_lt larger).ne'
    have above : format.overflow ≤ number := by
      calc format.overflow
          ≤ 2 ^ (format.maxExponent + format.precision) := overflow_lt.le
        _ ≤ 2 ^ (unit + format.precision - 1) := zpow_le_zpow_right₀ one_le_two (by omega)
        _ ≤ number := unitOf.normal.resolve_left notLeast
    exact iff_of_false (by omega) (not_lt.mpr above)

end BinaryFormat

end ColumnSchema
