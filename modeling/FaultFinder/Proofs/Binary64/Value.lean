import FaultFinder.Binary64.Rounding
import Mathlib.Algebra.Order.Round
import Mathlib.Data.Nat.Log
import Mathlib.Data.Rat.Floor
import Mathlib.Tactic.Linarith
import Mathlib.Tactic.Ring

/-!
# The values of binary64 numbers

A finite number has an exact value, which is rational.  A number is nearest to
an exact value when no finite number is closer to it, and when its significand
is even if another one is as close.  This determines the value of the number:
rounding is a function, it is monotone, it changes no value of the format, and
its error is at most half the distance of numbers of the same size.
-/

namespace FaultFinder

@[simp] theorem cast_twoPow (exponent : Nat) : (twoPow exponent : ℚ) = 2 ^ exponent :=
  Nat.cast_pow 2 exponent

namespace Binary64

/-! ## Magnitudes -/

theorem unitsPerOne_pos : (0 : ℚ) < unitsPerOne :=
  Nat.cast_pos.2 (twoPow_pos unitPlaces)

theorem cast_unitsPerOne : (unitsPerOne : ℚ) = 2 ^ 53 * 2 ^ 1021 :=
  (cast_twoPow unitPlaces).trans (pow_add 2 53 1021)

theorem spacing_pos (units : Nat) : 0 < spacing units :=
  twoPow_pos _

/-- The spacing of a smaller magnitude divides that of a greater one. -/
theorem spacing_dvd_spacing
    {lower upper : Nat}
    (le : lower ≤ upper) :
    spacing lower ∣ spacing upper := by
  have shorter : lower.log2 ≤ upper.log2 := by
    rw [Nat.log2_eq_log_two, Nat.log2_eq_log_two]
    exact Nat.log_mono_right le
  exact twoPow_dvd_twoPow (Nat.sub_le_sub_right shorter 52)

theorem OnGrid.spacing_dvd
    {units : Nat}
    (onGrid : OnGrid units) :
    spacing units ∣ units :=
  onGrid.1

theorem OnGrid.lt_limit
    {units : Nat}
    (onGrid : OnGrid units) :
    units < unitsLimit :=
  onGrid.2

/-- A magnitude holds fewer than `2 ^ 53` of its spacings. -/
theorem div_spacing_lt (units : Nat) : units / spacing units < twoPow 53 := by
  rw [spacing, Nat.div_lt_iff_lt_mul (twoPow_pos _), ← twoPow_add]
  by_cases zero : units = 0
  · rw [zero]
    exact twoPow_pos _
  · exact (log2_lt_iff zero).1 (by omega)

/-- Between two magnitudes with even significands lies another one of the format. -/
theorem exists_onGrid_between
    {lower upper : Nat}
    (lowerOnGrid : OnGrid lower)
    (upperOnGrid : OnGrid upper)
    (less : lower < upper)
    (lowerEven : Even (lower / spacing lower))
    (upperEven : Even (upper / spacing upper)) :
    ∃ middle, OnGrid middle ∧ lower < middle ∧ middle < upper := by
  obtain ⟨count, isLower⟩ := lowerOnGrid.spacing_dvd
  obtain ⟨other, isUpper⟩ := (spacing_dvd_spacing less.le).trans upperOnGrid.spacing_dvd
  have positive := spacing_pos lower
  have isCount : lower / spacing lower = count :=
    Nat.div_eq_of_eq_mul_right positive isLower
  rw [isCount] at lowerEven
  have fewer : count < other := by
    apply Nat.lt_of_mul_lt_mul_left (a := spacing lower)
    rw [← isLower, ← isUpper]
    exact less
  -- The next magnitude is the upper one only if that has an odd significand.
  have notNext : other ≠ count + 1 := by
    intro next
    obtain ⟨ratio, isRatio⟩ := spacing_dvd_spacing less.le
    have countUpper : spacing upper * (upper / spacing upper) = spacing lower * other := by
      rw [Nat.mul_div_cancel' upperOnGrid.spacing_dvd, ← isUpper]
    rw [isRatio, Nat.mul_assoc] at countUpper
    have otherEven : Even other := by
      rw [← Nat.eq_of_mul_eq_mul_left positive countUpper, ← isRatio]
      exact upperEven.mul_left ratio
    rw [next, Nat.even_add_one] at otherEven
    exact otherEven lowerEven
  have bound : count + 1 ≤ twoPow 53 := by
    rw [← isCount]
    exact div_spacing_lt lower
  have isLess : (count + 1) * spacing lower < upper := by
    rw [isUpper, Nat.mul_comm (spacing lower)]
    exact Nat.mul_lt_mul_of_pos_right (by omega) positive
  refine ⟨(count + 1) * spacing lower, ?_, ?_, isLess⟩
  · exact onGrid_shift bound (isLess.trans upperOnGrid.lt_limit)
  · rw [Nat.add_mul, Nat.one_mul, Nat.mul_comm count, ← isLower]
    omega

/-! ## Numbers -/

/-- The number is neither an infinity nor no number. -/
def IsFinite : Binary64 → Prop
  | .finite .. => True
  | _ => False

/-- The signed magnitude of a finite number, in units. -/
def signedUnits : Binary64 → ℤ
  | .finite negative units _ => if negative then -units else units
  | _ => 0

/-- The exact value of a finite number. -/
def value (number : Binary64) : ℚ :=
  number.signedUnits / unitsPerOne

/-- The digits of a finite number before its exponent, as a whole number. -/
def significand (number : Binary64) : Nat :=
  number.signedUnits.natAbs / spacing number.signedUnits.natAbs

/-- The number with a signed magnitude of the format. -/
def ofUnits (units : ℤ) (onGrid : OnGrid units.natAbs) : Binary64 :=
  .finite (decide (units < 0)) units.natAbs onGrid

theorem cast_signedUnits
    (negative : Bool)
    {units : Nat}
    (onGrid : OnGrid units) :
    ((finite negative units onGrid).signedUnits : ℚ) =
      if negative then -(units : ℚ) else units := by
  cases negative
  · exact Int.cast_natCast units
  · exact (Int.cast_neg _).trans (congrArg _ (Int.cast_natCast units))

theorem natAbs_signedUnits
    (negative : Bool)
    (units : Nat)
    (onGrid : OnGrid units) :
    (finite negative units onGrid).signedUnits.natAbs = units := by
  cases negative <;> simp [signedUnits]

theorem onGrid_signedUnits (number : Binary64) : OnGrid number.signedUnits.natAbs := by
  cases number with
  | nan => exact onGrid_zero
  | infinity negative => exact onGrid_zero
  | finite negative units onGrid =>
      rw [natAbs_signedUnits]
      exact onGrid

theorem signedUnits_ofUnits
    {units : ℤ}
    (onGrid : OnGrid units.natAbs) :
    (ofUnits units onGrid).signedUnits = units := by
  simp only [ofUnits, signedUnits, decide_eq_true_eq]
  split <;> omega

theorem value_ofUnits
    {units : ℤ}
    (onGrid : OnGrid units.natAbs) :
    (ofUnits units onGrid).value = units / unitsPerOne := by
  rw [value, signedUnits_ofUnits]

theorem isFinite_ofUnits
    {units : ℤ}
    (onGrid : OnGrid units.natAbs) :
    (ofUnits units onGrid).IsFinite :=
  trivial

theorem value_mul_unitsPerOne (number : Binary64) :
    number.value * unitsPerOne = number.signedUnits :=
  div_mul_cancel₀ _ unitsPerOne_pos.ne'

@[simp] theorem value_zero (negative : Bool) : (zero negative).value = 0 := by
  have units : (zero negative).signedUnits = 0 := by cases negative <;> rfl
  rw [value, units, Int.cast_zero, zero_div]

@[simp] theorem value_whole
    (number : Nat)
    (fits : number ≤ twoPow 53) :
    (whole number fits).value = number := by
  have units : ((whole number fits).signedUnits : ℚ) = number * unitsPerOne := by
    simp only [whole, signedUnits, Bool.false_eq_true, if_false, Nat.cast_mul, Int.cast_mul,
      Int.cast_natCast]
  rw [value, units]
  exact mul_div_cancel_right₀ _ unitsPerOne_pos.ne'

@[simp] theorem value_one : one.value = 1 := by
  rw [one, value_whole, Nat.cast_one]

theorem isFinite_zero (negative : Bool) : (zero negative).IsFinite :=
  trivial

theorem isFinite_one : one.IsFinite :=
  trivial

theorem value_lt_value_iff (left right : Binary64) :
    left.value < right.value ↔ left.signedUnits < right.signedUnits := by
  rw [value, value, div_lt_div_iff_of_pos_right unitsPerOne_pos, Int.cast_lt]

/-- The number is finite, greater than zero and at most one. -/
structure IsInUnitInterval (number : Binary64) : Prop where
  /-- The number is neither an infinity nor no number. -/
  isFinite : number.IsFinite
  /-- The number is greater than zero. -/
  positive : 0 < number.value
  /-- The number is at most one. -/
  le_one : number.value ≤ 1

theorem inUnitInterval_iff (number : Binary64) :
    number.inUnitInterval = true ↔ number.IsInUnitInterval := by
  cases number with
  | nan => exact iff_of_false Bool.false_ne_true IsInUnitInterval.isFinite
  | infinity negative => exact iff_of_false Bool.false_ne_true IsInUnitInterval.isFinite
  | finite negative units onGrid =>
      cases negative with
      | true =>
          apply iff_of_false Bool.false_ne_true
          intro inside
          have nonpositive : (finite true units onGrid).value ≤ 0 := by
            rw [value, cast_signedUnits]
            exact div_nonpos_of_nonpos_of_nonneg (neg_nonpos.2 (Nat.cast_nonneg _))
              unitsPerOne_pos.le
          exact absurd inside.positive nonpositive.not_gt
      | false =>
          have exact : (finite false units onGrid).value = units / unitsPerOne := by
            rw [value, cast_signedUnits]
            rfl
          have positive : 0 < (finite false units onGrid).value ↔ 0 < units := by
            rw [exact, div_pos_iff_of_pos_right unitsPerOne_pos, Nat.cast_pos]
          have le_one : (finite false units onGrid).value ≤ 1 ↔ units ≤ unitsPerOne := by
            rw [exact, div_le_one unitsPerOne_pos, Nat.cast_le]
          rw [inUnitInterval, Bool.and_eq_true, decide_eq_true_eq, decide_eq_true_eq,
            ← positive, ← le_one]
          constructor
          · rintro ⟨isPositive, isLe⟩
            exact ⟨trivial, isPositive, isLe⟩
          · intro inside
            exact ⟨inside.positive, inside.le_one⟩

/-- Between two numbers with even significands lies another finite one. -/
theorem exists_value_between
    {left right : Binary64}
    (less : left.value < right.value)
    (leftEven : Even left.significand)
    (rightEven : Even right.significand) :
    ∃ middle : Binary64, middle.IsFinite ∧ left.value < middle.value ∧
      middle.value < right.value := by
  have onGridLeft := left.onGrid_signedUnits
  have onGridRight := right.onGrid_signedUnits
  rw [significand] at leftEven rightEven
  simp only [value_lt_value_iff] at less ⊢
  generalize left.signedUnits = lower at *
  generalize right.signedUnits = upper at *
  suffices
      between : ∃ middle : ℤ, OnGrid middle.natAbs ∧ lower < middle ∧ middle < upper by
    obtain ⟨middle, onGrid, above, below⟩ := between
    refine ⟨ofUnits middle onGrid, isFinite_ofUnits onGrid, ?_⟩
    rw [signedUnits_ofUnits]
    exact ⟨above, below⟩
  rcases lt_or_ge lower 0 with lowerNegative | lowerPositive
  · rcases lt_or_ge 0 upper with upperPositive | upperNegative
    · exact ⟨0, onGrid_zero, lowerNegative, upperPositive⟩
    · obtain ⟨middle, onGrid, above, below⟩ := exists_onGrid_between onGridRight onGridLeft
        (by omega) rightEven leftEven
      refine ⟨-middle, ?_, by omega, by omega⟩
      rw [Int.natAbs_neg]
      exact onGrid
  · obtain ⟨middle, onGrid, above, below⟩ := exists_onGrid_between onGridLeft onGridRight
      (by omega) leftEven rightEven
    exact ⟨middle, onGrid, by omega, by omega⟩

/-! ## Rounding -/

/--
A number is what an exact value is rounded to: it is finite, no finite number is
closer, and its significand is even if a different one is as close.
-/
structure IsNearest (exact : ℚ) (rounded : Binary64) : Prop where
  /-- The number is finite. -/
  isFinite : rounded.IsFinite
  /-- No finite number is closer. -/
  closest : ∀ other : Binary64, other.IsFinite →
    |rounded.value - exact| ≤ |other.value - exact|
  /-- Of two that are equally close the one with the even significand is taken. -/
  even : ∀ other : Binary64, other.IsFinite → other.value ≠ rounded.value →
    |other.value - exact| = |rounded.value - exact| → Even rounded.significand

namespace IsNearest

variable
    {exact lower upper : ℚ}
    {rounded left right : Binary64}

theorem of_isFinite
    {number : Binary64}
    (isFinite : number.IsFinite) :
    IsNearest number.value number := by
  refine ⟨isFinite, ?_, ?_⟩
  · intro other _
    rw [sub_self, abs_zero]
    exact abs_nonneg _
  · intro other _ different tie
    rw [sub_self, abs_zero, abs_eq_zero, sub_eq_zero] at tie
    exact absurd tie different

/-- Two different numbers that are nearest to the same value would leave a closer one between. -/
theorem value_le_of_same
    (nearestLeft : IsNearest exact left)
    (nearestRight : IsNearest exact right) :
    right.value ≤ left.value := by
  by_contra! less
  have tie : |left.value - exact| = |right.value - exact| :=
    le_antisymm (nearestLeft.closest right nearestRight.isFinite)
      (nearestRight.closest left nearestLeft.isFinite)
  have leftEven := nearestLeft.even right nearestRight.isFinite less.ne' tie.symm
  have rightEven := nearestRight.even left nearestLeft.isFinite less.ne tie
  obtain ⟨middle, isFinite, above, below⟩ := exists_value_between less leftEven rightEven
  have closer := nearestLeft.closest middle isFinite
  have closerRight := nearestRight.closest middle isFinite
  rcases le_total middle.value exact with before | behind
  · rw [abs_of_nonpos (by linarith), abs_of_nonpos (by linarith)] at closer
    linarith
  · rw [abs_of_nonneg (by linarith), abs_of_nonneg (by linarith)] at closerRight
    linarith

/-- Rounding is a function. -/
theorem unique
    (nearestLeft : IsNearest exact left)
    (nearestRight : IsNearest exact right) :
    left.value = right.value :=
  le_antisymm (nearestRight.value_le_of_same nearestLeft)
    (nearestLeft.value_le_of_same nearestRight)

/-- Rounding is monotone. -/
theorem mono
    (nearestLower : IsNearest lower left)
    (nearestUpper : IsNearest upper right)
    (le : lower ≤ upper) :
    left.value ≤ right.value := by
  by_contra! less
  have closerLower := nearestLower.closest right nearestUpper.isFinite
  have closerUpper := nearestUpper.closest left nearestLower.isFinite
  -- Each value is on its own side of the middle between both numbers, so they are the same.
  have above : left.value + right.value ≤ 2 * lower := by
    rcases le_total left.value lower with before | behind
    · linarith
    · rw [abs_of_nonneg (by linarith)] at closerLower
      rcases abs_cases (right.value - lower) with ⟨distance, _⟩ | ⟨distance, _⟩ <;> linarith
  have below : 2 * upper ≤ left.value + right.value := by
    rcases le_total upper right.value with before | behind
    · linarith
    · rw [abs_of_nonpos (by linarith)] at closerUpper
      rcases abs_cases (left.value - upper) with ⟨distance, _⟩ | ⟨distance, _⟩ <;> linarith
  have same : lower = upper := by linarith
  rw [same] at nearestLower
  exact less.ne' (nearestLower.unique nearestUpper)

/-- A value of the format stays above what smaller values are rounded to. -/
theorem value_le
    (nearest : IsNearest exact rounded)
    {bound : Binary64}
    (isFinite : bound.IsFinite)
    (le : exact ≤ bound.value) :
    rounded.value ≤ bound.value :=
  nearest.mono (of_isFinite isFinite) le

/-- A value of the format stays below what greater values are rounded to. -/
theorem le_value
    (nearest : IsNearest exact rounded)
    {bound : Binary64}
    (isFinite : bound.IsFinite)
    (le : bound.value ≤ exact) :
    bound.value ≤ rounded.value :=
  (of_isFinite isFinite).mono nearest le

/-- There is a finite number within half a step of a value, whatever the step is. -/
theorem exists_close
    {exponent : Nat}
    (inRange : exponent + 1074 < magnitudeBits)
    (bound : |exact| ≤ 2 ^ exponent) :
    ∃ other : Binary64, other.IsFinite ∧ |other.value - exact| ≤ 2 ^ exponent / 2 ^ 54 := by
  have places : 53 + (exponent + 1021) < magnitudeBits := by
    rw [Nat.add_left_comm]
    exact inRange
  -- The numbers are taken from the multiples of this step, counted by `count`.
  obtain ⟨step, isStep⟩ : ∃ step : ℚ, step = 2 ^ exponent / 2 ^ 53 := ⟨_, rfl⟩
  have stepPositive : 0 < step := by
    rw [isStep]
    positivity
  let count : ℤ := round (exact / step)
  have near : |exact / step - count| ≤ 1 / 2 := abs_sub_round _
  have few : count.natAbs ≤ twoPow 53 := by
    have scaled : |exact / step| ≤ 2 ^ 53 := by
      rw [abs_div, abs_of_pos stepPositive, div_le_iff₀ stepPositive]
      calc
        |exact| ≤ 2 ^ exponent := bound
        _ = 2 ^ 53 * step := by
          rw [isStep]
          ring
    obtain ⟨least, greatest⟩ := abs_le.1 scaled
    obtain ⟨nearBelow, nearAbove⟩ := abs_le.1 near
    have upper : (count : ℚ) < 2 ^ 53 + 1 := by linarith
    have lower : -(2 ^ 53 + 1) < (count : ℚ) := by linarith
    have upperWhole : count < 2 ^ 53 + 1 := by exact_mod_cast upper
    have lowerWhole : -(2 ^ 53 + 1) < count := by exact_mod_cast lower
    have isTwoPow : twoPow 53 = 2 ^ 53 := rfl
    omega
  have small : count.natAbs * twoPow (exponent + 1021) < unitsLimit := by
    refine Nat.lt_of_le_of_lt (Nat.mul_le_mul_right _ few) ?_
    rw [← twoPow_add]
    exact twoPow_lt_twoPow places
  have onGrid : OnGrid (count * twoPow (exponent + 1021)).natAbs := by
    rw [Int.natAbs_mul, Int.natAbs_natCast]
    exact onGrid_shift few small
  have isValue : (ofUnits _ onGrid).value = count * step := by
    rw [value_ofUnits, isStep, cast_unitsPerOne, Int.cast_mul, Int.cast_natCast, cast_twoPow,
      pow_add, ← mul_assoc, mul_div_mul_right _ _ (by positivity), mul_div_assoc]
  refine ⟨_, isFinite_ofUnits onGrid, ?_⟩
  have half : (2 : ℚ) ^ exponent / 2 ^ 54 = 1 / 2 * step := by
    rw [isStep]
    ring
  have scaledError : count * step - exact = -((exact / step - count) * step) := by
    rw [sub_mul, div_mul_cancel₀ _ stepPositive.ne']
    ring
  rw [isValue, half, scaledError, abs_neg, abs_mul, abs_of_pos stepPositive]
  exact mul_le_mul_of_nonneg_right near stepPositive.le

/-- The error of rounding is at most half the distance of numbers of the same size. -/
theorem abs_sub_le
    (nearest : IsNearest exact rounded)
    {exponent : Nat}
    (inRange : exponent + 1074 < magnitudeBits)
    (bound : |exact| ≤ 2 ^ exponent) :
    |rounded.value - exact| ≤ 2 ^ exponent / 2 ^ 54 := by
  obtain ⟨other, isFinite, close⟩ := exists_close inRange bound
  exact (nearest.closest other isFinite).trans close

end IsNearest

end Binary64
end FaultFinder
