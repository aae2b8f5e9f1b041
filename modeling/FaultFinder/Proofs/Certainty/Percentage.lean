import FaultFinder.Proofs.Certainty

/-!
# Percentages of all numbers

Every number has a percentage, also those that are no certainties.  Numbers up
to zero are clamped to zero and numbers from one on to a hundred, whatever their
hundredfold is rounded to and even where it overflows.  In between lie the
certainties, and their hundredfold is rounded once more, upwards from a half.
-/

namespace FaultFinder

namespace Binary64

/-! ## The order of numbers -/

/--
One number is at most another one.  The two zeros are at most each other, and
what is no number is neither at most nor at least anything.
-/
inductive AtMost : Binary64 → Binary64 → Prop where
  /-- Finite numbers are compared by their values. -/
  | finite
      {left right : Binary64}
      (leftFinite : left.IsFinite)
      (rightFinite : right.IsFinite)
      (le : left.value ≤ right.value) :
      AtMost left right
  /-- The negative infinity is at most every number. -/
  | least
      {number : Binary64}
      (isNumber : number ≠ nan) :
      AtMost (infinity true) number
  /-- Every number is at most the positive infinity. -/
  | greatest
      {number : Binary64}
      (isNumber : number ≠ nan) :
      AtMost number (infinity false)

instance : LE Binary64 := ⟨AtMost⟩

/-- All numbers can be compared. -/
theorem le_or_le
    {left right : Binary64}
    (leftNumber : left ≠ nan)
    (rightNumber : right ≠ nan) :
    left ≤ right ∨ right ≤ left := by
  cases left with
  | nan => exact absurd rfl leftNumber
  | infinity negative =>
      cases negative with
      | true => exact .inl (.least rightNumber)
      | false => exact .inr (.greatest rightNumber)
  | finite leftNegative leftUnits leftOnGrid =>
      cases right with
      | nan => exact absurd rfl rightNumber
      | infinity negative =>
          cases negative with
          | true => exact .inr (.least leftNumber)
          | false => exact .inl (.greatest leftNumber)
      | finite rightNegative rightUnits rightOnGrid =>
          rcases le_total (finite leftNegative leftUnits leftOnGrid).value
              (finite rightNegative rightUnits rightOnGrid).value with le | ge
          · exact .inl (.finite trivial trivial le)
          · exact .inr (.finite trivial trivial ge)

/-! ## Rounded products -/

theorem nearest_eq_finite_or_eq_infinity
    (negative : Bool)
    (numerator denominator : Nat) :
    (∃ onGrid, nearest negative numerator denominator =
      finite negative (nearestUnits numerator denominator) onGrid) ∨
    nearest negative numerator denominator = infinity negative := by
  unfold nearest
  split
  · next small => exact .inl ⟨onGrid_nearestUnits small, rfl⟩
  · exact .inr rfl

theorem mul_whole
    (negative : Bool)
    {units : Nat}
    (onGrid : OnGrid units)
    (number : Nat)
    (fits : number ≤ twoPow 53) :
    finite negative units onGrid * whole number fits =
      nearest negative (units * (number * unitsPerOne)) unitsPerOne := by
  change mul _ _ = _
  rw [whole, mul, Bool.bne_false]

end Binary64

namespace Certainty

open Binary64

variable
    {certainty left right : Binary64}

/-! ## Clamping -/

theorem percent_of_negative
    {units : Nat}
    (onGrid : OnGrid units) :
    percent (finite true units onGrid) = 0 := by
  rcases nearest_eq_finite_or_eq_infinity true (units * (100 * unitsPerOne)) unitsPerOne with
    ⟨_, isProduct⟩ | isProduct
  · rw [percent, mul_whole, isProduct]
  · rw [percent, mul_whole, isProduct]
    rfl

/-- From one on the hundredfold is at least a hundred, or it overflows. -/
theorem percent_of_one_le_units
    {units : Nat}
    (onGrid : OnGrid units)
    (le : unitsPerOne ≤ units) :
    percent (finite false units onGrid) = 100 := by
  have fits : 100 ≤ twoPow 53 := by decide
  have positive : 0 < unitsPerOne := twoPow_pos unitPlaces
  have reached : 100 * unitsPerOne ≤ nearestUnits (units * (100 * unitsPerOne)) unitsPerOne := by
    apply le_nearestUnits positive (onGrid_whole fits).spacing_dvd
    rw [le_div_iff₀ unitsPerOne_pos]
    have scaled : 100 * unitsPerOne * unitsPerOne ≤ units * (100 * unitsPerOne) := by
      rw [Nat.mul_comm units]
      exact Nat.mul_le_mul_left _ le
    exact_mod_cast scaled
  have great :
      100 ≤ nearestWholeAway (nearestUnits (units * (100 * unitsPerOne)) unitsPerOne) := by
    rw [nearestWholeAway, Nat.le_div_iff_mul_le (by omega)]
    omega
  rcases nearest_eq_finite_or_eq_infinity false (units * (100 * unitsPerOne)) unitsPerOne with
    ⟨_, isProduct⟩ | isProduct
  · rw [percent, mul_whole, isProduct]
    simp only [Nat.min_eq_right great]
    rfl
  · rw [percent, mul_whole, isProduct]
    rfl

theorem percent_of_le_zero
    (le : certainty ≤ zero false) :
    percent certainty = 0 := by
  cases le with
  | least _ => decide +kernel
  | finite isFinite _ le =>
      obtain ⟨negative, units, onGrid, rfl⟩ := exists_finite isFinite
      cases negative with
      | true => exact percent_of_negative onGrid
      | false =>
          rw [value_zero, value, cast_signedUnits, if_neg Bool.false_ne_true,
            div_le_iff₀ unitsPerOne_pos, zero_mul] at le
          obtain rfl : units = 0 := Nat.le_zero.1 (by exact_mod_cast le)
          have isZero : percent (zero false) = 0 := by decide +kernel
          exact isZero

theorem percent_of_one_le
    (le : one ≤ certainty) :
    percent certainty = 100 := by
  cases le with
  | greatest _ => decide +kernel
  | finite _ isFinite le =>
      obtain ⟨negative, units, onGrid, rfl⟩ := exists_finite isFinite
      rw [value_one, value, one_le_div₀ unitsPerOne_pos, cast_signedUnits] at le
      cases negative with
      | true =>
          rw [if_pos rfl] at le
          have none : (0 : ℚ) ≤ units := Nat.cast_nonneg units
          linarith [unitsPerOne_pos]
      | false =>
          rw [if_neg Bool.false_ne_true, Nat.cast_le] at le
          exact percent_of_one_le_units onGrid le

theorem isCertainty_of_le
    (positive : zero false ≤ certainty)
    (small : certainty ≤ one) :
    IsCertainty certainty := by
  cases positive with
  | greatest _ =>
      cases small with
      | finite infinite _ _ => exact infinite.elim
  | finite _ isFinite nonneg =>
      cases small with
      | least _ => exact isFinite.elim
      | finite _ _ le_one =>
          rw [value_zero] at nonneg
          rw [value_one] at le_one
          exact ⟨isFinite, nonneg, le_one⟩

/-- A greater number has no lower percentage, whatever clamps the two of them. -/
theorem percent_le_percent
    (le : left ≤ right) :
    percent left ≤ percent right := by
  cases le with
  | least isNumber =>
      have isLeast : infinity true ≤ zero false := .least Binary64.noConfusion
      rw [percent_of_le_zero isLeast]
      exact UInt8.zero_le
  | greatest isNumber =>
      have isGreatest : one ≤ infinity false := .greatest Binary64.noConfusion
      rw [percent_of_one_le isGreatest]
      exact percent_le left
  | finite leftFinite rightFinite le =>
      rcases le_total left.value 0 with nonpositive | nonneg
      · have isLow : left ≤ zero false :=
          .finite leftFinite (isFinite_zero false) (by rwa [value_zero])
        rw [percent_of_le_zero isLow]
        exact UInt8.zero_le
      rcases le_total 1 right.value with great | le_one
      · have isFull : one ≤ right := .finite isFinite_one rightFinite (by rwa [value_one])
        rw [percent_of_one_le isFull]
        exact percent_le left
      · have isLeft : IsCertainty left := ⟨leftFinite, nonneg, le.trans le_one⟩
        have isRight : IsCertainty right := ⟨rightFinite, nonneg.trans le, le_one⟩
        exact (isPercentage_percent isLeft).mono (isPercentage_percent isRight) le

/-! ## Halves -/

/-- A hundredfold that is rounded to a half is rounded upwards from there. -/
theorem toNat_percent_of_half
    (isFinite : certainty.IsFinite)
    {hundredfold : Binary64}
    (nearest : IsNearest (certainty.value * 100) hundredfold)
    {whole : Nat}
    (fits : whole < 100)
    (isHalf : hundredfold.value = whole + 1 / 2) :
    (percent certainty).toNat = whole + 1 := by
  have hundred : (Binary64.whole 100).value = 100 := value_whole 100 _
  have wholeNonneg : (0 : ℚ) ≤ whole := Nat.cast_nonneg whole
  have wholeLe : (whole : ℚ) + 1 ≤ 100 := by exact_mod_cast fits
  have nonneg : 0 ≤ certainty.value := by
    by_contra! negative
    have below : hundredfold.value ≤ (zero false).value := by
      apply nearest.value_le (isFinite_zero false)
      rw [value_zero]
      linarith
    rw [value_zero] at below
    linarith
  have le_one : certainty.value ≤ 1 := by
    by_contra! great
    have hundredFinite : (Binary64.whole 100).IsFinite := trivial
    have above : (Binary64.whole 100).value ≤ hundredfold.value := by
      apply nearest.le_value hundredFinite
      rw [hundred]
      linarith
    rw [hundred] at above
    linarith
  obtain ⟨product, nearestProduct, isFloor⟩ := isPercentage_percent ⟨isFinite, nonneg, le_one⟩
  rw [isFloor, nearestProduct.unique nearest, isHalf, add_assoc, add_halves]
  exact_mod_cast Nat.floor_natCast (whole + 1)

/-! ## All numbers -/

/-- What makes a function a rounding of numbers to percentages. -/
structure RoundsToPercent (round : Binary64 → UInt8) : Prop where
  /-- Percentages go up to a hundred. -/
  bounded : ∀ number, round number ≤ 100
  /-- What is no number has the percentage zero. -/
  nan : round .nan = 0
  /-- Numbers up to zero are clamped to zero: negative ones, infinity and both zeros. -/
  low : ∀ number, number ≤ .zero false → round number = 0
  /-- Numbers from one on are clamped to a hundred, up to infinity. -/
  full : ∀ number, .one ≤ number → round number = 100
  /-- A greater number has no lower percentage. -/
  monotone : ∀ left right, left ≤ right → round left ≤ round right
  /-- The hundredfold of a certainty is rounded once, and then upwards from a half. -/
  rounded : ∀ certainty, IsCertainty certainty → IsPercentage certainty (round certainty)
  /-- The percentage of a certainty is off by half a percent and the error of the hundredfold. -/
  accurate : ∀ certainty, IsCertainty certainty →
    |(round certainty).toNat - 100 * certainty.value| ≤ (1 / 2 + 1 / 2 ^ 47 : ℚ)
  /-- Wherever the hundredfold is rounded to a half, the percentage is the next whole number. -/
  half : ∀ number hundredfold, number.IsFinite → IsNearest (number.value * 100) hundredfold →
    ∀ whole : Nat, whole < 100 → hundredfold.value = whole + 1 / 2 →
      (round number).toNat = whole + 1

/-- Percentages are shown by the one way there is of rounding all numbers to percentages. -/
theorem roundsToPercent_iff_eq_percent
    (round : Binary64 → UInt8) :
    RoundsToPercent round ↔ round = percent := by
  constructor
  · intro rounds
    funext number
    by_cases isNan : number = nan
    · rw [isNan, rounds.nan]
      rfl
    have zeroNumber : zero false ≠ nan := Binary64.noConfusion
    have oneNumber : one ≠ nan := Binary64.noConfusion
    rcases le_or_le isNan zeroNumber with low | nonneg
    · rw [rounds.low number low, percent_of_le_zero low]
    rcases le_or_le oneNumber isNan with great | le_one
    · rw [rounds.full number great, percent_of_one_le great]
    · have isCertainty := isCertainty_of_le nonneg le_one
      exact (rounds.rounded number isCertainty).unique (isPercentage_percent isCertainty) rfl
  · rintro rfl
    exact
      { bounded := percent_le
        nan := rfl
        low := fun _ => percent_of_le_zero
        full := fun _ => percent_of_one_le
        monotone := fun _ _ => percent_le_percent
        rounded := fun _ => isPercentage_percent
        accurate := fun _ isCertainty =>
          (isPercentage_percent isCertainty).abs_sub_le isCertainty
        half := fun _ _ isFinite nearest _ => toNat_percent_of_half isFinite nearest }

/-- The ends of all numbers, both zeros, and a hundredfold that is rounded down to a half. -/
theorem roundsToPercent_iff_eq_percent_edges :
    RoundsToPercent percent ∧
      percent (.infinity true) = 0 ∧ percent (.zero true) = 0 ∧ percent (.zero false) = 0 ∧
      percent (.infinity false) = 100 ∧
      (percent 0.005).toNat = 1 := by
  have rounds := (roundsToPercent_iff_eq_percent percent).2 rfl
  have half {number : Binary64} (isCertainty : IsCertainty number)
      (isHalf : (number * whole 100).value = (0 : ℕ) + 1 / 2) : (percent number).toNat = 1 :=
    rounds.half number _ isCertainty.isFinite (isNearest_hundredfold isCertainty) 0 (by decide)
      isHalf
  have isCertainty : IsCertainty 0.005 := isCertainty_of_inUnitInterval (by decide +kernel)
  have isHalf : (0.005 * .whole 100 : Binary64).value = (0 : ℕ) + 1 / 2 := by decide +kernel
  refine ⟨rounds, rounds.low _ (.least Binary64.noConfusion), rounds.low _ ?_, rounds.low _ ?_,
    rounds.full _ (.greatest Binary64.noConfusion), ?_⟩
  · exact .finite (isFinite_zero true) (isFinite_zero false) (by rw [value_zero, value_zero])
  · exact .finite (isFinite_zero false) (isFinite_zero false) le_rfl
  · exact half isCertainty isHalf

/-- A half is rounded upwards also from an even number, and a hundredfold below it is not. -/
example : percent 0.125 = 13 ∧ percent 0.285 = 28 := by
  decide +kernel

end Certainty
end FaultFinder
