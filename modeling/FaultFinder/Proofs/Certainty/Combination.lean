import FaultFinder.Binary64.Word
import FaultFinder.Proofs.Certainty

/-!
# The laws of combining certainties

The exact combination of two certainties is commutative, no less than either of
them and monotone in both, and it leaves a certainty alone when the other one is
zero.  With every operation rounded, the laws that favour the first certainty
hold as they stand: the combination is no less than it, does not exceed one and
grows with the second certainty, and zero changes nothing.  Exchanging the two
certainties is another matter: the combination may depend on their order and be
less than the second one, but only within the rounding errors.
-/

namespace FaultFinder

namespace Binary64

/-- The value determines a number that is not `-0`, as soon as it determines the other zero. -/
theorem eq_of_value_eq
    {left right : Binary64}
    (leftFinite : left.IsFinite)
    (rightFinite : right.IsFinite)
    (same : left.value = right.value)
    (signless : right ≠ zero true)
    (sameZero : right = zero false → left = right) :
    left = right := by
  rw [value, value, div_left_inj' unitsPerOne_pos.ne', Int.cast_inj] at same
  obtain ⟨leftNegative, units, leftOnGrid, rfl⟩ := exists_finite leftFinite
  obtain ⟨rightNegative, rightUnits, rightOnGrid, rfl⟩ := exists_finite rightFinite
  obtain rfl : units = rightUnits := by
    rw [← natAbs_signedUnits leftNegative units leftOnGrid, same, natAbs_signedUnits]
  by_cases sameSign : leftNegative = rightNegative
  · rw [sameSign]
  · -- Opposite numbers have the same value only if they are zeros.
    obtain rfl : leftNegative = !rightNegative := Bool.eq_not.2 sameSign
    have opposite : finite (!rightNegative) units leftOnGrid =
        (finite rightNegative units rightOnGrid).neg := rfl
    have none : units = 0 := by
      rw [opposite, signedUnits_neg] at same
      rw [← natAbs_signedUnits rightNegative units rightOnGrid]
      omega
    subst none
    cases rightNegative with
    | true => exact absurd rfl signless
    | false => exact sameZero rfl

end Binary64

namespace Certainty

open Binary64

variable
    {left right combined : Binary64}

/-! ## Rounded combinations -/

namespace Combines

theorem value_of_right_eq_zero
    (combines : Combines left right combined)
    (isFinite : left.IsFinite)
    (isZero : right.value = 0) :
    combined.value = left.value := by
  obtain ⟨distance, part, _, nearPart, nearCombined⟩ := combines
  have partZero : part.value = 0 := by
    rw [isZero, zero_mul, ← value_zero false] at nearPart
    exact (nearPart.unique (.of_isFinite (isFinite_zero false))).trans (value_zero false)
  rw [partZero, add_zero] at nearCombined
  exact nearCombined.unique (.of_isFinite isFinite)

theorem value_of_left_eq_zero
    (combines : Combines left right combined)
    (isFinite : right.IsFinite)
    (isZero : left.value = 0) :
    combined.value = right.value := by
  obtain ⟨distance, part, nearDistance, nearPart, nearCombined⟩ := combines
  have distanceOne : distance.value = 1 := by
    rw [isZero, sub_zero, ← value_one] at nearDistance
    exact (nearDistance.unique (.of_isFinite isFinite_one)).trans value_one
  rw [distanceOne, mul_one] at nearPart
  rw [isZero, zero_add, nearPart.unique (.of_isFinite isFinite)] at nearCombined
  exact nearCombined.unique (.of_isFinite isFinite)

/-- The combination grows with the second certainty. -/
theorem mono_right
    {greater other : Binary64}
    (combines : Combines left right combined)
    (otherCombines : Combines left greater other)
    (isLeft : IsCertainty left)
    (le : right.value ≤ greater.value) :
    combined.value ≤ other.value := by
  obtain ⟨distance, part, nearDistance, nearPart, nearCombined⟩ := combines
  obtain ⟨otherDistance, otherPart, nearOtherDistance, nearOtherPart, nearOther⟩ := otherCombines
  obtain ⟨_, leftNonneg, leftLe⟩ := isLeft
  have isDistance := IsCertainty.of_isNearest nearDistance (by linarith) (by linarith)
  -- The distance from the first certainty to one is the same for both.
  rw [← nearDistance.unique nearOtherDistance] at nearOtherPart
  have partLe : part.value ≤ otherPart.value :=
    nearPart.mono nearOtherPart (mul_le_mul_of_nonneg_right le isDistance.nonneg)
  exact nearCombined.mono nearOther (add_le_add_right partLe left.value)

end Combines

/-! ## Zero -/

theorem isCertainty_zero (negative : Bool) : IsCertainty (zero negative) where
  isFinite := isFinite_zero negative
  nonneg := (value_zero negative).ge
  le_one := (value_zero negative).trans_le zero_le_one

theorem value_combine_zero
    (isLeft : IsCertainty left)
    (negative : Bool) :
    (combine left (zero negative)).value = left.value :=
  (combines_combine isLeft (isCertainty_zero negative)).value_of_right_eq_zero isLeft.isFinite
    (value_zero negative)

theorem value_zero_combine
    (negative : Bool)
    (isRight : IsCertainty right) :
    (combine (zero negative) right).value = right.value :=
  (combines_combine (isCertainty_zero negative) isRight).value_of_left_eq_zero isRight.isFinite
    (value_zero negative)

theorem isCertainty_combine
    (isLeft : IsCertainty left)
    (isRight : IsCertainty right) :
    IsCertainty (combine left right) :=
  (combines_combine isLeft isRight).isCertainty isLeft isRight

/-- Combining with a zero of either sign gives back the same number, unless that is `-0`. -/
theorem combine_zero
    (isLeft : IsCertainty left)
    (signless : left ≠ zero true)
    (negative : Bool) :
    combine left (zero negative) = left := by
  have isCombined := isCertainty_combine isLeft (isCertainty_zero negative)
  apply eq_of_value_eq isCombined.isFinite isLeft.isFinite
    (value_combine_zero isLeft negative) signless
  rintro rfl
  cases negative <;> decide +kernel

theorem zero_combine
    (negative : Bool)
    (isRight : IsCertainty right)
    (signless : right ≠ zero true) :
    combine (zero negative) right = right := by
  have isCombined := isCertainty_combine (isCertainty_zero negative) isRight
  apply eq_of_value_eq isCombined.isFinite isRight.isFinite
    (value_zero_combine negative isRight) signless
  rintro rfl
  cases negative <;> decide +kernel

/-! ## The exact combination -/

/-- A combination is off by at most one rounding error for each of the three operations. -/
theorem abs_combine_sub_le
    (isLeft : IsCertainty left)
    (isRight : IsCertainty right) :
    |(combine left right).value - (left.value + right.value - left.value * right.value)| ≤
      3 / 2 ^ 54 := by
  obtain ⟨_, _, error⟩ := (combines_combine isLeft isRight).bounds isLeft isRight
  have same : left.value + right.value * (1 - left.value) =
      left.value + right.value - left.value * right.value := by ring
  rwa [same] at error

theorem max_sub_le_combine
    (isLeft : IsCertainty left)
    (isRight : IsCertainty right) :
    max left.value right.value - 3 / 2 ^ 54 ≤ (combine left right).value := by
  have above : max left.value right.value ≤
      left.value + right.value - left.value * right.value := by
    apply max_le
    · have rest := mul_nonneg isRight.nonneg (sub_nonneg.2 isLeft.le_one)
      linarith
    · have rest := mul_nonneg isLeft.nonneg (sub_nonneg.2 isRight.le_one)
      linarith
  have error := (abs_le.1 (abs_combine_sub_le isLeft isRight)).1
  linarith

/-- Exchanging two certainties changes their combination by the errors of both at most. -/
theorem abs_combine_sub_combine_le
    (isLeft : IsCertainty left)
    (isRight : IsCertainty right) :
    |(combine left right).value - (combine right left).value| ≤ 6 / 2 ^ 54 := by
  have error := abs_combine_sub_le isLeft isRight
  have mirrored := abs_combine_sub_le isRight isLeft
  rw [add_comm right.value, mul_comm right.value, abs_sub_comm] at mirrored
  refine (abs_sub_le _ _ _).trans ((add_le_add error mirrored).trans_eq ?_)
  norm_num

/-! ## All laws together -/

/-- The laws of combination as they hold for a pair of certainties. -/
structure ObeysLaws (left right : Binary64) : Prop where
  /-- The difference, the product and the sum are each rounded once. -/
  rounded : Combines left right (combine left right)
  /-- The combination is finite, not negative and at most one. -/
  isCertainty : IsCertainty (combine left right)
  /-- The first certainty is not lowered. -/
  dominates : left.value ≤ (combine left right).value
  /-- Zero as the second certainty changes nothing, up to the sign of a zero. -/
  zeroRight : ∀ negative,
    (combine left (zero negative)).value = left.value ∧
      (left ≠ zero true → combine left (zero negative) = left)
  /-- Zero as the first certainty changes nothing, up to the sign of a zero. -/
  zeroLeft : ∀ negative,
    (combine (zero negative) right).value = right.value ∧
      (right ≠ zero true → combine (zero negative) right = right)
  /-- A greater second certainty does not give a lower combination. -/
  grows : ∀ greater, IsCertainty greater → right.value ≤ greater.value →
    (combine left right).value ≤ (combine left greater).value
  /-- The combination is near to the exact one. -/
  accurate :
    |(combine left right).value - (left.value + right.value - left.value * right.value)| ≤
      3 / 2 ^ 54
  /-- Neither certainty is lowered by more than the error. -/
  nearlyDominates : max left.value right.value - 3 / 2 ^ 54 ≤ (combine left right).value
  /-- The order of the certainties matters no more than the errors of both combinations. -/
  nearlyCommutes : |(combine left right).value - (combine right left).value| ≤ 6 / 2 ^ 54

/-- Any two certainties are combined according to the laws. -/
theorem combine_obeys_laws
    (isLeft : IsCertainty left)
    (isRight : IsCertainty right) :
    ObeysLaws left right := by
  have combines := combines_combine isLeft isRight
  refine
    { rounded := combines
      isCertainty := isCertainty_combine isLeft isRight
      dominates := (combines.bounds isLeft isRight).1
      zeroRight := ?zeroRight
      zeroLeft := ?zeroLeft
      grows := ?grows
      accurate := abs_combine_sub_le isLeft isRight
      nearlyDominates := max_sub_le_combine isLeft isRight
      nearlyCommutes := abs_combine_sub_combine_le isLeft isRight }
  case zeroRight =>
      intro negative
      exact ⟨value_combine_zero isLeft negative, fun signless =>
        combine_zero isLeft signless negative⟩
  case zeroLeft =>
      intro negative
      exact ⟨value_zero_combine negative isRight, zero_combine negative isRight⟩
  case grows =>
      intro greater isGreater le
      exact combines.mono_right (combines_combine isLeft isGreater) isLeft le

/-- A little more than a quarter and the greatest certainty below one, which becomes lower. -/
theorem combine_obeys_laws_lowered :
    IsCertainty (ofWord 0x3fd0000000000003) ∧ IsCertainty (ofWord 0x3fefffffffffffff) ∧
      ObeysLaws (ofWord 0x3fd0000000000003) (ofWord 0x3fefffffffffffff) ∧
      (combine (ofWord 0x3fd0000000000003) (ofWord 0x3fefffffffffffff)).value <
        (ofWord 0x3fefffffffffffff).value := by
  have isLeft : IsCertainty (ofWord 0x3fd0000000000003) :=
    isCertainty_of_inUnitInterval (by decide +kernel)
  have isRight : IsCertainty (ofWord 0x3fefffffffffffff) :=
    isCertainty_of_inUnitInterval (by decide +kernel)
  refine ⟨isLeft, isRight, combine_obeys_laws isLeft isRight, ?_⟩
  rw [value_lt_value_iff]
  decide +kernel

/-- A greater first certainty may give a lower combination. -/
example :
    combine (ofWord 0x3fdffffffffffffa) (ofWord 0x3fefffffffffffff) =
        ofWord 0x3fefffffffffffff ∧
      combine (ofWord 0x3fdffffffffffffb) (ofWord 0x3fefffffffffffff) =
        ofWord 0x3feffffffffffffe := by
  decide +kernel

end Certainty
end FaultFinder
