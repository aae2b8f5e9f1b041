import FaultFinder.Certainty
import FaultFinder.Proofs.Binary64.Arithmetic
import Mathlib.Algebra.Order.Floor.Semifield
import Mathlib.Algebra.Order.Ring.Abs
import Mathlib.Order.Monotone.Basic

/-!
# Combining certainties

A combination of certainties is a certainty and is no less than the first of
them, in spite of the rounding, and it differs from the exact combination by
three rounding errors.  So further equal pieces of evidence never lower a
certainty, and since combining brings certainties closer together, each of
them adds at most the errors of one combination.
-/

namespace FaultFinder

namespace Binary64

/-- A number above one is above it by at least the distance of numbers there. -/
theorem one_add_le_value
    {number : Binary64}
    (greater : 1 < number.value) :
    1 + 1 / 2 ^ 52 ≤ number.value := by
  obtain ⟨shift, places⟩ : ∃ shift, unitPlaces = 52 + shift := ⟨1022, rfl⟩
  have one : (unitsPerOne : ℚ) = 2 ^ 52 * 2 ^ shift := by
    rw [unitsPerOne, cast_twoPow, places, pow_add]
  have onGrid := number.onGrid_signedUnits
  rw [value, lt_div_iff₀ unitsPerOne_pos, one_mul] at greater
  rw [value, le_div_iff₀ unitsPerOne_pos]
  have positive : 0 ≤ number.signedUnits := by
    have castPositive : (0 : ℚ) < number.signedUnits := unitsPerOne_pos.trans greater
    exact_mod_cast castPositive.le
  obtain ⟨units, isUnits⟩ := Int.eq_ofNat_of_zero_le positive
  rw [isUnits, Int.natAbs_natCast] at onGrid
  rw [isUnits, Int.cast_natCast] at greater ⊢
  have spacingDivides : twoPow shift ∣ spacing units := by
    have smaller : unitsPerOne ≤ units := Nat.cast_le.1 greater.le
    have divides := spacing_dvd_spacing smaller
    rwa [spacing, unitsPerOne, log2_twoPow, places, Nat.add_sub_cancel_left] at divides
  obtain ⟨count, rfl⟩ := spacingDivides.trans onGrid.spacing_dvd
  have stepPositive : (0 : ℚ) < 2 ^ shift := pow_pos two_pos shift
  rw [one, Nat.cast_mul, cast_twoPow, mul_comm, mul_lt_mul_iff_right₀ stepPositive] at greater
  have more : (2 : ℚ) ^ 52 + 1 ≤ count := by
    have whole : 2 ^ 52 < count := by exact_mod_cast greater
    exact_mod_cast whole
  have scaled : (1 + 1 / 2 ^ 52 : ℚ) * 2 ^ 52 = 2 ^ 52 + 1 := by norm_num
  rw [one, ← mul_assoc, scaled, Nat.cast_mul, cast_twoPow, mul_comm (2 ^ shift : ℚ)]
  exact mul_le_mul_of_nonneg_right more stepPositive.le

namespace IsNearest

variable
    {exact : ℚ}
    {rounded : Binary64}
    (nearest : IsNearest exact rounded)

include nearest

theorem value_nonneg
    (nonneg : 0 ≤ exact) :
    0 ≤ rounded.value :=
  (value_zero false).symm.trans_le
    (nearest.le_value (isFinite_zero false) ((value_zero false).trans_le nonneg))

theorem abs_sub_le_of_abs_le_one
    (bound : |exact| ≤ 1) :
    |rounded.value - exact| ≤ 1 / 2 ^ 54 := by
  have inRange : 0 + 1074 < magnitudeBits := by decide
  have error := nearest.abs_sub_le inRange (bound.trans_eq (pow_zero 2).symm)
  rwa [pow_zero] at error

/-- A value that exceeds one by a rounding error is rounded to one. -/
theorem near_one
    (nonneg : 0 ≤ exact)
    (bound : exact ≤ 1 + 1 / 2 ^ 54) :
    rounded.value ≤ 1 ∧ |rounded.value - exact| ≤ 1 / 2 ^ 54 := by
  rcases le_total exact 1 with small | excess
  · refine ⟨?_, nearest.abs_sub_le_of_abs_le_one ?_⟩
    · exact (nearest.value_le isFinite_one (small.trans_eq value_one.symm)).trans_eq value_one
    · rwa [abs_of_nonneg nonneg]
  · have closer := nearest.closest one isFinite_one
    rw [value_one, abs_of_nonpos (a := 1 - exact) (by linarith)] at closer
    have error : |rounded.value - exact| ≤ 1 / 2 ^ 54 := by linarith
    refine ⟨?_, error⟩
    by_contra! greater
    have apart := one_add_le_value greater
    have above := (abs_le.1 error).2
    norm_num at apart above bound
    linarith

end IsNearest

end Binary64

namespace Certainty

open Binary64

/-- The number is a certainty: it is finite, not negative and at most one. -/
structure IsCertainty (number : Binary64) : Prop where
  /-- The number is finite. -/
  isFinite : number.IsFinite
  /-- The number is not negative. -/
  nonneg : 0 ≤ number.value
  /-- The number is at most one. -/
  le_one : number.value ≤ 1

theorem IsCertainty.of_isNearest
    {exact : ℚ}
    {rounded : Binary64}
    (nearest : IsNearest exact rounded)
    (nonneg : 0 ≤ exact)
    (le_one : exact ≤ 1) :
    IsCertainty rounded where
  isFinite := nearest.isFinite
  nonneg := nearest.value_nonneg nonneg
  le_one :=
    (nearest.value_le isFinite_one (le_one.trans_eq value_one.symm)).trans_eq value_one

/-- What is tested of the certainties of rules and of users makes them certainties. -/
theorem isCertainty_of_inUnitInterval
    {number : Binary64}
    (inRange : number.inUnitInterval = true) :
    IsCertainty number := by
  cases number with
  | nan => cases inRange
  | infinity negative => cases inRange
  | finite negative units onGrid =>
      cases negative with
      | true => cases inRange
      | false =>
          simp only [inUnitInterval, Bool.and_eq_true, decide_eq_true_eq] at inRange
          have castLe : (units : ℚ) ≤ unitsPerOne := Nat.cast_le.2 inRange.2
          refine ⟨trivial, ?_, ?_⟩
          · exact div_nonneg (Nat.cast_nonneg _) unitsPerOne_pos.le
          · exact (div_le_one unitsPerOne_pos).2 castLe

/-! ## One combination -/

/-- Two certainties are combined with each of the three operations rounded once. -/
def Combines (left right combined : Binary64) : Prop :=
  ∃ distance part,
    IsNearest (1 - left.value) distance ∧ IsNearest (right.value * distance.value) part ∧
      IsNearest (left.value + part.value) combined

variable
    {left right combined evidence certainty : Binary64}

theorem combines_combine
    (isLeft : IsCertainty left)
    (isRight : IsCertainty right) :
    Combines left right (combine left right) := by
  obtain ⟨leftFinite, leftNonneg, leftLe⟩ := isLeft
  obtain ⟨rightFinite, rightNonneg, rightLe⟩ := isRight
  have distance : IsNearest (1 - left.value) (one - left) := by
    have within : |one.value - left.value| ≤ one.value := by
      rw [value_one, abs_of_nonneg (by linarith)]
      linarith
    have rounded := isNearest_sub one isFinite_one leftFinite within
    rwa [value_one] at rounded
  have isDistance := IsCertainty.of_isNearest distance (by linarith) (by linarith)
  have productNonneg : 0 ≤ right.value * (one - left).value :=
    mul_nonneg rightNonneg isDistance.nonneg
  have productLe : right.value * (one - left).value ≤ 1 :=
    mul_le_one₀ rightLe isDistance.nonneg isDistance.le_one
  have part : IsNearest (right.value * (one - left).value) (right * (one - left)) := by
    apply isNearest_mul one rightFinite isDistance.isFinite
    rw [value_one, abs_of_nonneg productNonneg]
    exact productLe
  have isPart := IsCertainty.of_isNearest part productNonneg productLe
  refine ⟨one - left, right * (one - left), distance, part, ?_⟩
  apply isNearest_add (whole 2) leftFinite isPart.isFinite
  have partNonneg := isPart.nonneg
  have partLe := isPart.le_one
  rw [value_whole, abs_of_nonneg (by linarith)]
  norm_num
  linarith

/-- A combination is no less than the first certainty, at most one, and near the exact one. -/
theorem Combines.bounds
    (combines : Combines left right combined)
    (isLeft : IsCertainty left)
    (isRight : IsCertainty right) :
    left.value ≤ combined.value ∧ combined.value ≤ 1 ∧
      |combined.value - (left.value + right.value * (1 - left.value))| ≤ 3 / 2 ^ 54 := by
  obtain ⟨distance, part, nearDistance, nearPart, nearCombined⟩ := combines
  obtain ⟨leftFinite, leftNonneg, leftLe⟩ := isLeft
  obtain ⟨rightFinite, rightNonneg, rightLe⟩ := isRight
  have isDistance := IsCertainty.of_isNearest nearDistance (by linarith) (by linarith)
  have productNonneg : 0 ≤ right.value * distance.value :=
    mul_nonneg rightNonneg isDistance.nonneg
  have productLe : right.value * distance.value ≤ distance.value :=
    mul_le_of_le_one_left isDistance.nonneg rightLe
  have isPart :=
    IsCertainty.of_isNearest nearPart productNonneg (productLe.trans isDistance.le_one)
  have partLe : part.value ≤ distance.value := nearPart.value_le isDistance.isFinite productLe
  have distanceError : |distance.value - (1 - left.value)| ≤ 1 / 2 ^ 54 := by
    apply nearDistance.abs_sub_le_of_abs_le_one
    rw [abs_of_nonneg (by linarith)]
    linarith
  have partError : |part.value - right.value * distance.value| ≤ 1 / 2 ^ 54 := by
    apply nearPart.abs_sub_le_of_abs_le_one
    rw [abs_of_nonneg productNonneg]
    exact productLe.trans isDistance.le_one
  -- The sum may exceed one, but only by the error of the distance.
  have sumLe : left.value + part.value ≤ 1 + 1 / 2 ^ 54 := by
    have above := (abs_le.1 distanceError).2
    linarith
  obtain ⟨combinedLe, combinedError⟩ :=
    nearCombined.near_one (add_nonneg leftNonneg isPart.nonneg) sumLe
  refine ⟨?_, combinedLe, ?_⟩
  · exact nearCombined.le_value leftFinite (le_add_of_nonneg_right isPart.nonneg)
  · have scaledError : |right.value * (distance.value - (1 - left.value))| ≤ 1 / 2 ^ 54 := by
      rw [abs_mul, abs_of_nonneg rightNonneg]
      exact (mul_le_of_le_one_left (abs_nonneg _) rightLe).trans distanceError
    have decomposed :
        combined.value - (left.value + right.value * (1 - left.value)) =
          combined.value - (left.value + part.value) +
            (part.value - right.value * distance.value) +
              right.value * (distance.value - (1 - left.value)) := by ring
    rw [decomposed]
    refine (abs_add_three _ _ _).trans ?_
    linarith

theorem Combines.isCertainty
    (combines : Combines left right combined)
    (isLeft : IsCertainty left)
    (isRight : IsCertainty right) :
    IsCertainty combined := by
  obtain ⟨le, le_one, _⟩ := combines.bounds isLeft isRight
  obtain ⟨_, _, _, _, nearest⟩ := combines
  exact ⟨nearest.isFinite, isLeft.nonneg.trans le, le_one⟩

/-- The combination is determined by the values of what is combined. -/
theorem Combines.unique
    {otherLeft otherRight otherCombined : Binary64}
    (combines : Combines left right combined)
    (sameLeft : left.value = otherLeft.value)
    (sameRight : right.value = otherRight.value)
    (otherCombines : Combines otherLeft otherRight otherCombined) :
    combined.value = otherCombined.value := by
  obtain ⟨distance, part, nearDistance, nearPart, nearCombined⟩ := combines
  obtain ⟨otherDistance, otherPart, otherNearDistance, otherNearPart, otherNearCombined⟩ :=
    otherCombines
  rw [sameLeft] at nearDistance nearCombined
  rw [sameRight, nearDistance.unique otherNearDistance] at nearPart
  rw [nearPart.unique otherNearPart] at nearCombined
  exact nearCombined.unique otherNearCombined

/-! ## Repeated combination -/

/-- Combining stops early only when it would not change anything any more. -/
theorem accumulate_eq_iterate
    (evidence : Binary64)
    (pieces : Nat)
    (certainty : Binary64) :
    accumulate evidence pieces certainty = (combine · evidence)^[pieces] certainty := by
  induction pieces generalizing certainty with
  | zero => rfl
  | succ pieces inductionHypothesis =>
      rw [accumulate]
      split
      · next unchanged => exact (Function.iterate_fixed unchanged (pieces + 1)).symm
      · exact inductionHypothesis (combine certainty evidence)

theorem combineRepeated_succ_succ
    (evidence : Binary64)
    (pieces : Nat) :
    combineRepeated evidence (pieces + 2) =
      combine (combineRepeated evidence (pieces + 1)) evidence := by
  rw [combineRepeated, combineRepeated, accumulate_eq_iterate, accumulate_eq_iterate,
    Function.iterate_succ_apply']

/-- A certainty is what equal pieces of evidence give, with every operation rounded once. -/
inductive Accumulates (evidence : Binary64) : Nat → Binary64 → Prop where
  /-- One piece of evidence stands for itself. -/
  | single : Accumulates evidence 1 evidence
  /-- Another piece is combined with the certainty that the others give. -/
  | another
      {pieces : Nat}
      {certainty combined : Binary64}
      (accumulates : Accumulates evidence pieces certainty)
      (combines : Combines certainty evidence combined) :
      Accumulates evidence (pieces + 1) combined

namespace Accumulates

variable
    {pieces : Nat}

theorem isCertainty
    (accumulates : Accumulates evidence pieces certainty)
    (isEvidence : IsCertainty evidence) :
    IsCertainty certainty := by
  induction accumulates with
  | single => exact isEvidence
  | another _ combines isCertainty => exact combines.isCertainty isCertainty isEvidence

/-- The certainty is determined by the value of the evidence and the number of pieces. -/
theorem unique
    {otherEvidence other : Binary64}
    (same : evidence.value = otherEvidence.value)
    (accumulates : Accumulates evidence pieces certainty)
    (otherAccumulates : Accumulates otherEvidence pieces other) :
    certainty.value = other.value := by
  induction accumulates generalizing other with
  | single =>
      cases otherAccumulates with
      | single => exact same
      | another none _ => cases none
  | another accumulates combines inductionHypothesis =>
      cases otherAccumulates with
      | single => cases accumulates
      | another otherAccumulates otherCombines =>
          exact combines.unique (inductionHypothesis otherAccumulates) same otherCombines

/-- The errors of the single combinations add up, and they do not grow. -/
theorem abs_sub_le
    (accumulates : Accumulates evidence pieces certainty)
    (isEvidence : IsCertainty evidence) :
    |certainty.value - (1 - (1 - evidence.value) ^ pieces)| ≤ 3 * (pieces - 1) / 2 ^ 54 := by
  induction accumulates with
  | single => simp
  | @another pieces certainty combined accumulates combines inductionHypothesis =>
      obtain ⟨_, _, error⟩ := combines.bounds (accumulates.isCertainty isEvidence) isEvidence
      have contraction :
          |(1 - evidence.value) *
              (certainty.value - (1 - (1 - evidence.value) ^ pieces))| ≤
            3 * (pieces - 1) / 2 ^ 54 := by
        have nonneg : 0 ≤ 1 - evidence.value := sub_nonneg.2 isEvidence.le_one
        have le_one : 1 - evidence.value ≤ 1 := sub_le_self 1 isEvidence.nonneg
        rw [abs_mul, abs_of_nonneg nonneg]
        exact (mul_le_of_le_one_left (abs_nonneg _) le_one).trans inductionHypothesis
      have decomposed :
          combined.value - (1 - (1 - evidence.value) ^ (pieces + 1)) =
            combined.value - (certainty.value + evidence.value * (1 - certainty.value)) +
              (1 - evidence.value) *
                (certainty.value - (1 - (1 - evidence.value) ^ pieces)) := by ring
      have sum :
          (3 : ℚ) / 2 ^ 54 + 3 * (pieces - 1) / 2 ^ 54 =
            3 * ((pieces + 1 : ℕ) - 1) / 2 ^ 54 := by
        rw [Nat.cast_add, Nat.cast_one]
        ring
      rw [decomposed, ← sum]
      exact (abs_add_le _ _).trans (add_le_add error contraction)

end Accumulates

theorem accumulates_combineRepeated
    (isEvidence : IsCertainty evidence)
    (pieces : Nat) :
    Accumulates evidence (pieces + 1) (combineRepeated evidence (pieces + 1)) := by
  induction pieces with
  | zero => exact .single
  | succ pieces accumulates =>
      rw [combineRepeated_succ_succ]
      exact .another accumulates
        (combines_combine (accumulates.isCertainty isEvidence) isEvidence)

/-- More pieces of evidence never give a lower certainty. -/
theorem monotone_combineRepeated
    (isEvidence : IsCertainty evidence) :
    Monotone fun pieces => (combineRepeated evidence (pieces + 1)).value := by
  apply monotone_nat_of_le_succ
  intro pieces
  have isCertainty := (accumulates_combineRepeated isEvidence pieces).isCertainty isEvidence
  have combines := combines_combine isCertainty isEvidence
  rw [← combineRepeated_succ_succ] at combines
  exact (combines.bounds isCertainty isEvidence).1

/-! ## Percentages -/

theorem nearestWholeAway_eq_floor (units : Nat) :
    nearestWholeAway units = ⌊(units / unitsPerOne + 1 / 2 : ℚ)⌋₊ := by
  have fraction :
      (units / unitsPerOne + 1 / 2 : ℚ) =
        (2 * units + unitsPerOne : ℕ) / (2 * unitsPerOne : ℕ) := by
    have nonzero := unitsPerOne_pos.ne'
    push_cast
    field_simp
  rw [nearestWholeAway, fraction, Nat.floor_div_eq_div]

theorem percent_le (certainty : Binary64) : percent certainty ≤ 100 := by
  unfold percent
  split
  · decide
  · split <;> decide
  · decide
  · next units _ _ =>
      have small : min (nearestWholeAway units) 100 ≤ 100 := Nat.min_le_right _ _
      rw [UInt8.le_iff_toNat_le, UInt8.toNat_ofNat']
      exact Nat.le_trans (Nat.mod_le _ _) small

/-- A percentage is the hundredfold of a certainty, rounded, and rounded upwards from a half. -/
def IsPercentage (certainty : Binary64) (percentage : UInt8) : Prop :=
  ∃ hundredfold, IsNearest (certainty.value * 100) hundredfold ∧
    percentage.toNat = ⌊hundredfold.value + 1 / 2⌋₊

theorem isNearest_hundredfold
    (isCertainty : IsCertainty certainty) :
    IsNearest (certainty.value * 100) (certainty * whole 100) := by
  obtain ⟨isFinite, nonneg, le_one⟩ := isCertainty
  have hundred : (whole 100).value = 100 := value_whole 100 _
  have hundredFinite : (whole 100).IsFinite := trivial
  rw [← hundred]
  apply isNearest_mul (whole 100) isFinite hundredFinite
  rw [hundred, abs_of_nonneg (by linarith)]
  linarith

theorem isPercentage_percent
    (isCertainty : IsCertainty certainty) :
    IsPercentage certainty (percent certainty) := by
  have nearest := isNearest_hundredfold isCertainty
  obtain ⟨_, nonneg, le_one⟩ := isCertainty
  have atLeast : 0 ≤ (certainty * whole 100).value := nearest.value_nonneg (by linarith)
  have atMost : (certainty * whole 100).value ≤ 100 := by
    have hundred : (whole 100).value = 100 := value_whole 100 _
    have hundredFinite : (whole 100).IsFinite := trivial
    rw [← hundred]
    apply nearest.value_le hundredFinite
    rw [hundred]
    linarith
  refine ⟨certainty * whole 100, nearest, ?_⟩
  obtain ⟨negative, units, onGrid, isProduct⟩ := exists_finite nearest.isFinite
  rw [isProduct] at atLeast atMost ⊢
  rw [percent, isProduct]
  cases negative with
  | true =>
      -- A negative zero is all that the sign leaves.
      have isZero : (finite true units onGrid).value = 0 := by
        apply atLeast.antisymm'
        rw [value, signedUnits, if_pos rfl, Int.cast_neg, Int.cast_natCast, neg_div]
        exact neg_nonpos.2 (div_nonneg (Nat.cast_nonneg _) unitsPerOne_pos.le)
      rw [isZero]
      norm_num
  | false =>
      have isValue : (finite false units onGrid).value = units / unitsPerOne := rfl
      have small : nearestWholeAway units ≤ 100 := by
        rw [nearestWholeAway_eq_floor, ← isValue]
        apply Nat.lt_succ_iff.1
        rw [Nat.floor_lt (by linarith)]
        push_cast
        linarith
      rw [isValue, ← nearestWholeAway_eq_floor]
      simp only [Nat.min_eq_left small]
      exact UInt8.toNat_ofNat_of_lt' (small.trans_lt (by decide))

namespace IsPercentage

variable
    {percentage other : UInt8}

/-- A greater certainty has no lower percentage. -/
theorem mono
    (isPercentage : IsPercentage left percentage)
    (isOther : IsPercentage right other)
    (le : left.value ≤ right.value) :
    percentage ≤ other := by
  obtain ⟨hundredfold, nearest, isFloor⟩ := isPercentage
  obtain ⟨otherHundredfold, otherNearest, isOtherFloor⟩ := isOther
  rw [UInt8.le_iff_toNat_le, isFloor, isOtherFloor]
  apply Nat.floor_mono
  have hundredfoldLe := nearest.mono otherNearest (mul_le_mul_of_nonneg_right le (by norm_num))
  linarith

/-- The percentage is determined by the value of the certainty. -/
theorem unique
    (isPercentage : IsPercentage left percentage)
    (isOther : IsPercentage right other)
    (same : left.value = right.value) :
    percentage = other :=
  UInt8.le_antisymm (isPercentage.mono isOther same.le) (isOther.mono isPercentage same.ge)

/-- A percentage is off by half a percent and by the error of the hundredfold. -/
theorem abs_sub_le
    (isPercentage : IsPercentage certainty percentage)
    (isCertainty : IsCertainty certainty) :
    |percentage.toNat - 100 * certainty.value| ≤ (1 / 2 + 1 / 2 ^ 47 : ℚ) := by
  obtain ⟨hundredfold, nearest, isFloor⟩ := isPercentage
  obtain ⟨_, nonneg, le_one⟩ := isCertainty
  have error : |hundredfold.value - certainty.value * 100| ≤ 2 ^ 7 / 2 ^ 54 := by
    apply nearest.abs_sub_le (by decide)
    rw [abs_of_nonneg (by linarith)]
    linarith
  have atLeast : 0 ≤ hundredfold.value := nearest.value_nonneg (by linarith)
  have floorLe : (percentage.toNat : ℚ) ≤ hundredfold.value + 1 / 2 := by
    rw [isFloor]
    exact Nat.floor_le (by linarith)
  have ltFloor : hundredfold.value + 1 / 2 < percentage.toNat + 1 := by
    rw [isFloor]
    exact Nat.lt_floor_add_one _
  have sameError : (2 ^ 7 / 2 ^ 54 : ℚ) = 1 / 2 ^ 47 := by norm_num
  rw [sameError] at error
  obtain ⟨below, above⟩ := abs_le.1 error
  rw [abs_le]
  constructor <;> linarith

end IsPercentage

end Certainty
end FaultFinder
