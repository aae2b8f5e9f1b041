import FaultFinder.Binary64.Arithmetic
import FaultFinder.Proofs.Binary64.Rounding

/-!
# Correctly rounded arithmetic

The sum, the difference and the product of finite numbers are nearest to the
exact results, as long as these are no greater than a number of the format.
-/

namespace FaultFinder
namespace Binary64

variable
    {left right : Binary64}

theorem exists_finite
    {number : Binary64}
    (isFinite : number.IsFinite) :
    ∃ negative units onGrid, number = .finite negative units onGrid := by
  cases number with
  | nan => exact isFinite.elim
  | infinity negative => exact isFinite.elim
  | finite negative units onGrid => exact ⟨negative, units, onGrid, rfl⟩

theorem isNearest_add
    (bound : Binary64)
    (leftFinite : left.IsFinite)
    (rightFinite : right.IsFinite)
    (within : |left.value + right.value| ≤ bound.value) :
    IsNearest (left.value + right.value) (left + right) := by
  have exactUnits :
      (left.value + right.value) * unitsPerOne = (left.signedUnits + right.signedUnits : ℚ) := by
    rw [add_mul, value_mul_unitsPerOne, value_mul_unitsPerOne]
  obtain ⟨leftNegative, leftUnits, leftOnGrid, rfl⟩ := exists_finite leftFinite
  obtain ⟨rightNegative, rightUnits, rightOnGrid, rfl⟩ := exists_finite rightFinite
  rw [cast_signedUnits, cast_signedUnits] at exactUnits
  change IsNearest _ (add _ _)
  rw [add]
  split
  · next same =>
      subst same
      refine isNearest_nearest _ Nat.one_pos within ?_
      rw [exactUnits, Nat.cast_one, div_one, Nat.cast_add]
      split <;> ring
  · next different =>
      obtain rfl : rightNegative = !leftNegative := Bool.eq_not.2 (Ne.symm different)
      split
      · next less =>
          refine isNearest_nearest _ Nat.one_pos within ?_
          rw [exactUnits, Nat.cast_one, div_one, Nat.cast_sub less.le]
          cases leftNegative <;>
            simp only [Bool.not_true, Bool.not_false, Bool.false_eq_true, if_true, if_false] <;>
            ring
      · split
        · next less =>
            refine isNearest_nearest _ Nat.one_pos within ?_
            rw [exactUnits, Nat.cast_one, div_one, Nat.cast_sub less.le]
            cases leftNegative <;>
              simp only [Bool.not_true, Bool.not_false, Bool.false_eq_true, if_true, if_false] <;>
              ring
        · next notLess notGreater =>
            obtain rfl : leftUnits = rightUnits := by omega
            have cancelled :
                (finite leftNegative leftUnits leftOnGrid).value +
                  (finite (!leftNegative) leftUnits rightOnGrid).value =
                    (zero false).value := by
              have opposite : finite (!leftNegative) leftUnits rightOnGrid =
                  (finite leftNegative leftUnits leftOnGrid).neg := rfl
              rw [value_zero, opposite, value_neg, add_neg_cancel]
            rw [cancelled]
            exact IsNearest.of_isFinite (isFinite_zero false)

theorem isNearest_sub
    (bound : Binary64)
    (leftFinite : left.IsFinite)
    (rightFinite : right.IsFinite)
    (within : |left.value - right.value| ≤ bound.value) :
    IsNearest (left.value - right.value) (left - right) := by
  rw [sub_eq_add_neg, ← value_neg] at within ⊢
  exact isNearest_add bound leftFinite rightFinite.neg within

theorem isNearest_mul
    (bound : Binary64)
    (leftFinite : left.IsFinite)
    (rightFinite : right.IsFinite)
    (within : |left.value * right.value| ≤ bound.value) :
    IsNearest (left.value * right.value) (left * right) := by
  have exactUnits :
      left.value * right.value * unitsPerOne =
        (left.signedUnits * right.signedUnits : ℚ) / unitsPerOne := by
    rw [mul_assoc, value_mul_unitsPerOne, value, div_mul_eq_mul_div]
  obtain ⟨leftNegative, leftUnits, leftOnGrid, rfl⟩ := exists_finite leftFinite
  obtain ⟨rightNegative, rightUnits, rightOnGrid, rfl⟩ := exists_finite rightFinite
  rw [cast_signedUnits, cast_signedUnits] at exactUnits
  have positive : 0 < unitsPerOne := twoPow_pos unitPlaces
  change IsNearest _ (mul _ _)
  rw [mul]
  refine isNearest_nearest _ positive within ?_
  rw [exactUnits, Nat.cast_mul]
  cases leftNegative <;> cases rightNegative <;>
    simp only [bne_self_eq_false, Bool.false_eq_true, if_true, if_false, Bool.bne_true,
      Bool.bne_false, Bool.not_false] <;> ring

end Binary64
end FaultFinder
