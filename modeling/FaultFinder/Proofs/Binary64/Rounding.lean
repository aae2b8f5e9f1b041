import FaultFinder.Proofs.Binary64.Value

/-!
# Correct rounding

The rounded magnitude is nearest to the exact one: no magnitude of the format is
closer, and its significand is even if a different one is as close.  The whole
multiples of the spacing are rounded correctly because whole numbers are; a
magnitude of the format that is no such multiple is smaller than the last power
of two, and that is closer.
-/

namespace FaultFinder
namespace Binary64

/-! ## Whole numbers -/

section Whole

variable
    {numerator denominator : Nat}

theorem cast_div_eq
    (numerator : Nat)
    (positive : 0 < denominator) :
    (numerator / denominator : ℚ) =
      (numerator / denominator : ℕ) + (numerator % denominator : ℕ) / denominator := by
  have nonzero : (denominator : ℚ) ≠ 0 := Nat.cast_ne_zero.2 positive.ne'
  rw [eq_comm, add_div_eq_mul_add_div _ _ nonzero, div_left_inj' nonzero, mul_comm]
  exact_mod_cast Nat.div_add_mod numerator denominator

/-- The nearest whole number is at most one half away, and it is even if it is that far away. -/
theorem abs_nearestWhole_sub
    (numerator : Nat)
    (positive : 0 < denominator) :
    |(nearestWhole numerator denominator : ℚ) - numerator / denominator| < 1 / 2 ∨
      |(nearestWhole numerator denominator : ℚ) - numerator / denominator| = 1 / 2 ∧
        Even (nearestWhole numerator denominator) := by
  have castPositive : (0 : ℚ) < denominator := Nat.cast_pos.2 positive
  obtain ⟨part, isPart⟩ :
      ∃ part : ℚ, part = (numerator % denominator : ℕ) / denominator := ⟨_, rfl⟩
  have split : (numerator / denominator : ℚ) = (numerator / denominator : ℕ) + part := by
    rw [isPart]
    exact cast_div_eq numerator positive
  have partPositive : 0 ≤ part := by
    rw [isPart]
    positivity
  have partBelow : part < 1 := by
    rw [isPart, div_lt_one castPositive]
    exact_mod_cast Nat.mod_lt numerator positive
  have excess : part * denominator = (numerator % denominator : ℕ) := by
    rw [isPart]
    exact div_mul_cancel₀ _ castPositive.ne'
  rw [split, nearestWhole]
  rcases lt_trichotomy (2 * (numerator % denominator)) denominator with less | equal | greater
  · left
    have half : 2 * part < 1 := by
      rw [isPart, ← mul_div_assoc, div_lt_one castPositive]
      exact_mod_cast less
    rw [if_pos less, abs_lt]
    constructor <;> linarith
  · right
    have half : 2 * part = 1 := by
      rw [isPart, ← mul_div_assoc, div_eq_one_iff_eq castPositive.ne']
      exact_mod_cast equal
    have isHalf : part = 1 / 2 := by linarith
    rw [if_neg equal.not_lt, if_neg equal.not_gt, isHalf]
    generalize numerator / denominator = below
    rcases Nat.even_or_odd below with even | odd
    · rw [Nat.even_iff.1 even, Nat.add_zero]
      refine ⟨?_, even⟩
      rw [sub_add_cancel_left, abs_neg]
      norm_num
    · rw [Nat.odd_iff.1 odd]
      refine ⟨?_, odd.add_one⟩
      rw [Nat.cast_add, Nat.cast_one, add_sub_add_left_eq_sub]
      norm_num
  · left
    have half : 1 < 2 * part := by
      rw [isPart, ← mul_div_assoc, one_lt_div castPositive]
      exact_mod_cast greater
    rw [if_neg greater.not_gt, if_pos greater, Nat.cast_add, Nat.cast_one, abs_lt]
    constructor <;> linarith

/-- Another whole number is farther from the fraction, or as far, and then this one is even. -/
theorem abs_nearestWhole_sub_lt_or
    (positive : 0 < denominator)
    {whole : Nat}
    (different : whole ≠ nearestWhole numerator denominator) :
    |(nearestWhole numerator denominator : ℚ) - numerator / denominator| <
        |(whole : ℚ) - numerator / denominator| ∨
      |(nearestWhole numerator denominator : ℚ) - numerator / denominator| ≤
          |(whole : ℚ) - numerator / denominator| ∧
        Even (nearestWhole numerator denominator) := by
  have apart : (1 : ℚ) ≤ |(whole : ℚ) - nearestWhole numerator denominator| := by
    have wholeApart : (1 : ℤ) ≤ |(whole : ℤ) - nearestWhole numerator denominator| := by
      apply Int.one_le_abs
      rw [sub_ne_zero]
      exact_mod_cast different
    exact_mod_cast wholeApart
  have triangle :=
    abs_sub_le (whole : ℚ) (numerator / denominator) (nearestWhole numerator denominator)
  rw [abs_sub_comm (numerator / denominator : ℚ)] at triangle
  rcases abs_nearestWhole_sub numerator positive with near | ⟨tie, even⟩
  · left
    linarith
  · right
    refine ⟨?_, even⟩
    linarith

end Whole

/-! ## Magnitudes of the format -/

section Units

variable
    {numerator denominator : Nat}

/-- Distances to multiples of the spacing are distances of whole numbers. -/
theorem abs_mul_spacing_sub
    (whole : Nat) :
    |((whole * spacing (numerator / denominator) : ℕ) : ℚ) - numerator / denominator| =
      |(whole : ℚ) -
          numerator / (denominator * spacing (numerator / denominator) : ℕ)| *
        spacing (numerator / denominator) := by
  have positive : (0 : ℚ) < spacing (numerator / denominator) :=
    Nat.cast_pos.2 (spacing_pos _)
  have scaled :
      ((whole * spacing (numerator / denominator) : ℕ) : ℚ) - numerator / denominator =
        ((whole : ℚ) - numerator / (denominator * spacing (numerator / denominator) : ℕ)) *
          spacing (numerator / denominator) := by
    rw [sub_mul, Nat.cast_mul, Nat.cast_mul, ← div_div, div_mul_cancel₀ _ positive.ne']
  rw [scaled, abs_mul, abs_of_pos positive]

/-- Another multiple of the spacing is farther, or as far, and then the multiplicity is even. -/
theorem abs_nearestUnits_sub_lt_or
    (positive : 0 < denominator)
    {whole : Nat}
    (different :
      whole ≠ nearestWhole numerator (denominator * spacing (numerator / denominator))) :
    |(nearestUnits numerator denominator : ℚ) - numerator / denominator| <
        |((whole * spacing (numerator / denominator) : ℕ) : ℚ) - numerator / denominator| ∨
      |(nearestUnits numerator denominator : ℚ) - numerator / denominator| ≤
          |((whole * spacing (numerator / denominator) : ℕ) : ℚ) - numerator / denominator| ∧
        Even (nearestWhole numerator (denominator * spacing (numerator / denominator))) := by
  have stepPositive := spacing_pos (numerator / denominator)
  have castPositive : (0 : ℚ) < spacing (numerator / denominator) := Nat.cast_pos.2 stepPositive
  have candidates := abs_nearestWhole_sub_lt_or (Nat.mul_pos positive stepPositive) different
  rw [nearestUnits, abs_mul_spacing_sub, abs_mul_spacing_sub]
  rcases candidates with farther | ⟨asFar, even⟩
  · exact .inl (mul_lt_mul_of_pos_right farther castPositive)
  · exact .inr ⟨mul_le_mul_of_nonneg_right asFar castPositive.le, even⟩

theorem abs_nearestUnits_sub_le_of_dvd
    (positive : 0 < denominator)
    {units : Nat}
    (multiple : spacing (numerator / denominator) ∣ units) :
    |(nearestUnits numerator denominator : ℚ) - numerator / denominator| ≤
      |(units : ℚ) - numerator / denominator| := by
  obtain ⟨whole, rfl⟩ := multiple
  rw [Nat.mul_comm]
  by_cases same :
      whole = nearestWhole numerator (denominator * spacing (numerator / denominator))
  · rw [same]
    exact le_refl _
  · rcases abs_nearestUnits_sub_lt_or positive same with farther | ⟨asFar, _⟩
    · exact farther.le
    · exact asFar

/-- A magnitude that is no multiple of the spacing of another one is below its power of two. -/
theorem lt_twoPow_log2_of_not_dvd
    {units other : Nat}
    (onGrid : spacing other ∣ other)
    (notMultiple : ¬spacing units ∣ other) :
    other < twoPow units.log2 ∧ twoPow units.log2 ≤ units := by
  have shorter : other.log2 < units.log2 := by
    by_contra! longer
    have divides : spacing units ∣ spacing other :=
      twoPow_dvd_twoPow (Nat.sub_le_sub_right longer 52)
    exact notMultiple (divides.trans onGrid)
  have otherNonzero : other ≠ 0 := by
    rintro rfl
    exact notMultiple (Nat.dvd_zero _)
  have unitsNonzero : units ≠ 0 := by
    rintro rfl
    exact Nat.not_lt_zero _ shorter
  exact ⟨(log2_lt_iff otherNonzero).1 shorter, Nat.log2_self_le unitsNonzero⟩

theorem spacing_dvd_twoPow_log2 (units : Nat) : spacing units ∣ twoPow units.log2 :=
  twoPow_dvd_twoPow (Nat.sub_le _ _)

theorem cast_div_le
    (positive : 0 < denominator)
    {units : Nat}
    (le : units ≤ numerator / denominator) :
    (units : ℚ) ≤ numerator / denominator := by
  have below := cast_div_eq numerator positive
  have part : (0 : ℚ) ≤ (numerator % denominator : ℕ) / denominator := by positivity
  have castLe : (units : ℚ) ≤ (numerator / denominator : ℕ) := Nat.cast_le.2 le
  linarith

/-- A magnitude between multiples of the spacing is farther away than the rounded one. -/
theorem abs_nearestUnits_sub_lt_of_not_dvd
    (positive : 0 < denominator)
    {units : Nat}
    (onGrid : spacing units ∣ units)
    (notMultiple : ¬spacing (numerator / denominator) ∣ units) :
    |(nearestUnits numerator denominator : ℚ) - numerator / denominator| <
      |(units : ℚ) - numerator / denominator| := by
  obtain ⟨less, le⟩ := lt_twoPow_log2_of_not_dvd onGrid notMultiple
  have power := cast_div_le positive le
  have castLess : (units : ℚ) < (twoPow (numerator / denominator).log2 : ℕ) :=
    Nat.cast_lt.2 less
  have nearer := abs_nearestUnits_sub_le_of_dvd positive
    (spacing_dvd_twoPow_log2 (numerator / denominator))
  rw [abs_of_nonpos (sub_nonpos.2 power)] at nearer
  rw [abs_of_nonpos (a := (units : ℚ) - _) (by linarith)]
  linarith

/-- No magnitude of the format is closer to the fraction than the rounded one. -/
theorem abs_nearestUnits_sub_le
    (numerator : Nat)
    (positive : 0 < denominator)
    {units : Nat}
    (onGrid : spacing units ∣ units) :
    |(nearestUnits numerator denominator : ℚ) - numerator / denominator| ≤
      |(units : ℚ) - numerator / denominator| := by
  by_cases multiple : spacing (numerator / denominator) ∣ units
  · exact abs_nearestUnits_sub_le_of_dvd positive multiple
  · exact (abs_nearestUnits_sub_lt_of_not_dvd positive onGrid multiple).le

/-- A magnitude with a spacing above one has a significand of fifty-three bits. -/
theorem twoPow_le_div_spacing
    {units : Nat}
    (coarse : 1 < spacing units) :
    twoPow 52 ≤ units / spacing units := by
  have long : 52 ≤ units.log2 := by
    by_contra! short
    rw [spacing, Nat.sub_eq_zero_of_le short.le] at coarse
    exact absurd coarse (lt_irrefl 1)
  have nonzero : units ≠ 0 := by
    rintro rfl
    exact absurd long (by decide)
  rw [Nat.le_div_iff_mul_le (spacing_pos _), spacing, ← twoPow_add, Nat.add_sub_cancel' long]
  exact Nat.log2_self_le nonzero

theorem spacing_dvd_spacing_nearestUnits
    (numerator : Nat)
    (positive : 0 < denominator) :
    spacing (numerator / denominator) ∣ spacing (nearestUnits numerator denominator) := by
  by_cases zero : numerator / denominator = 0
  · rw [zero]
    exact Nat.one_dvd _
  · have power := cast_div_le positive (Nat.log2_self_le zero)
    have nearer := abs_nearestUnits_sub_le_of_dvd positive
      (spacing_dvd_twoPow_log2 (numerator / denominator))
    have reached :
        (twoPow (numerator / denominator).log2 : ℚ) ≤ nearestUnits numerator denominator := by
      change ((twoPow (numerator / denominator).log2 : ℕ) : ℚ) ≤ numerator / denominator at power
      rw [abs_of_nonpos (sub_nonpos.2 power)] at nearer
      have distance := neg_abs_le
        ((nearestUnits numerator denominator : ℚ) - numerator / denominator)
      linarith
    have spacingPower :
        spacing (twoPow (numerator / denominator).log2) = spacing (numerator / denominator) := by
      rw [spacing, log2_twoPow, spacing]
    rw [← spacingPower]
    exact spacing_dvd_spacing (Nat.cast_le.1 reached)

/-- An even multiplicity of the spacing gives an even significand. -/
theorem even_div_spacing_nearestUnits
    (positive : 0 < denominator)
    (even : Even (nearestWhole numerator (denominator * spacing (numerator / denominator)))) :
    Even (nearestUnits numerator denominator / spacing (nearestUnits numerator denominator)) := by
  obtain ⟨ratio, isRatio⟩ := spacing_dvd_spacing_nearestUnits numerator positive
  have stepPositive := spacing_pos (numerator / denominator)
  have coarser := spacing_pos (nearestUnits numerator denominator)
  have fits :
      nearestWhole numerator (denominator * spacing (numerator / denominator)) ≤ twoPow 53 := by
    refine (nearestWhole_le _ _).trans ?_
    rw [← Nat.div_div_eq_div_mul]
    exact div_spacing_lt _
  have quotient :
      nearestUnits numerator denominator / spacing (nearestUnits numerator denominator) =
        nearestWhole numerator (denominator * spacing (numerator / denominator)) / ratio := by
    rw [isRatio]
    exact (congrArg (· / _) (Nat.mul_comm _ _)).trans (Nat.mul_div_mul_left _ _ stepPositive)
  rcases Nat.lt_or_ge 1 ratio with greater | small
  · -- Rounding has reached the next power of two.
    have coarse : 1 < spacing (nearestUnits numerator denominator) := by
      rw [isRatio]
      exact Nat.lt_of_lt_of_le greater (Nat.le_mul_of_pos_left _ stepPositive)
    have long := twoPow_le_div_spacing coarse
    have double : twoPow 53 = twoPow 52 * 2 := rfl
    have halved :
        nearestWhole numerator (denominator * spacing (numerator / denominator)) / ratio ≤
          twoPow 52 := by
      apply Nat.div_le_of_le_mul
      calc
        nearestWhole numerator (denominator * spacing (numerator / denominator))
            ≤ twoPow 52 * 2 := double ▸ fits
        _ ≤ twoPow 52 * ratio := Nat.mul_le_mul_left _ greater
        _ = ratio * twoPow 52 := Nat.mul_comm _ _
    rw [quotient] at long ⊢
    rw [le_antisymm halved long]
    exact ⟨twoPow 51, rfl⟩
  · have ratioPositive : 0 < ratio := by
      rw [isRatio] at coarser
      exact Nat.pos_of_mul_pos_left coarser
    rw [quotient, le_antisymm small ratioPositive, Nat.div_one]
    exact even

/-- A different magnitude that is as close as the rounded one makes its significand even. -/
theorem even_nearestUnits_of_tie
    (positive : 0 < denominator)
    {units : Nat}
    (onGrid : spacing units ∣ units)
    (different : units ≠ nearestUnits numerator denominator)
    (tie :
      |(units : ℚ) - numerator / denominator| =
        |(nearestUnits numerator denominator : ℚ) - numerator / denominator|) :
    Even (nearestUnits numerator denominator / spacing (nearestUnits numerator denominator)) := by
  by_cases multiple : spacing (numerator / denominator) ∣ units
  · obtain ⟨whole, rfl⟩ := multiple
    rw [Nat.mul_comm] at tie different
    have otherWhole :
        whole ≠ nearestWhole numerator (denominator * spacing (numerator / denominator)) := by
      rintro rfl
      exact different rfl
    rcases abs_nearestUnits_sub_lt_or positive otherWhole with farther | ⟨_, even⟩
    · exact absurd tie farther.ne'
    · exact even_div_spacing_nearestUnits positive even
  · exact absurd tie (abs_nearestUnits_sub_lt_of_not_dvd positive onGrid multiple).ne'

/-- Rounding does not go beyond a magnitude of the format. -/
theorem nearestUnits_le
    (positive : 0 < denominator)
    {units : Nat}
    (onGrid : spacing units ∣ units)
    (le : (numerator / denominator : ℚ) ≤ units) :
    nearestUnits numerator denominator ≤ units := by
  have nearer := abs_nearestUnits_sub_le numerator positive onGrid
  rw [abs_of_nonneg (a := (units : ℚ) - _) (sub_nonneg.2 le)] at nearer
  have distance :=
    le_abs_self ((nearestUnits numerator denominator : ℚ) - numerator / denominator)
  have castLe : (nearestUnits numerator denominator : ℚ) ≤ units := by linarith
  exact Nat.cast_le.1 castLe

/-- Rounding does not stay below a magnitude of the format. -/
theorem le_nearestUnits
    (positive : 0 < denominator)
    {units : Nat}
    (onGrid : spacing units ∣ units)
    (le : (units : ℚ) ≤ numerator / denominator) :
    units ≤ nearestUnits numerator denominator := by
  have nearer := abs_nearestUnits_sub_le numerator positive onGrid
  rw [abs_of_nonpos (a := (units : ℚ) - _) (sub_nonpos.2 le)] at nearer
  have distance :=
    neg_abs_le ((nearestUnits numerator denominator : ℚ) - numerator / denominator)
  have castLe : (units : ℚ) ≤ nearestUnits numerator denominator := by linarith
  exact Nat.cast_le.1 castLe

end Units

/-! ## Numbers -/

/-- The distance of a value to an exact one, counted in units. -/
theorem abs_value_sub
    (number : Binary64)
    (exact : ℚ) :
    |number.value - exact| = |number.signedUnits - exact * unitsPerOne| / unitsPerOne := by
  rw [← value_mul_unitsPerOne, ← sub_mul, abs_mul, abs_of_pos unitsPerOne_pos,
    mul_div_cancel_right₀ _ unitsPerOne_pos.ne']

/-- A number is nearest when its signed magnitude is. -/
theorem isNearest_of_signedUnits
    {exact : ℚ}
    {rounded : Binary64}
    (isFinite : rounded.IsFinite)
    (closest : ∀ units : ℤ, OnGrid units.natAbs →
      |rounded.signedUnits - exact * unitsPerOne| ≤ |units - exact * unitsPerOne|)
    (even : ∀ units : ℤ, OnGrid units.natAbs → units ≠ rounded.signedUnits →
      |units - exact * unitsPerOne| = |rounded.signedUnits - exact * unitsPerOne| →
        Even rounded.significand) :
    IsNearest exact rounded := by
  refine ⟨isFinite, ?_, ?_⟩
  · intro other _
    rw [abs_value_sub, abs_value_sub, div_le_div_iff_of_pos_right unitsPerOne_pos]
    exact closest _ other.onGrid_signedUnits
  · intro other _ different tie
    rw [abs_value_sub, abs_value_sub, div_left_inj' unitsPerOne_pos.ne'] at tie
    refine even _ other.onGrid_signedUnits ?_ tie
    intro same
    rw [value, value, same] at different
    exact different rfl

/-- Rounding a fraction of units that is no greater than a magnitude of the format. -/
theorem isNearest_nearest_false
    {numerator denominator : Nat}
    (positive : 0 < denominator)
    {bound : Nat}
    (onGrid : OnGrid bound)
    (le : (numerator / denominator : ℚ) ≤ bound)
    {exact : ℚ}
    (isExact : exact * unitsPerOne = numerator / denominator) :
    IsNearest exact (nearest false numerator denominator) := by
  have small : nearestUnits numerator denominator < unitsLimit := by
    refine Nat.lt_of_le_of_lt ?_ onGrid.lt_limit
    exact nearestUnits_le positive onGrid.spacing_dvd le
  have isPositive : (0 : ℚ) ≤ numerator / denominator :=
    div_nonneg (Nat.cast_nonneg _) (Nat.cast_nonneg _)
  -- Negative magnitudes are farther away than zero.
  have below (units : ℤ) (negative : units < 0) :
      |(nearestUnits numerator denominator : ℚ) - numerator / denominator| <
        |(units : ℚ) - numerator / denominator| := by
    have castNegative : (units : ℚ) < 0 := Int.cast_lt_zero.2 negative
    have nearer := abs_nearestUnits_sub_le numerator positive onGrid_zero.spacing_dvd
    rw [Nat.cast_zero, zero_sub, abs_neg, abs_of_nonneg isPositive] at nearer
    rw [abs_of_neg (a := (units : ℚ) - _) (by linarith)]
    linarith
  rw [nearest, dif_pos small]
  apply isNearest_of_signedUnits
  case isFinite => trivial
  case closest =>
      intro units unitsOnGrid
      rw [isExact]
      rcases lt_or_ge units 0 with negative | nonnegative
      · exact (below units negative).le
      · obtain ⟨magnitude, rfl⟩ := Int.eq_ofNat_of_zero_le nonnegative
        exact abs_nearestUnits_sub_le _ positive unitsOnGrid.spacing_dvd
  case even =>
      intro units unitsOnGrid different tie
      rw [isExact] at tie
      rcases lt_or_ge units 0 with negative | nonnegative
      · exact absurd tie (below units negative).ne'
      · obtain ⟨magnitude, rfl⟩ := Int.eq_ofNat_of_zero_le nonnegative
        refine even_nearestUnits_of_tie positive unitsOnGrid.spacing_dvd ?_ tie
        rintro rfl
        exact different rfl

theorem signedUnits_neg (number : Binary64) : number.neg.signedUnits = -number.signedUnits := by
  cases number with
  | nan => rfl
  | infinity negative => rfl
  | finite negative units onGrid => cases negative <;> simp [neg, signedUnits]

@[simp] theorem value_neg (number : Binary64) : number.neg.value = -number.value := by
  rw [value, signedUnits_neg, Int.cast_neg, neg_div, value]

theorem IsFinite.neg
    {number : Binary64}
    (isFinite : number.IsFinite) :
    number.neg.IsFinite := by
  cases number with
  | nan => exact isFinite.elim
  | infinity negative => exact isFinite.elim
  | finite negative units onGrid => trivial

/-- Rounding does not depend on the sign. -/
theorem IsNearest.neg
    {exact : ℚ}
    {rounded : Binary64}
    (nearest : IsNearest exact rounded) :
    IsNearest (-exact) rounded.neg := by
  have mirrored (other : Binary64) : |other.neg.value - exact| = |other.value - -exact| := by
    rw [value_neg, ← abs_neg]
    ring_nf
  have mirroredRounded : |rounded.neg.value - -exact| = |rounded.value - exact| := by
    rw [value_neg, ← abs_neg]
    ring_nf
  refine ⟨nearest.isFinite.neg, ?_, ?_⟩
  · intro other isFinite
    rw [mirroredRounded, ← mirrored]
    exact nearest.closest other.neg isFinite.neg
  · intro other isFinite different tie
    rw [mirroredRounded, ← mirrored] at tie
    rw [significand, signedUnits_neg, Int.natAbs_neg]
    refine nearest.even other.neg isFinite.neg ?_ tie
    intro same
    rw [value_neg] at same different
    exact different (by rw [← same, neg_neg])

theorem nearest_true
    (numerator denominator : Nat) :
    nearest true numerator denominator = (nearest false numerator denominator).neg := by
  unfold nearest
  split <;> rfl

/-- Rounding a signed fraction of units that is no greater than a number of the format. -/
theorem isNearest_nearest
    (negative : Bool)
    {numerator denominator : Nat}
    (positive : 0 < denominator)
    {exact : ℚ}
    {bound : Binary64}
    (within : |exact| ≤ bound.value)
    (isExact :
      exact * unitsPerOne =
        if negative then -(numerator / denominator : ℚ) else numerator / denominator) :
    IsNearest exact (nearest negative numerator denominator) := by
  have isPositive : (0 : ℚ) ≤ numerator / denominator :=
    div_nonneg (Nat.cast_nonneg _) (Nat.cast_nonneg _)
  have magnitude : |exact| * unitsPerOne = numerator / denominator := by
    rw [← abs_of_pos unitsPerOne_pos, ← abs_mul, isExact]
    split
    · rw [abs_neg, abs_of_nonneg isPositive]
    · exact abs_of_nonneg isPositive
  have le : (numerator / denominator : ℚ) ≤ bound.signedUnits.natAbs := by
    calc
      (numerator / denominator : ℚ) = |exact| * unitsPerOne := magnitude.symm
      _ ≤ bound.value * unitsPerOne := mul_le_mul_of_nonneg_right within unitsPerOne_pos.le
      _ = bound.signedUnits := bound.value_mul_unitsPerOne
      _ ≤ bound.signedUnits.natAbs := by
        rw [Nat.cast_natAbs, Int.cast_abs]
        exact le_abs_self _
  have onGrid := bound.onGrid_signedUnits
  cases negative with
  | false => exact isNearest_nearest_false positive onGrid le isExact
  | true =>
      have mirrored : -exact * unitsPerOne = numerator / denominator := by
        rw [neg_mul, isExact, if_pos rfl, neg_neg]
      have rounded := (isNearest_nearest_false positive onGrid le mirrored).neg
      rw [neg_neg] at rounded
      rw [nearest_true]
      exact rounded

end Binary64
end FaultFinder
