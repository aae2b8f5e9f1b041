import FaultFinder.Proofs.Binary64.Arithmetic

/-!
# Rounding decimals

A decimal is rounded like the fraction that it stands for: the answers for very
great and very small exponents, which are given without expanding the power of
ten, are those that rounding gives.  So decimals of the same value are rounded to
the same number, and a decimal of the value of a number is rounded to it.
-/

namespace FaultFinder

theorem tenPow_pos (exponent : Nat) : 0 < tenPow exponent :=
  Nat.pow_pos (by decide)

theorem tenPow_add (left right : Nat) : tenPow (left + right) = tenPow left * tenPow right :=
  Nat.pow_add 10 left right

theorem tenPow_eq_mul (exponent : Nat) : tenPow exponent = Nat.pow 5 exponent * twoPow exponent :=
  Nat.mul_pow 5 2 exponent

/-- Ten is greater than the third power of two. -/
theorem twoPow_le_tenPow
    {binary decimal : Nat}
    (le : binary ≤ 3 * decimal) :
    twoPow binary ≤ tenPow decimal := by
  calc
    twoPow binary ≤ 2 ^ (3 * decimal) := twoPow_le_twoPow le
    _ = (2 ^ 3) ^ decimal := Nat.pow_mul 2 3 decimal
    _ ≤ 10 ^ decimal := Nat.pow_le_pow_left (by decide) decimal

namespace Binary64

/-! ## Fractions -/

section Fractions

variable
    {numerator denominator : Nat}

theorem nearestWhole_mul_mul
    (numerator denominator : Nat)
    {factor : Nat}
    (positive : 0 < factor) :
    nearestWhole (numerator * factor) (denominator * factor) =
      nearestWhole numerator denominator := by
  have excess :
      2 * (numerator * factor % (denominator * factor)) =
        2 * (numerator % denominator) * factor := by
    rw [Nat.mul_mod_mul_right, Nat.mul_assoc]
  simp only [nearestWhole, excess, Nat.mul_div_mul_right _ _ positive,
    Nat.mul_lt_mul_right positive]

theorem nearestUnits_mul_mul
    (numerator denominator : Nat)
    {factor : Nat}
    (positive : 0 < factor) :
    nearestUnits (numerator * factor) (denominator * factor) =
      nearestUnits numerator denominator := by
  simp only [nearestUnits, Nat.mul_div_mul_right _ _ positive]
  rw [Nat.mul_right_comm, nearestWhole_mul_mul _ _ positive]

/-- Equal fractions are rounded to the same number. -/
theorem nearest_eq_nearest
    (negative : Bool)
    {otherNumerator otherDenominator : Nat}
    (positive : 0 < denominator)
    (otherPositive : 0 < otherDenominator)
    (same : numerator * otherDenominator = otherNumerator * denominator) :
    nearest negative numerator denominator =
      nearest negative otherNumerator otherDenominator := by
  have sameUnits :
      nearestUnits numerator denominator = nearestUnits otherNumerator otherDenominator := by
    rw [← nearestUnits_mul_mul numerator denominator otherPositive, same,
      Nat.mul_comm denominator, nearestUnits_mul_mul _ _ positive]
  simp only [nearest, sameUnits]

/-- A magnitude of the format is rounded to itself. -/
theorem nearestUnits_one
    {units : Nat}
    (onGrid : OnGrid units) :
    nearestUnits units 1 = units := by
  obtain ⟨count, isCount⟩ := onGrid.spacing_dvd
  have whole : nearestWhole units (spacing units) = count := by
    have quotient : units / spacing units = count :=
      Nat.div_eq_of_eq_mul_right (spacing_pos units) isCount
    have exact_ : units % spacing units = 0 := Nat.mod_eq_zero_of_dvd onGrid.spacing_dvd
    simp only [nearestWhole, quotient, exact_, Nat.mul_zero, if_pos (spacing_pos units)]
  simp only [nearestUnits, Nat.div_one, Nat.one_mul, whole]
  rw [Nat.mul_comm, ← isCount]

theorem nearest_one
    (negative : Bool)
    {units : Nat}
    (onGrid : OnGrid units) :
    nearest negative units 1 = .finite negative units onGrid := by
  have same := nearestUnits_one onGrid
  simp only [nearest, same, dif_pos onGrid.lt_limit]

/-- A fraction of less than one half is rounded to zero. -/
theorem nearest_of_small
    (negative : Bool)
    (small : 2 * numerator < denominator) :
    nearest negative numerator denominator = zero negative := by
  have quotient : numerator / denominator = 0 := Nat.div_eq_of_lt (by omega)
  have remainder : numerator % denominator = numerator := Nat.mod_eq_of_lt (by omega)
  have none : nearestUnits numerator denominator = 0 := by
    have finest : spacing 0 = 1 := rfl
    simp only [nearestUnits, nearestWhole, quotient, finest, Nat.mul_one, remainder, if_pos small]
  simp only [nearest, none, dif_pos unitsLimit_pos]
  rfl

/-- A magnitude from the limit on is rounded to an infinity. -/
theorem nearest_of_great
    (negative : Bool)
    (great : unitsLimit ≤ numerator) :
    nearest negative numerator 1 = .infinity negative := by
  have onGrid : spacing unitsLimit ∣ unitsLimit := by
    have power := spacing_dvd_twoPow_log2 unitsLimit
    rwa [unitsLimit, log2_twoPow] at power
  have reached : unitsLimit ≤ nearestUnits numerator 1 := by
    apply le_nearestUnits Nat.one_pos onGrid
    rw [Nat.cast_one, div_one]
    exact Nat.cast_le.2 great
  rw [nearest, dif_neg (Nat.not_lt.2 reached)]

end Fractions

/-! ## Decimals -/

/-- A decimal is rounded like its fraction, also where its power of ten is not expanded. -/
theorem ofDecimal_eq_nearest
    (negative : Bool)
    (significand : Nat)
    (exponent : Int) :
    ofDecimal negative significand exponent =
      nearest negative (significand * tenPow exponent.toNat * unitsPerOne)
        (tenPow (-exponent).toNat) := by
  unfold ofDecimal
  split
  · next none =>
      subst none
      rw [Nat.zero_mul, Nat.zero_mul, nearest_of_small negative (tenPow_pos _)]
  · next some =>
      have positive : 1 ≤ significand := Nat.pos_of_ne_zero some
      split
      · next great =>
          have noPlaces : (-exponent).toNat = 0 := by omega
          have one : tenPow 0 = 1 := rfl
          rw [noPlaces, one, nearest_of_great]
          calc
            unitsLimit ≤ twoPow 1203 * unitsPerOne := by
              rw [unitsPerOne, ← twoPow_add]
              exact twoPow_le_twoPow (by decide)
            _ ≤ tenPow exponent.toNat * unitsPerOne :=
              Nat.mul_le_mul_right _ (twoPow_le_tenPow (by omega))
            _ ≤ significand * tenPow exponent.toNat * unitsPerOne :=
              Nat.mul_le_mul_right _ (Nat.le_mul_of_pos_left _ positive)
      · split
        · next tiny =>
            have noZeros : exponent.toNat = 0 := by omega
            have one : tenPow 0 = 1 := rfl
            have length : significand < twoPow (significand.log2 + 1) :=
              (log2_lt_iff some).1 (Nat.lt_succ_self _)
            rw [noZeros, one, Nat.mul_one, nearest_of_small]
            calc
              2 * (significand * unitsPerOne) <
                  twoPow 1 * (twoPow (significand.log2 + 1) * unitsPerOne) :=
                Nat.mul_lt_mul_of_pos_left
                  (Nat.mul_lt_mul_of_pos_right length (twoPow_pos _)) (twoPow_pos 1)
              _ = twoPow (1 + (significand.log2 + 1 + unitPlaces)) := by
                rw [unitsPerOne, ← twoPow_add, ← twoPow_add]
              _ ≤ tenPow (-exponent).toNat := twoPow_le_tenPow (by rw [unitPlaces]; omega)
        · split
          · next whole =>
              have noPlaces : (-exponent).toNat = 0 := by omega
              rw [noPlaces]
              rfl
          · next parts =>
              have noZeros : exponent.toNat = 0 := by omega
              have one : tenPow 0 = 1 := rfl
              rw [noZeros, one, Nat.mul_one]

/-- Zeros at the end of the significand make up for a smaller exponent. -/
theorem ofDecimal_mul_tenPow
    (negative : Bool)
    (significand zeros : Nat)
    (exponent : Int) :
    ofDecimal negative (significand * tenPow zeros) (exponent - zeros) =
      ofDecimal negative significand exponent := by
  rw [ofDecimal_eq_nearest, ofDecimal_eq_nearest]
  apply nearest_eq_nearest negative (tenPow_pos _) (tenPow_pos _)
  have places :
      zeros + (exponent - zeros).toNat + (-exponent).toNat =
        exponent.toNat + (-(exponent - zeros)).toNat := by
    omega
  have powers := congrArg tenPow places
  rw [tenPow_add, tenPow_add, tenPow_add] at powers
  calc
    significand * tenPow zeros * tenPow (exponent - zeros).toNat * unitsPerOne *
          tenPow (-exponent).toNat =
        significand *
          (tenPow zeros * tenPow (exponent - zeros).toNat * tenPow (-exponent).toNat) *
            unitsPerOne := by ring
    _ = significand * (tenPow exponent.toNat * tenPow (-(exponent - zeros)).toNat) *
          unitsPerOne := by rw [powers]
    _ = significand * tenPow exponent.toNat * unitsPerOne *
          tenPow (-(exponent - zeros)).toNat := by ring

/-- The sign of a decimal is the sign of the number. -/
theorem ofDecimal_true (significand : Nat) (exponent : Int) :
    ofDecimal true significand exponent = (ofDecimal false significand exponent).neg := by
  rw [ofDecimal_eq_nearest, ofDecimal_eq_nearest, nearest_true]

theorem ofDecimal_zero (negative : Bool) (exponent : Int) :
    ofDecimal negative 0 exponent = zero negative := by
  rw [ofDecimal, if_pos rfl]

/-- The exact expansion of a magnitude has the value of the magnitude. -/
theorem ofDecimal_expansion
    (negative : Bool)
    {units : Nat}
    (onGrid : OnGrid units) :
    ofDecimal negative (units * Nat.pow 5 unitPlaces) (-unitPlaces) =
      .finite negative units onGrid := by
  have places : tenPow unitPlaces = Nat.pow 5 unitPlaces * unitsPerOne := by
    rw [tenPow_eq_mul, unitsPerOne]
  rw [ofDecimal_eq_nearest, ← nearest_one negative onGrid]
  apply nearest_eq_nearest negative (tenPow_pos _) Nat.one_pos
  have noZeros : (-(unitPlaces : Int)).toNat = 0 := by omega
  have allPlaces : (- -(unitPlaces : Int)).toNat = unitPlaces := by omega
  have one : tenPow 0 = 1 := rfl
  rw [noZeros, allPlaces, one, places, Nat.mul_one, Nat.mul_one, Nat.mul_assoc]

end Binary64
end FaultFinder
