import FaultFinder.Binary64.Word
import FaultFinder.Proofs.Binary64.Value

/-!
# Words of finite numbers

A finite number has the word that it was made of, down to the sign of a zero and
the last bit of a subnormal number.  So different words stand for different
numbers as far as these are finite.
-/

namespace FaultFinder
namespace Binary64

theorem magnitudeWord_of_lt
    {units : Nat}
    (subnormal : units < twoPow 52) :
    magnitudeWord units = units :=
  if_pos subnormal

/-- The word of a normal magnitude has the exponent and the fraction that make it up. -/
theorem magnitudeWord_mul_twoPow
    {fraction : Nat}
    (fits : fraction < twoPow 52)
    (shift : Nat) :
    magnitudeWord ((twoPow 52 + fraction) * twoPow shift) =
      (shift + 1) * twoPow 52 + fraction := by
  have positive := twoPow_pos shift
  have least : twoPow (52 + shift) ≤ (twoPow 52 + fraction) * twoPow shift := by
    rw [twoPow_add]
    exact Nat.mul_le_mul_right _ (Nat.le_add_right _ _)
  have greatest : (twoPow 52 + fraction) * twoPow shift < twoPow (52 + shift + 1) := by
    have double : twoPow 52 + fraction < twoPow 53 := by
      have isDouble : twoPow 53 = twoPow 52 + twoPow 52 := rfl
      omega
    rw [Nat.add_right_comm, twoPow_add]
    exact Nat.mul_lt_mul_of_pos_right double positive
  have nonzero : (twoPow 52 + fraction) * twoPow shift ≠ 0 := by
    have leastPositive := twoPow_pos (52 + shift)
    omega
  have length : ((twoPow 52 + fraction) * twoPow shift).log2 = 52 + shift :=
    (Nat.log2_eq_iff nonzero).2 ⟨least, greatest⟩
  have normal : ¬(twoPow 52 + fraction) * twoPow shift < twoPow 52 := by
    have smaller : twoPow 52 ≤ twoPow (52 + shift) := twoPow_le_twoPow (Nat.le_add_right _ _)
    omega
  rw [magnitudeWord, if_neg normal]
  simp only [length, Nat.add_sub_cancel_left, Nat.mul_div_cancel _ positive]

/-- A word is made up of a sign, an exponent and a fraction. -/
theorem toNat_eq_parts (word : UInt64) :
    word.toNat =
      word.toNat / twoPow 52 % twoPow 11 * twoPow 52 + word.toNat % twoPow 52 +
        if twoPow 63 ≤ word.toNat then twoPow 63 else 0 := by
  have bound := word.toNat_lt_size
  have size : UInt64.size = 18446744073709551616 := rfl
  have fractionPlace : twoPow 52 = 4503599627370496 := rfl
  have exponents : twoPow 11 = 2048 := rfl
  have signPlace : twoPow 63 = 9223372036854775808 := rfl
  rw [fractionPlace, exponents, signPlace]
  split <;> omega

/-- A magnitude and its sign have the word that they were made of. -/
theorem toWord_of_parts
    {word : UInt64}
    {units : Nat}
    (onGrid : OnGrid units)
    (isMagnitude :
      magnitudeWord units =
        word.toNat / twoPow 52 % twoPow 11 * twoPow 52 + word.toNat % twoPow 52) :
    (finite (decide (twoPow 63 ≤ word.toNat)) units onGrid).toWord = word := by
  have sum :
      (magnitudeWord units +
        if decide (twoPow 63 ≤ word.toNat) = true then twoPow 63 else 0) = word.toNat := by
    simp only [decide_eq_true_eq, isMagnitude]
    exact (toNat_eq_parts word).symm
  rw [toWord, sum, UInt64.ofNat_toNat]

/-- A finite number has the word that it was made of. -/
theorem toWord_ofWord
    {word : UInt64}
    (isFinite : (ofWord word).IsFinite) :
    (ofWord word).toWord = word := by
  have fits : word.toNat % twoPow 52 < twoPow 52 := Nat.mod_lt _ (twoPow_pos 52)
  unfold ofWord at isFinite ⊢
  simp only at isFinite ⊢
  split
  · next finite =>
      split
      · next subnormal =>
          apply toWord_of_parts
          rw [magnitudeWord_of_lt fits, subnormal, Nat.zero_mul, Nat.zero_add]
      · next normal =>
          have exponent : word.toNat / twoPow 52 % twoPow 11 - 1 + 1 =
              word.toNat / twoPow 52 % twoPow 11 := by
            omega
          apply toWord_of_parts
          rw [magnitudeWord_mul_twoPow fits, exponent]
  · next infinite =>
      rw [dif_neg infinite] at isFinite
      split at isFinite
      · exact isFinite.elim
      · exact isFinite.elim

end Binary64
end FaultFinder
