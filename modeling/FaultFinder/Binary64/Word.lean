import FaultFinder.Binary64

/-!
# Binary64 numbers as words

The interchange form of a number is a word of sixty-four bits: a sign, eleven
bits of exponent and fifty-two bits of fraction.
-/

namespace FaultFinder
namespace Binary64

theorem onGrid_subnormal (word : Nat) : OnGrid (word % twoPow 52) := by
  have bound : word % twoPow 52 < twoPow 52 := Nat.mod_lt _ (twoPow_pos 52)
  have smaller : twoPow 52 ≤ twoPow 53 := twoPow_le_twoPow (by omega)
  have limit : twoPow 52 ≤ unitsLimit := twoPow_le_twoPow (by decide)
  have unshifted : word % twoPow 52 * twoPow 0 = word % twoPow 52 := Nat.mul_one _
  rw [← unshifted]
  exact onGrid_shift (by omega) (by omega)

theorem onGrid_normal
    {exponent : Nat}
    (finite : exponent < 2047)
    (word : Nat) :
    OnGrid ((twoPow 52 + word % twoPow 52) * twoPow (exponent - 1)) := by
  have bound : word % twoPow 52 < twoPow 52 := Nat.mod_lt _ (twoPow_pos 52)
  have double : twoPow 53 = twoPow 52 + twoPow 52 := by decide
  have places : 53 + (exponent - 1) ≤ magnitudeBits := by
    simp only [magnitudeBits]
    omega
  refine onGrid_shift (by omega) ?_
  refine Nat.lt_of_lt_of_le ?_ (twoPow_le_twoPow places)
  rw [twoPow_add]
  exact Nat.mul_lt_mul_of_pos_right (by omega) (twoPow_pos _)

/-- The number that a word stands for. -/
def ofWord (word : UInt64) : Binary64 :=
  let bits := word.toNat
  let negative := decide (twoPow 63 ≤ bits)
  let exponent := bits / twoPow 52 % twoPow 11
  if finite : exponent < 2047 then
    if exponent = 0 then .finite negative (bits % twoPow 52) (onGrid_subnormal bits)
    else .finite negative _ (onGrid_normal finite bits)
  else if bits % twoPow 52 = 0 then .infinity negative
  else .nan

/-- The word of a magnitude: its exponent and fraction, without a sign. -/
def magnitudeWord (units : Nat) : Nat :=
  if units < twoPow 52 then units
  else
    let shift := units.log2 - 52
    (shift + 1) * twoPow 52 + (units / twoPow shift - twoPow 52)

/-- The word of a number.  The absence of a number has one word, the quiet one. -/
def toWord : Binary64 → UInt64
  | .nan => 0x7ff8000000000000
  | .infinity negative => if negative then 0xfff0000000000000 else 0x7ff0000000000000
  | .finite negative units _ =>
    .ofNat (magnitudeWord units + if negative then twoPow 63 else 0)

end Binary64
end FaultFinder
