import FaultFinder.Binary64

/-!
# Rounding to the binary64 grid

An exact magnitude is given as a fraction of two natural numbers, in units of
`2 ^ -1074`.  It is rounded to the nearest magnitude of the format, and to the
one with the even significand when two are equally near.  A magnitude that
rounds to `2 ^ 1024` or more becomes an infinity.
-/

namespace FaultFinder
namespace Binary64

/-- The whole number nearest to a fraction, the even one of two equally near. -/
def nearestWhole (numerator denominator : Nat) : Nat :=
  let below := numerator / denominator
  let excess := 2 * (numerator % denominator)
  if excess < denominator then below
  else if denominator < excess then below + 1
  else below + below % 2

theorem nearestWhole_le (numerator denominator : Nat) :
    nearestWhole numerator denominator ≤ numerator / denominator + 1 := by
  have parity := Nat.mod_lt (numerator / denominator) (y := 2) (by omega)
  simp only [nearestWhole]
  split
  · omega
  · split <;> omega

/-- The distance between neighbouring magnitudes at `units` and above it. -/
def spacing (units : Nat) : Nat :=
  twoPow (units.log2 - 52)

/-- The magnitude of the format that is nearest to a fraction of units. -/
def nearestUnits (numerator denominator : Nat) : Nat :=
  let step := spacing (numerator / denominator)
  nearestWhole numerator (denominator * step) * step

/-- A rounded magnitude keeps at most fifty-three significant bits. -/
theorem onGrid_nearestUnits
    {numerator denominator : Nat}
    (small : nearestUnits numerator denominator < unitsLimit) :
    OnGrid (nearestUnits numerator denominator) := by
  refine onGrid_shift ?_ small
  refine Nat.le_trans (nearestWhole_le _ _) ?_
  rw [← Nat.div_div_eq_div_mul]
  generalize numerator / denominator = units
  refine Nat.succ_le_of_lt ?_
  rw [spacing, Nat.div_lt_iff_lt_mul (twoPow_pos _), ← twoPow_add]
  by_cases zero : units = 0
  · rw [zero]
    exact twoPow_pos _
  · exact (log2_lt_iff zero).1 (by omega)

/-- The number of the format nearest to a signed fraction of units. -/
def nearest (negative : Bool) (numerator denominator : Nat) : Binary64 :=
  if small : nearestUnits numerator denominator < unitsLimit then
    .finite negative (nearestUnits numerator denominator) (onGrid_nearestUnits small)
  else
    .infinity negative

end Binary64
end FaultFinder
