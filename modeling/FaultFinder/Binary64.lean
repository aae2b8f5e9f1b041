import FaultFinder.Power

/-!
# Binary64 numbers

A number of the binary64 format is given by its meaning: it is no number, an
infinity, or a signed magnitude.  Every finite magnitude of the format is a
whole multiple of the least positive one, so magnitudes are natural numbers
counted in units of `2 ^ -1074`, and the format is the set of those that keep
at most fifty-three significant bits.  The two zeros differ by their sign.
-/

namespace FaultFinder

/-- The binary places of one unit: it is `2 ^ -1074`. -/
def Binary64.unitPlaces : Nat :=
  1074

/-- The most bits that a magnitude counted in units may have. -/
def Binary64.magnitudeBits : Nat :=
  2098

/-- The number one, in units. -/
def Binary64.unitsPerOne : Nat :=
  twoPow unitPlaces

/-- The bound `2 ^ 1024` that every finite magnitude stays below, in units. -/
def Binary64.unitsLimit : Nat :=
  twoPow magnitudeBits

/--
The magnitudes of the format, in units of `2 ^ -1074`: at most fifty-three
significant bits, and less than the limit.
-/
def Binary64.OnGrid (units : Nat) : Prop :=
  twoPow (units.log2 - 52) ∣ units ∧ units < unitsLimit

/-- A binary64 number. -/
inductive Binary64 where
  /-- No number. -/
  | nan
  /-- One of the two infinities. -/
  | infinity (negative : Bool)
  /-- A signed magnitude of the format. -/
  | finite (negative : Bool) (units : Nat) (onGrid : Binary64.OnGrid units)
  deriving DecidableEq

namespace Binary64

instance (units : Nat) : Decidable (OnGrid units) :=
  inferInstanceAs (Decidable (_ ∧ _))

theorem unitsLimit_pos : 0 < unitsLimit :=
  twoPow_pos magnitudeBits

theorem onGrid_zero : OnGrid 0 :=
  ⟨Nat.dvd_zero _, unitsLimit_pos⟩

/-- A magnitude of at most fifty-three bits, shifted by `shift` places, is on the grid. -/
theorem onGrid_shift
    {significand shift : Nat}
    (fits : significand ≤ twoPow 53)
    (small : significand * twoPow shift < unitsLimit) :
    OnGrid (significand * twoPow shift) := by
  refine ⟨?_, small⟩
  by_cases zero : significand = 0
  · simp [zero]
  by_cases top : significand = twoPow 53
  · rw [top, ← twoPow_add, log2_twoPow]
    exact twoPow_dvd_twoPow (by omega)
  · have nonzero : significand * twoPow shift ≠ 0 :=
      Nat.mul_ne_zero zero (Nat.ne_of_gt (twoPow_pos shift))
    have below : significand * twoPow shift < twoPow (53 + shift) := by
      rw [twoPow_add]
      exact Nat.mul_lt_mul_of_pos_right (by omega) (twoPow_pos shift)
    have length := (log2_lt_iff nonzero).2 below
    exact Nat.dvd_trans (twoPow_dvd_twoPow (by omega)) (Nat.dvd_mul_left _ _)

/-- The zero of either sign. -/
def zero (negative : Bool) : Binary64 :=
  .finite negative 0 onGrid_zero

theorem onGrid_whole
    {number : Nat}
    (fits : number ≤ twoPow 53) :
    OnGrid (number * unitsPerOne) := by
  have places : 53 + unitPlaces < magnitudeBits := by decide
  refine onGrid_shift fits ?_
  refine Nat.lt_of_le_of_lt (Nat.mul_le_mul_right (twoPow unitPlaces) fits) ?_
  rw [← twoPow_add]
  exact twoPow_lt_twoPow places

/-- A whole number of at most fifty-three bits. -/
def whole (number : Nat) (fits : number ≤ twoPow 53 := by decide) : Binary64 :=
  .finite false (number * unitsPerOne) (onGrid_whole fits)

/-- The number one. -/
def one : Binary64 :=
  .whole 1

/-- The same magnitude with the other sign. -/
def neg : Binary64 → Binary64
  | .nan => .nan
  | .infinity negative => .infinity (!negative)
  | .finite negative units onGrid => .finite (!negative) units onGrid

/-- Whether the number is greater than zero and at most one. -/
def inUnitInterval : Binary64 → Bool
  | .finite false units _ => 0 < units && units ≤ unitsPerOne
  | _ => false

/-- Whether the number is one of the two zeros. -/
def isZero : Binary64 → Bool
  | .finite _ units _ => units = 0
  | _ => false

/--
The whole number nearest to the magnitude of a finite number, the greater of
two that are equally near.
-/
def nearestWholeAway (units : Nat) : Nat :=
  (2 * units + unitsPerOne) / (2 * unitsPerOne)

end Binary64
end FaultFinder
