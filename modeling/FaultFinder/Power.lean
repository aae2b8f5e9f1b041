/-!
# Powers of two and of ten

The places of binary and of decimal numbers, as natural numbers.
-/

namespace FaultFinder

/-- A power of two. -/
def twoPow (exponent : Nat) : Nat :=
  Nat.pow 2 exponent

/-- A power of ten. -/
def tenPow (exponent : Nat) : Nat :=
  Nat.pow 10 exponent

theorem twoPow_pos (exponent : Nat) : 0 < twoPow exponent :=
  Nat.two_pow_pos exponent

theorem twoPow_add (left right : Nat) : twoPow (left + right) = twoPow left * twoPow right :=
  Nat.pow_add 2 left right

theorem twoPow_lt_twoPow {left right : Nat} (less : left < right) : twoPow left < twoPow right :=
  Nat.pow_lt_pow_right (Nat.lt_succ_self 1) less

theorem twoPow_le_twoPow {left right : Nat} (le : left ≤ right) : twoPow left ≤ twoPow right :=
  Nat.pow_le_pow_right (Nat.zero_lt_succ 1) le

theorem twoPow_dvd_twoPow {left right : Nat} (le : left ≤ right) : twoPow left ∣ twoPow right :=
  Nat.pow_dvd_pow 2 le

theorem log2_twoPow (exponent : Nat) : (twoPow exponent).log2 = exponent :=
  Nat.log2_two_pow

theorem log2_lt_iff
    {number exponent : Nat}
    (nonzero : number ≠ 0) :
    number.log2 < exponent ↔ number < twoPow exponent :=
  Nat.log2_lt nonzero

end FaultFinder
