import FaultFinder.Numeral.Layout
import FaultFinder.Proofs.Binary64.Decimal
import FaultFinder.Proofs.Text.Digits

/-!
# Reading written numbers back

The search for the shortest decimal of a magnitude ends with one that is rounded
to the magnitude.  A layout moves the point of this decimal and may write zeros
after it, or an exponent, but it does not change its value.  So a finite number
is read back from its numeral in every layout, down to the sign of a zero.
-/

namespace FaultFinder

open Binary64 (OnGrid)

/-! ## Shortest decimals -/

namespace Decimal

variable
    {units : Nat}
    {decimal : Decimal}

/-- A decimal is rounded to a magnitude, with either sign. -/
def IsRoundedTo (units : Nat) (onGrid : OnGrid units) (decimal : Decimal) : Prop :=
  ∀ negative,
    Binary64.ofDecimal negative decimal.significand decimal.exponent =
      .finite negative units onGrid

theorem isRoundedTo_iff_readsBack (onGrid : OnGrid units) :
    decimal.IsRoundedTo units onGrid ↔ readsBack units decimal = true := by
  constructor
  · intro isRounded
    rw [readsBack, isRounded false]
    exact decide_eq_true rfl
  · intro reads
    have plain :
        Binary64.ofDecimal false decimal.significand decimal.exponent =
          .finite false units onGrid := by
      rw [readsBack] at reads
      split at reads
      · next read readOnGrid isRead =>
          obtain rfl := of_decide_eq_true reads
          exact isRead
      · cases reads
    intro negative
    cases negative with
    | false => exact plain
    | true =>
        rw [Binary64.ofDecimal_true, plain]
        rfl

theorem readsBack_exact (onGrid : OnGrid units) : readsBack units (exact units) = true :=
  (isRoundedTo_iff_readsBack onGrid).1 fun negative =>
    Binary64.ofDecimal_expansion negative onGrid

/-- A neighbour that is found reads back. -/
theorem readsBack_of_neighbour?
    {tie : Tie}
    {exponent : Int}
    (found : neighbour? tie units exponent = some decimal) :
    readsBack units decimal = true := by
  unfold neighbour? at found
  simp only at found
  split at found
  · next below above =>
      cases found
      split
      · exact below
      · exact above
  · next below above =>
      cases found
      exact below
  · next below above =>
      cases found
      exact above
  · cases found

/-- The search ends with a decimal that reads back, however many grids it has. -/
theorem readsBack_search
    (onGrid : OnGrid units)
    (tie : Tie)
    (grids : Nat)
    (exponent : Int) :
    readsBack units (search tie units grids exponent) = true := by
  induction grids generalizing exponent with
  | zero => exact readsBack_exact onGrid
  | succ grids inductionHypothesis =>
      rw [search]
      split
      · next decimal found => exact readsBack_of_neighbour? found
      · exact inductionHypothesis (exponent - 1)

theorem isRoundedTo_shortest
    (onGrid : OnGrid units)
    (tie : Tie) :
    (shortest tie units).IsRoundedTo units onGrid :=
  (isRoundedTo_iff_readsBack onGrid).2 (readsBack_search onGrid tie _ _)

end Decimal

/-! ## Digits -/

namespace Digit

@[simp] theorem length_padded (width number : Nat) : (padded width number).length = width := by
  induction width generalizing number with
  | zero => rfl
  | succ width inductionHypothesis =>
      rw [padded, List.length_append, inductionHypothesis, List.length_singleton]

theorem value_padded (width number : Nat) :
    value (padded width number) = number % tenPow width := by
  induction width generalizing number with
  | zero => exact (Nat.mod_one number).symm
  | succ width inductionHypothesis =>
      have split : tenPow (width + 1) = 10 * tenPow width := by
        rw [Nat.add_comm, tenPow_add]
        rfl
      rw [padded, value_append_singleton, inductionHypothesis, split, Nat.mod_mul, Nat.add_comm]

end Digit

/-! ## Layouts -/

namespace Layout

variable
    (negative : Bool)
    (decimal : Decimal)

/-- The digits before and after a point spell the significand. -/
theorem significand_padded (places : Nat) (exponent : Option Int) :
    Numeral.significand
        { negative
          whole := decimal.significand / tenPow places
          fraction := Digit.padded places decimal.significand
          exponent } =
      decimal.significand := by
  rw [Numeral.significand, Digit.length_padded, Digit.value_padded]
  exact Nat.div_add_mod' _ _

/-- A whole numeral stands for the number that its digits spell. -/
theorem toBinary64_whole (whole : Nat) :
    Numeral.toBinary64 { negative, whole, fraction := [], exponent := none } =
      Binary64.ofDecimal negative whole 0 := by
  have one : tenPow 0 = 1 := rfl
  rw [Numeral.toBinary64, Numeral.significand, List.length_nil, one, Nat.mul_one,
    Digit.value_nil, Nat.add_zero]
  rfl

theorem toBinary64_positionalNumeral :
    (positionalNumeral negative decimal).toBinary64 =
      Binary64.ofDecimal negative decimal.significand decimal.exponent := by
  unfold positionalNumeral
  split
  · next whole =>
      have noPlaces : decimal.exponent - (decimal.exponent.toNat : Int) = 0 := by omega
      rw [toBinary64_whole, ← noPlaces, Binary64.ofDecimal_mul_tenPow]
  · next parts =>
      have places : 0 - ((-decimal.exponent).toNat : Int) = decimal.exponent := by omega
      rw [Numeral.toBinary64, significand_padded, Numeral.scale, Digit.length_padded,
        Option.getD_none, places]

theorem toBinary64_scientificNumeral :
    (scientificNumeral negative decimal).toBinary64 =
      Binary64.ofDecimal negative decimal.significand decimal.exponent := by
  rw [scientificNumeral, Numeral.toBinary64, significand_padded, Numeral.scale,
    Digit.length_padded, Option.getD_some, Int.add_sub_cancel]

/-- A zero after the point does not change the number. -/
theorem toBinary64_withPoint (numeral : Numeral) :
    (withPoint numeral).toBinary64 = numeral.toBinary64 := by
  unfold withPoint
  split
  · next empty =>
      have noFraction : numeral.fraction = [] := List.isEmpty_iff.1 empty
      have significand :
          Numeral.significand { numeral with fraction := [Digit.zero] } =
            numeral.significand * tenPow 1 := by
        simp [Numeral.significand, noFraction, Digit.value, Digit.zero, tenPow]
      have scale :
          Numeral.scale { numeral with fraction := [Digit.zero] } = numeral.scale - (1 : Nat) := by
        simp [Numeral.scale, noFraction]
      rw [Numeral.toBinary64, significand, scale]
      exact Binary64.ofDecimal_mul_tenPow _ _ _ _
  · rfl

/-- A number is read back from its numeral. -/
theorem toBinary64_numeral
    (layout : Layout)
    {units : Nat}
    (onGrid : OnGrid units) :
    (layout.numeral negative units).toBinary64 = .finite negative units onGrid := by
  -- Both ways to set out the decimal have its value, so only this value counts.
  obtain ⟨decimal, isDecimal⟩ :
      ∃ decimal, decimal = if units = 0 then ⟨0, 0⟩ else Decimal.shortest layout.tie units :=
    ⟨_, rfl⟩
  have rounded :
      Binary64.ofDecimal negative decimal.significand decimal.exponent =
        .finite negative units onGrid := by
    rw [isDecimal]
    split
    · next none =>
        subst none
        exact Binary64.ofDecimal_zero negative 0
    · exact Decimal.isRoundedTo_shortest onGrid layout.tie negative
  simp only [numeral, ← isDecimal]
  split
  · split
    · rw [toBinary64_withPoint, toBinary64_positionalNumeral, rounded]
    · rw [toBinary64_positionalNumeral, rounded]
  · rw [toBinary64_scientificNumeral, rounded]

end Layout
end FaultFinder
