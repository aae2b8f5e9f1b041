import FaultFinder.Numeral

/-!
# Shortest decimals

Among the decimals that read back as a given binary64 number, those on the
coarsest grid of powers of ten have the fewest digits.  The number has two
neighbours on each grid.  The search goes from coarse grids to fine ones and
stops at the first with a neighbour that reads back; of two such neighbours it
takes the nearer one.  Should the search end without one, the exact expansion
of the number is taken, which always reads back.
-/

namespace FaultFinder

/-- Which of two equally near neighbours is taken. -/
inductive Tie where
  /-- The neighbour with the even last digit. -/
  | even
  /-- The neighbour that is farther from zero. -/
  | away
  deriving DecidableEq

/-- A natural number times a power of ten. -/
structure Decimal where
  /-- The digits, read as one number. -/
  significand : Nat
  /-- The power of ten. -/
  exponent : Int
  deriving DecidableEq

namespace Decimal

/-- Whether a decimal is rounded to the given magnitude. -/
def readsBack (units : Nat) (decimal : Decimal) : Bool :=
  match Binary64.ofDecimal false decimal.significand decimal.exponent with
  | .finite false read _ => read = units
  | _ => false

/-- A magnitude as a fraction, in steps of the grid `10 ^ exponent`. -/
def gridFraction (units : Nat) (exponent : Int) : Nat × Nat :=
  if 0 ≤ exponent then (units, Binary64.unitsPerOne * tenPow exponent.toNat)
  else (units * tenPow (-exponent).toNat, Binary64.unitsPerOne)

/-- The nearest neighbour on a grid that reads back, if there is one. -/
def neighbour? (tie : Tie) (units : Nat) (exponent : Int) : Option Decimal :=
  let (numerator, denominator) := gridFraction units exponent
  let below : Decimal := ⟨numerator / denominator, exponent⟩
  let above : Decimal := ⟨numerator / denominator + 1, exponent⟩
  let excess := 2 * (numerator % denominator)
  let belowNearer :=
    excess < denominator ||
      (excess = denominator && tie = .even && below.significand % 2 = 0)
  match readsBack units below, readsBack units above with
  | true, true => some (if belowNearer then below else above)
  | true, false => some below
  | false, true => some above
  | false, false => none

/-- The exact expansion of a magnitude. -/
def exact (units : Nat) : Decimal :=
  ⟨units * Nat.pow 5 Binary64.unitPlaces, -Binary64.unitPlaces⟩

/-- The first hit on `grids` grids, from the coarsest downwards. -/
def search (tie : Tie) (units : Nat) : Nat → Int → Decimal
  | 0, _ => exact units
  | grids + 1, exponent =>
    match neighbour? tie units exponent with
    | some decimal => decimal
    | none => search tie units grids (exponent - 1)

/--
The shortest decimal of a positive magnitude.  The first grid is coarser than
the magnitude, and twenty grids reach past seventeen digits.
-/
def shortest (tie : Tie) (units : Nat) : Decimal :=
  let bits : Int := (units.log2 : Int) + 1 - Binary64.unitPlaces
  search tie units 20 (bits * 30103 / 100000 + 1)

end Decimal
end FaultFinder
