import FaultFinder.Binary64.Rounding

/-!
# Binary64 arithmetic

Each operation is the exact result rounded once to the nearest number of the
format, with the usual answers for infinities, signed zeros and the absence of
a number.
-/

namespace FaultFinder
namespace Binary64

/-- The rounded sum.  Numbers that cancel exactly leave the positive zero. -/
def add : Binary64 → Binary64 → Binary64
  | .nan, _ => .nan
  | _, .nan => .nan
  | .infinity left, .infinity right => if left = right then .infinity left else .nan
  | .infinity left, .finite .. => .infinity left
  | .finite .., .infinity right => .infinity right
  | .finite left leftUnits _, .finite right rightUnits _ =>
    if left = right then nearest left (leftUnits + rightUnits) 1
    else if rightUnits < leftUnits then nearest left (leftUnits - rightUnits) 1
    else if leftUnits < rightUnits then nearest right (rightUnits - leftUnits) 1
    else zero false

/-- The rounded difference. -/
def sub (left right : Binary64) : Binary64 :=
  add left right.neg

/-- The rounded product. -/
def mul : Binary64 → Binary64 → Binary64
  | .nan, _ => .nan
  | _, .nan => .nan
  | .infinity left, .infinity right => .infinity (left != right)
  | .infinity left, .finite right units _ =>
    if units = 0 then .nan else .infinity (left != right)
  | .finite left units _, .infinity right =>
    if units = 0 then .nan else .infinity (left != right)
  | .finite left leftUnits _, .finite right rightUnits _ =>
    nearest (left != right) (leftUnits * rightUnits) unitsPerOne

instance : Neg Binary64 := ⟨neg⟩
instance : Add Binary64 := ⟨add⟩
instance : Sub Binary64 := ⟨sub⟩
instance : Mul Binary64 := ⟨mul⟩

/--
The number nearest to `± significand * 10 ^ exponent`.  An exponent so great
or so small that the result is certain is not expanded.
-/
def ofDecimal (negative : Bool) (significand : Nat) (exponent : Int) : Binary64 :=
  if significand = 0 then zero negative
  else if 400 < exponent then .infinity negative
  else if exponent < -400 - significand.log2 then zero negative
  else if 0 ≤ exponent then
    nearest negative (significand * tenPow exponent.toNat * unitsPerOne) 1
  else
    nearest negative (significand * unitsPerOne) (tenPow (-exponent).toNat)

instance : OfScientific Binary64 where
  ofScientific significand negativeExponent exponent :=
    ofDecimal false significand (if negativeExponent then -exponent else exponent)

end Binary64
end FaultFinder
