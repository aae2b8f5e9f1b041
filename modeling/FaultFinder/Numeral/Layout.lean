import FaultFinder.Numeral.Shortest

/-!
# Layouts of binary64 numbers

A layout says how the shortest digits of a number are set out as a numeral:
where the point may stand before an exponent is written instead, whether a
whole number keeps a zero after the point, and which of two equally near
decimals is taken.
-/

namespace FaultFinder

/-- The choices of a number format. -/
structure Layout where
  /-- The choice between equally near decimals. -/
  tie : Tie
  /--
  The positions of the point, counted from the first digit, at which no
  exponent is written; at every position when there is no such range.
  -/
  positional : Option (Int × Int)
  /-- Whether a whole number is written with a zero after the point. -/
  keepsPoint : Bool

namespace Layout

/-- The number of digits of a natural number. -/
def digitCount (number : Nat) : Nat :=
  (Nat.toDigits 10 number).length

/-- Whether a decimal whose point stands at `position` is written without an exponent. -/
def writesPositionally (layout : Layout) (position : Int) : Bool :=
  match layout.positional with
  | none => true
  | some (least, greatest) => least ≤ position && position ≤ greatest

/-- A decimal with its point in place. -/
def positionalNumeral (negative : Bool) (decimal : Decimal) : Numeral :=
  if 0 ≤ decimal.exponent then
    { negative
      whole := decimal.significand * tenPow decimal.exponent.toNat
      fraction := []
      exponent := none }
  else
    let places := (-decimal.exponent).toNat
    { negative
      whole := decimal.significand / tenPow places
      fraction := Digit.padded places decimal.significand
      exponent := none }

/-- A decimal with its point after the first digit, and an exponent. -/
def scientificNumeral (negative : Bool) (decimal : Decimal) : Numeral :=
  let places := digitCount decimal.significand - 1
  { negative
    whole := decimal.significand / tenPow places
    fraction := Digit.padded places decimal.significand
    exponent := some (decimal.exponent + places) }

/-- A whole numeral with a zero after its point. -/
def withPoint (numeral : Numeral) : Numeral :=
  if numeral.fraction.isEmpty then { numeral with fraction := [Digit.zero] } else numeral

/-- The numeral of a signed magnitude. -/
def numeral (layout : Layout) (negative : Bool) (units : Nat) : Numeral :=
  let decimal := if units = 0 then ⟨0, 0⟩ else Decimal.shortest layout.tie units
  let position := digitCount decimal.significand + decimal.exponent
  if units = 0 || layout.writesPositionally position then
    let written := positionalNumeral negative decimal
    if layout.keepsPoint then withPoint written else written
  else scientificNumeral negative decimal

/--
The layout of messages: every digit is written in its place, and a whole
number has no point.
-/
def message : Layout :=
  { tie := .away, positional := none, keepsPoint := false }

/-- The text of a number in a message. -/
def messageText : Binary64 → String
  | .nan => "NaN"
  | .infinity negative => if negative then "-inf" else "inf"
  | .finite negative units _ => String.ofList (message.numeral negative units).text

end Layout
end FaultFinder
