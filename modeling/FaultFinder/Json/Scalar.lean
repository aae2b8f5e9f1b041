import FaultFinder.Json
import FaultFinder.Numeral.Layout

/-!
# Numbers and strings as JSON values

A natural number is written in digits only, and nothing else is read as one.
A binary64 number is read from any number that is not too great for it.  It is
written with the fewest digits that read back, always with a point or an
exponent; the point stands in place from the fourth zero after it up to sixteen
digits before it.
-/

namespace FaultFinder
namespace Json

/-- The layout of binary64 numbers. -/
def numberLayout : Layout :=
  { tie := .even, positional := some (-4, 16), keepsPoint := true }

/-- A binary64 number; one that is not finite has no numeral and becomes `null`. -/
def ofBinary64 : Binary64 → Json
  | .finite negative units _ => .number (numberLayout.numeral negative units)
  | _ => .null

/-- The natural number below a bound that a value is. -/
def natBelow? (bound : Nat) : Json → Option Nat
  | .number numeral =>
    if numeral.isWhole ∧ ¬numeral.negative ∧ numeral.whole < bound then some numeral.whole
    else none
  | _ => none

/-- The number of eight bits that a value is. -/
def uint8? (value : Json) : Option UInt8 :=
  (value.natBelow? UInt8.size).map .ofNat

/-- The number of thirty-two bits that a value is. -/
def uint32? (value : Json) : Option UInt32 :=
  (value.natBelow? UInt32.size).map .ofNat

/-- The count, a number of sixty-four bits, that a value is. -/
def count? (value : Json) : Option Nat :=
  value.natBelow? UInt64.size

/-- The binary64 number nearest to a number that is not too great. -/
def binary64? : Json → Option Binary64
  | .number numeral =>
    match numeral.toBinary64 with
    | .infinity _ => none
    | nearest => some nearest
  | _ => none

/-- The content of a string. -/
def string? : Json → Option String
  | .text content => content
  | _ => none

/-- The elements of an array. -/
def list? {α : Type} (element? : Json → Option α) : Json → Option (List α)
  | .array items => items.mapM element?
  | _ => none

/-- The array of elements. -/
def ofList {α : Type} (ofElement : α → Json) (elements : List α) : Json :=
  .array (elements.map ofElement)

end Json
end FaultFinder
