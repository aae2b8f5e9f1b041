import FaultFinder.Text.Digits

/-!
# Numbers as whole texts

Whole numbers and counts of sixty-four bits, and binary64 numbers, each spelled
by the whole of a text.
-/

namespace FaultFinder
namespace Text

/-- Whether a whole number has at most sixty-four bits, one of them for its sign. -/
def isInteger64 (value : Int) : Bool :=
  -twoPow 63 ≤ value && value < twoPow 63

/-- The sign of a number, if it is written, and what follows. -/
def splitSign : List Char → Bool × List Char
  | '-' :: rest => (true, rest)
  | '+' :: rest => (false, rest)
  | text => (false, text)

/-- The number that digits spell, without a sign. -/
def readDigits (text : List Char) : Option Nat :=
  match readNumber text.length text with
  | some (number, []) => some number
  | _ => none

/-- The whole number of sixty-four bits that a text spells. -/
def readInteger (text : List Char) : Option Int := do
  let (negative, digits) := splitSign text
  let size : Int ← readDigits digits
  let value := if negative then -size else size
  if isInteger64 value then some value else none

/-- The count of sixty-four bits that a text spells; it may have a plus sign. -/
def readCount (text : List Char) : Option Nat := do
  let digits := if text.head? = some '+' then text.drop 1 else text
  let value ← readDigits digits
  if value < UInt64.size then some value else none

/-- The exponent at the end of a number, zero if there is none. -/
def readExponent : List Char → Option Int
  | [] => some 0
  | first :: rest =>
    if first = 'e' ∨ first = 'E' then do
      let (negative, digits) := splitSign rest
      let size : Int ← readDigits digits
      return if negative then -size else size
    else none

/--
The binary64 number that a text spells: digits with an optional point among,
before or after them and an optional exponent, or the name of an infinity or of
no number.
-/
def readBinary64 (text : List Char) : Option Binary64 :=
  let (negative, rest) := splitSign text
  let name := rest.map Char.toLower
  if name = "inf".toList ∨ name = "infinity".toList then some (.infinity negative)
  else if name = "nan".toList then some .nan
  else
    let (whole, rest) := takeDigits rest.length rest
    let (fraction, rest) :=
      match rest with
      | '.' :: rest => takeDigits rest.length rest
      | _ => ([], rest)
    if whole.isEmpty && fraction.isEmpty then none
    else
      (readExponent rest).map fun exponent =>
        Binary64.ofDecimal negative (Digit.value (whole ++ fraction)) (exponent - fraction.length)

end Text
end FaultFinder
