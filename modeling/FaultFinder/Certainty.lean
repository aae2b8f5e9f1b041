import FaultFinder.Binary64.Arithmetic

/-!
# Certainty factors

The certainty of a conclusion is a number from zero to one.  Independent pieces
of evidence for it are combined so that each closes the same part of the
distance that is left to full certainty.  A certainty is shown to people as a
whole number of percent.
-/

namespace FaultFinder
namespace Certainty

/-- The certainty given to a reported symptom unless another one is chosen. -/
def reported : Binary64 := 0.8

/-- The certainty of a conclusion that two pieces of evidence support. -/
def combine (left right : Binary64) : Binary64 :=
  left + right * (.one - left)

/--
Combine further equal pieces of evidence, one after the other.  Once a piece
changes nothing the remaining ones change nothing either.
-/
def accumulate (evidence : Binary64) : Nat → Binary64 → Binary64
  | 0, certainty => certainty
  | pieces + 1, certainty =>
    let combined := combine certainty evidence
    if combined = certainty then certainty
    else accumulate evidence pieces combined

/-- The certainty that a number of equal pieces of evidence give; zero for none. -/
def combineRepeated (evidence : Binary64) : Nat → Binary64
  | 0 => .zero false
  | pieces + 1 => accumulate evidence pieces evidence

/--
A certainty in whole percent: its hundredfold rounded to the nearest whole
number, upwards from a half, and kept between 0 and 100.
-/
def percent (certainty : Binary64) : UInt8 :=
  match certainty * .whole 100 with
  | .nan => 0
  | .infinity negative => if negative then 0 else 100
  | .finite true _ _ => 0
  | .finite false units _ => .ofNat (min (Binary64.nearestWholeAway units) 100)

end Certainty
end FaultFinder
