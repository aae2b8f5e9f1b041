/-!
# Blank characters

The characters that Unicode gives the white space property.
-/

namespace FaultFinder
namespace Text

/-- The inclusive ranges of code points that are white space. -/
def blankRanges : List (Nat × Nat) :=
  [ (0x09, 0x0d), (0x20, 0x20), (0x85, 0x85), (0xa0, 0xa0), (0x1680, 0x1680),
    (0x2000, 0x200a), (0x2028, 0x2029), (0x202f, 0x202f), (0x205f, 0x205f),
    (0x3000, 0x3000) ]

/-- Whether a character is white space. -/
def isBlank (character : Char) : Bool :=
  blankRanges.any fun (least, greatest) =>
    least ≤ character.toNat && character.toNat ≤ greatest

/-- A text without the white space at its start. -/
def trimStart (text : List Char) : List Char :=
  text.dropWhile isBlank

end Text
end FaultFinder
