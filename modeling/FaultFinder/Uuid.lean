import FaultFinder.Text.Digits

/-!
# Universally unique identifiers

An identifier has thirty-two hexadecimal digits.  It is written in lower case
with hyphens between its five groups, and read in either case: in groups, as
bare digits, in braces, or as a name in the `uuid` namespace.
-/

namespace FaultFinder

/-- An identifier of 128 bits. -/
structure Uuid where
  /-- The digits, the most significant first. -/
  digits : Vector (Fin 16) 32
  deriving DecidableEq

namespace Uuid

/-- The sizes of the groups of digits. -/
def groupSizes : List Nat :=
  [8, 4, 4, 4, 12]

/-- Put hyphens between groups of the given sizes. -/
def group : List Nat → List Char → List Char
  | [], text => text
  | [_], text => text
  | size :: sizes, text => text.take size ++ '-' :: group sizes (text.drop size)

/-- Take the hyphens out of a text that has groups of the given sizes. -/
def ungroup : List Nat → List Char → Option (List Char)
  | [], _ => none
  | [size], text => if text.length = size then some text else none
  | size :: sizes, text => do
    let rest ← Text.expect '-' (text.drop size)
    let digits ← ungroup sizes rest
    return text.take size ++ digits

/-- The identifier with the given digits. -/
def ofDigits? (digits : List (Fin 16)) : Option Uuid :=
  if size : digits.toArray.size = 32 then some ⟨⟨digits.toArray, size⟩⟩ else none

/-- The identifier of thirty-two bare digits. -/
def readBare (text : List Char) : Option Uuid := do
  ofDigits? (← text.mapM Text.hexDigit?)

/-- The identifier of five groups of digits. -/
def readGrouped (text : List Char) : Option Uuid := do
  readBare (← ungroup groupSizes text)

/-- The beginning of an identifier that is written as a name; its letters may have any case. -/
def nameBeginning : List Char :=
  "urn:uuid:".toList

/-- Take off the beginning of a name. -/
def afterBeginning? (text : List Char) : Option (List Char) :=
  if nameBeginning.isPrefixOf (text.map Char.toLower) then
    some (text.drop nameBeginning.length)
  else none

/-- The identifier that a text spells. -/
def read (text : List Char) : Option Uuid :=
  match text.length with
  | 32 => readBare text
  | 36 => readGrouped text
  | 38 =>
    if text.head? = some '{' ∧ text.getLast? = some '}' then
      readGrouped ((text.drop 1).dropLast)
    else none
  | 45 => (afterBeginning? text).bind readGrouped
  | _ => none

/-- The text of an identifier. -/
def text (id : Uuid) : List Char :=
  group groupSizes (id.digits.toList.map Text.hexChar)

/-- The identifier made of random digits: the fourth version, with its variant. -/
def ofRandom (digits : Vector (Fin 16) 32) : Uuid :=
  let variant : Fin 16 := digits[16]
  ⟨(digits.set 12 4).set 16 (8 + variant % 4)⟩

end Uuid
end FaultFinder
