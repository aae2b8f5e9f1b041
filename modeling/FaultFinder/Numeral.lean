import FaultFinder.Binary64.Arithmetic

/-!
# Decimal numerals

A numeral is a number as it is written: a sign, a whole part, the digits after
the point and an exponent.  Its text is determined by these four, and it stands
for a sign, a natural number and a power of ten, which round to a binary64
number.
-/

namespace FaultFinder

/-- A decimal digit. -/
abbrev Digit := Fin 10

namespace Digit

/-- The digit zero. -/
def zero : Digit :=
  ⟨0, by decide⟩

/-- The character of a digit. -/
def char (digit : Digit) : Char :=
  Nat.digitChar digit.val

/-- The digit that a character stands for. -/
def ofChar? (character : Char) : Option Digit :=
  if bounds : '0' ≤ character ∧ character ≤ '9' then
    some ⟨character.toNat - '0'.toNat, by
      have least : '0'.toNat ≤ character.toNat := bounds.1
      have greatest : character.toNat ≤ '9'.toNat := bounds.2
      have nine : '9'.toNat = 57 := rfl
      have zero : '0'.toNat = 48 := rfl
      omega⟩
  else none

/-- The number that digits stand for, the most significant first. -/
def value (digits : List Digit) : Nat :=
  digits.foldl (fun number digit => 10 * number + digit.val) 0

/-- The last `width` digits of a number, with leading zeros. -/
def padded : Nat → Nat → List Digit
  | 0, _ => []
  | width + 1, number =>
    padded width (number / 10) ++ [⟨number % 10, Nat.mod_lt _ (by omega)⟩]

end Digit

/-- A written decimal number. -/
structure Numeral where
  /-- Whether a minus sign stands in front. -/
  negative : Bool
  /-- The part before the point. -/
  whole : Nat
  /-- The digits after the point; there is no point when there are none. -/
  fraction : List Digit
  /-- The power of ten that follows, if one is written. -/
  exponent : Option Int
  deriving DecidableEq

namespace Numeral

/-- Whether the numeral has neither a point nor an exponent. -/
def isWhole (numeral : Numeral) : Bool :=
  numeral.fraction.isEmpty && numeral.exponent.isNone

/-- All digits of the numeral, read as one number. -/
def significand (numeral : Numeral) : Nat :=
  numeral.whole * tenPow numeral.fraction.length + Digit.value numeral.fraction

/-- The power of ten by which the significand is multiplied. -/
def scale (numeral : Numeral) : Int :=
  numeral.exponent.getD 0 - numeral.fraction.length

/-- The binary64 number nearest to the numeral; an infinity when it is too great. -/
def toBinary64 (numeral : Numeral) : Binary64 :=
  Binary64.ofDecimal numeral.negative numeral.significand numeral.scale

/-- An exponent: its sign is always written. -/
def exponentText (exponent : Int) : List Char :=
  'e' :: (if exponent < 0 then '-' else '+') :: Nat.toDigits 10 exponent.natAbs

/-- The numeral's text. -/
def text (numeral : Numeral) : List Char :=
  (if numeral.negative then ['-'] else []) ++
    Nat.toDigits 10 numeral.whole ++
    (if numeral.fraction.isEmpty then [] else '.' :: numeral.fraction.map Digit.char) ++
    (numeral.exponent.map exponentText).getD []

/-- The whole number without a sign. -/
def ofNat (number : Nat) : Numeral :=
  { negative := false, whole := number, fraction := [], exponent := none }

end Numeral
end FaultFinder
