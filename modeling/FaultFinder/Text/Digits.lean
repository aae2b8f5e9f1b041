import FaultFinder.Numeral

/-!
# Digits in a text

Reading the digits at the start of a text, and hexadecimal digits.
-/

namespace FaultFinder
namespace Text

/-- The digits at the start of a text, at most `limit` of them, and the rest. -/
def takeDigits : Nat → List Char → List Digit × List Char
  | limit + 1, first :: rest =>
    match Digit.ofChar? first with
    | some digit =>
      let (digits, remaining) := takeDigits limit rest
      (digit :: digits, remaining)
    | none => ([], first :: rest)
  | _, text => ([], text)

/-- The number of one to `limit` digits at the start of a text, and the rest. -/
def readNumber (limit : Nat) (text : List Char) : Option (Nat × List Char) :=
  match takeDigits limit text with
  | ([], _) => none
  | (digits, rest) => some (Digit.value digits, rest)

/-- The rest of a text that starts with the given character. -/
def expect (character : Char) : List Char → Option (List Char)
  | [] => none
  | first :: rest => if first = character then some rest else none

/-- The value of a hexadecimal digit of either case. -/
def hexDigit? (character : Char) : Option (Fin 16) :=
  if bounds : '0' ≤ character ∧ character ≤ '9' then
    some ⟨character.toNat - '0'.toNat, by
      have greatest : character.toNat ≤ '9'.toNat := bounds.2
      have nine : '9'.toNat = 57 := rfl
      have zero : '0'.toNat = 48 := rfl
      omega⟩
  else if bounds : 'a' ≤ character ∧ character ≤ 'f' then
    some ⟨character.toNat - 'a'.toNat + 10, by
      have greatest : character.toNat ≤ 'f'.toNat := bounds.2
      have last : 'f'.toNat = 102 := rfl
      have first : 'a'.toNat = 97 := rfl
      omega⟩
  else if bounds : 'A' ≤ character ∧ character ≤ 'F' then
    some ⟨character.toNat - 'A'.toNat + 10, by
      have greatest : character.toNat ≤ 'F'.toNat := bounds.2
      have last : 'F'.toNat = 70 := rfl
      have first : 'A'.toNat = 65 := rfl
      omega⟩
  else none

/-- The lower-case character of a hexadecimal digit. -/
def hexChar (digit : Fin 16) : Char :=
  Nat.digitChar digit.val

/-- The number of hexadecimal digits, the most significant first. -/
def hexValue (digits : List (Fin 16)) : Nat :=
  digits.foldl (fun number digit => 16 * number + digit.val) 0

end Text
end FaultFinder
