import FaultFinder.Date
import FaultFinder.Text.Digits

/-!
# Dates and times of TOML texts

A date, a time, or both with an optional offset.  They are kept as texts in a
normal form: a `T` between date and time, no zeros at the end of a fraction and
no more than nine digits in it, and offsets in hours and minutes.
-/

namespace FaultFinder
namespace Toml

/-- A number of exactly `width` digits, and what follows. -/
def scanFixed (width : Nat) (text : List Char) : Option (Nat × List Char) :=
  match Text.takeDigits width text with
  | (digits, rest) => if digits.length = width then some (Digit.value digits, rest) else none

/-- The text of a number with `width` digits. -/
def fixedText (width number : Nat) : List Char :=
  (Digit.padded width number).map Digit.char

/-- Whether a date must follow: four digits and a hyphen. -/
def startsDate (text : List Char) : Bool :=
  (scanFixed 4 text).any fun (_, rest) => rest.head? = some '-'

/-- Whether a time must follow: two digits and a colon. -/
def startsTime (text : List Char) : Bool :=
  (scanFixed 2 text).any fun (_, rest) => rest.head? = some ':'

/-- A date in its normal form, and what follows. -/
def scanDate (text : List Char) : Option (List Char × List Char) := do
  let (year, rest) ← scanFixed 4 text
  let (month, rest) ← scanFixed 2 (← Text.expect '-' rest)
  let (day, rest) ← scanFixed 2 (← Text.expect '-' rest)
  if 1 ≤ month ∧ month ≤ 12 ∧ 1 ≤ day ∧ day ≤ Date.daysInMonth year month then
    return (fixedText 4 year ++ '-' :: fixedText 2 month ++ '-' :: fixedText 2 day, rest)
  else none

/-- The digits of a fraction in its normal form: nine at most, and no zeros at the end. -/
def fractionText (digits : List Digit) : List Char :=
  let kept := ((digits.take 9).reverse.dropWhile (· = Digit.zero)).reverse
  if kept.isEmpty then [] else '.' :: kept.map Digit.char

/-- The fraction of a second, if there is one, in its normal form, and what follows. -/
def scanFraction : List Char → Option (List Char × List Char)
  | '.' :: rest =>
    match Text.takeDigits rest.length rest with
    | ([], _) => none
    | (digits, rest) => some (fractionText digits, rest)
  | rest => some ([], rest)

/-- A time in its normal form, and what follows. -/
def scanTime (text : List Char) : Option (List Char × List Char) := do
  let (hour, rest) ← scanFixed 2 text
  let (minute, rest) ← scanFixed 2 (← Text.expect ':' rest)
  let (second, rest) ← scanFixed 2 (← Text.expect ':' rest)
  let (fraction, rest) ← scanFraction rest
  if hour ≤ 23 ∧ minute ≤ 59 ∧ second ≤ 60 then
    return (fixedText 2 hour ++ ':' :: fixedText 2 minute ++ ':' :: fixedText 2 second ++ fraction,
      rest)
  else none

/-- The hours and minutes of an offset; the sign of none at all is a plus sign. -/
def scanOffsetSize (negative : Bool) (text : List Char) : Option (List Char × List Char) := do
  let (hour, rest) ← scanFixed 2 text
  let (minute, rest) ← scanFixed 2 (← Text.expect ':' rest)
  if hour ≤ 23 ∧ minute ≤ 59 then
    let sign := if negative && (0 < hour || 0 < minute) then '-' else '+'
    return (sign :: fixedText 2 hour ++ ':' :: fixedText 2 minute, rest)
  else none

/-- An offset, if there is one, in its normal form, and what follows. -/
def scanOffset : List Char → Option (List Char × List Char)
  | 'Z' :: rest => some (['Z'], rest)
  | 'z' :: rest => some (['Z'], rest)
  | '+' :: rest => scanOffsetSize false rest
  | '-' :: rest => scanOffsetSize true rest
  | rest => some ([], rest)

/-- Whether a character may stand between a date and a time. -/
def isSeparator (character : Char) : Bool :=
  character = 'T' || character = 't' || character = ' '

/-- A date and the time that may follow it, in their normal form, and what follows. -/
def scanDated (text : List Char) : Option (List Char × List Char) := do
  let (date, rest) ← scanDate text
  match rest with
  | separator :: remaining =>
    if isSeparator separator && startsTime remaining then
      let (time, rest) ← scanTime remaining
      let (offset, rest) ← scanOffset rest
      return (date ++ 'T' :: time ++ offset, rest)
    else return (date, rest)
  | [] => return (date, rest)

/-- A date, a time or both in their normal form, and what follows. -/
def scanMoment (text : List Char) : Option (List Char × List Char) :=
  if startsTime text then scanTime text else scanDated text

/-- The normal form of the moment that a string spells. -/
def readMoment (content : String) : Option String :=
  match scanMoment content.toList with
  | some (moment, []) => some (String.ofList moment)
  | _ => none

end Toml
end FaultFinder
