import FaultFinder.Numeral
import FaultFinder.Setting
import FaultFinder.Text.Number
import FaultFinder.Toml.Moment
import FaultFinder.Toml.Scan
import FaultFinder.Toml.Table

/-!
# Plain values of TOML texts

Strings, truth values, dates and times, and numbers.  Whole numbers have at
most sixty-four bits; digits may be separated by single underscores.
-/

namespace FaultFinder
namespace Toml

/-- The digits of one kind at the start of a text, without the underscores between them. -/
def scanGroup (isDigit : Char → Bool) : Bool → List Char → List Char × List Char
  | true, '_' :: digit :: rest =>
    if isDigit digit then
      let (digits, remaining) := scanGroup isDigit true rest
      (digit :: digits, remaining)
    else ([], '_' :: digit :: rest)
  | _, first :: rest =>
    if isDigit first then
      let (digits, remaining) := scanGroup isDigit true rest
      (first :: digits, remaining)
    else ([], first :: rest)
  | _, [] => ([], [])

/-- One or more decimal digits, and what follows. -/
def scanDecimal (text : List Char) : Option (List Digit × List Char) :=
  match scanGroup Char.isDigit false text with
  | ([], _) => none
  | (digits, rest) => some (digits.filterMap Digit.ofChar?, rest)

/-- Decimal digits without a leading zero, and what follows. -/
def scanWhole : List Char → Option (List Digit × List Char)
  | '0' :: rest => some ([Digit.zero], rest)
  | text => scanDecimal text

/-- The digits after a point, if there is one, and what follows. -/
def scanPlaces : List Char → Option (List Digit × List Char)
  | '.' :: rest => scanDecimal rest
  | rest => some ([], rest)

/-- A sign, if there is one, and what follows. -/
def scanSign : List Char → Bool × List Char
  | '-' :: rest => (true, rest)
  | '+' :: rest => (false, rest)
  | rest => (false, rest)

/-- The exponent after its letter, if there is one, and what follows. -/
def scanExponent : List Char → Option (Option Int × List Char)
  | [] => some (none, [])
  | first :: rest =>
    if first = 'e' ∨ first = 'E' then do
      let (negative, rest) := scanSign rest
      let (digits, rest) ← scanDecimal rest
      let size : Int := Digit.value digits
      return (some (if negative then -size else size), rest)
    else some (none, first :: rest)

/-- The setting of a numeral; one that is too great on the positive side is no value. -/
def ofNumeral? (numeral : Numeral) : Option Setting :=
  if numeral.isWhole then
    let value : Int := if numeral.negative then -numeral.whole else numeral.whole
    if Text.isInteger64 value then some (.integer value) else none
  else
    match numeral.toBinary64 with
    | .infinity false => none
    | number => some (.number number)

/-- What follows the given letters. -/
def afterWord? (letters : String) (text : List Char) : Option (List Char) :=
  if letters.toList.isPrefixOf text then some (text.drop letters.length) else none

/-- A decimal number after its sign, and what follows. -/
def scanUnsigned (negative : Bool) (text : List Char) : Option (Setting × List Char) :=
  match afterWord? "inf" text, afterWord? "nan" text with
  | some rest, _ => some (.number (.infinity negative), rest)
  | _, some rest => some (.number .nan, rest)
  | none, none => do
    let (whole, rest) ← scanWhole text
    let (fraction, rest) ← scanPlaces rest
    let (exponent, rest) ← scanExponent rest
    let setting ← ofNumeral? { negative, whole := Digit.value whole, fraction, exponent }
    return (setting, rest)

/-- A whole number in digits below a base, and what follows. -/
def scanBase (base : Nat) (text : List Char) : Option (Setting × List Char) := do
  let isDigit := fun character => (Text.hexDigit? character).any (·.val < base)
  let (digits, rest) := scanGroup isDigit false text
  let value :=
    (digits.filterMap Text.hexDigit?).foldl (fun number digit => base * number + digit.val) 0
  if digits.isEmpty ∨ !Text.isInteger64 value then none
  return (.integer value, rest)

/-- A number, and what follows. -/
def scanNumber : List Char → Option (Setting × List Char)
  | '0' :: 'x' :: rest => scanBase 16 rest
  | '0' :: 'o' :: rest => scanBase 8 rest
  | '0' :: 'b' :: rest => scanBase 2 rest
  | '-' :: rest => scanUnsigned true rest
  | '+' :: rest => scanUnsigned false rest
  | text => scanUnsigned false text

/-- A string as a value. -/
def ofString (scanned : List Char × List Char) : Node × List Char :=
  (.string (String.ofList scanned.1), scanned.2)

/-- A moment as a value. -/
def ofMoment (scanned : List Char × List Char) : Node × List Char :=
  (.plain (.text (String.ofList scanned.1)), scanned.2)

/-- A plain value, and what follows. -/
def scanPlain (text : List Char) : Option (Node × List Char) :=
  match text with
  | '"' :: _ => (scanString text).map ofString
  | '\'' :: _ => (scanString text).map ofString
  | 't' :: _ => (afterWord? "true" text).map (.plain (.bool true), ·)
  | 'f' :: _ => (afterWord? "false" text).map (.plain (.bool false), ·)
  | _ =>
    if startsDate text || startsTime text then (scanMoment text).map ofMoment
    else (scanNumber text).map fun (number, rest) => (.plain number, rest)

end Toml
end FaultFinder
