import FaultFinder.Text.Blank
import FaultFinder.Text.Digits
import FaultFinder.Timestamp

/-!
# Timestamps as text

A timestamp is written with its date, its time and a `Z`; the fraction of the
second has the fewest of three, six or nine digits that are exact, or none.
A year outside of 0 to 9999 has a sign.

Reading is more liberal.  White space may stand around the fields, a field may
have fewer digits, date and time may be separated by a letter `t` or a space,
and the time may be that of any offset, which must be given.
-/

namespace FaultFinder
namespace Timestamp

open Text (trimStart readNumber takeDigits expect)

/-- A number with at least the given count of digits. -/
def paddedText (width number : Nat) : List Char :=
  let digits := Nat.toDigits 10 number
  List.replicate (width - digits.length) '0' ++ digits

/-- The text of a year. -/
def yearText (year : Int) : List Char :=
  if 0 ≤ year ∧ year ≤ 9999 then paddedText 4 year.toNat
  else (if year < 0 then '-' else '+') :: paddedText 4 year.natAbs

/-- The text of a date. -/
def dateText (date : Date) : List Char :=
  yearText date.year ++ '-' :: paddedText 2 date.month ++ '-' :: paddedText 2 date.day

/-- The fraction of a second, with as many digits as are needed. -/
def fractionText (nanosecond : Nat) : List Char :=
  if nanosecond = 0 then []
  else if nanosecond % 1000000 = 0 then '.' :: paddedText 3 (nanosecond / 1000000)
  else if nanosecond % 1000 = 0 then '.' :: paddedText 6 (nanosecond / 1000)
  else '.' :: paddedText 9 nanosecond

/-- The text of a timestamp. -/
def text (timestamp : Timestamp) : List Char :=
  let leap := timestamp.nanosecond / nanosecondsPerSecond
  dateText timestamp.date ++
    'T' :: paddedText 2 (timestamp.second / 3600) ++
    ':' :: paddedText 2 (timestamp.second / 60 % 60) ++
    ':' :: paddedText 2 (timestamp.second % 60 + leap) ++
    fractionText (timestamp.nanosecond % nanosecondsPerSecond) ++ ['Z']

/-- A year: up to four digits, or any number of them after a sign. -/
def readYear : List Char → Option (Int × List Char)
  | '-' :: rest => do
    let (year, rest) ← readNumber rest.length rest
    return (-year, rest)
  | '+' :: rest => do
    let (year, rest) ← readNumber rest.length rest
    return (year, rest)
  | text => do
    let (year, rest) ← readNumber 4 text
    return (year, rest)

/-- The character between date and time. -/
def readSeparator : List Char → Option (List Char)
  | first :: rest => if first = 'T' ∨ first = 't' ∨ first = ' ' then some rest else none
  | [] => none

/-- A fraction of a second, in nanoseconds; digits after the ninth do not count. -/
def readFraction : List Char → Option (Nat × List Char)
  | '.' :: rest =>
    match takeDigits 9 rest with
    | ([], _) => none
    | (digits, rest) =>
      some (Digit.value digits * tenPow (9 - digits.length), rest.dropWhile Char.isDigit)
  | text => some (0, text)

/-- A number of exactly two digits. -/
def readTwoDigits (text : List Char) : Option (Nat × List Char) :=
  match takeDigits 2 text with
  | ([tens, ones], rest) => some (Digit.value [tens, ones], rest)
  | _ => none

/-- The hours and minutes of an offset, in seconds. -/
def readOffsetSize (text : List Char) : Option (Nat × List Char) := do
  let (hours, rest) ← readTwoDigits text
  let (minutes, rest) ← readTwoDigits
    (rest.dropWhile fun character => character = ':' || Text.isBlank character)
  if 60 ≤ minutes then none
  return (hours * 3600 + minutes * 60, rest)

/-- An offset from coordinated universal time, in seconds. -/
def readOffset : List Char → Option (Int × List Char)
  | [] => none
  | first :: rest =>
    if (first :: rest.take 2).map Char.toLower = ['u', 't', 'c'] then some (0, rest.drop 2)
    else if first = 'Z' ∨ first = 'z' then some (0, rest)
    else if first = '+' then do
      let (size, rest) ← readOffsetSize rest
      return (size, rest)
    else if first = '-' ∨ first = '\u2212' then do
      let (size, rest) ← readOffsetSize rest
      return (-size, rest)
    else none

/-- The timestamp that a text spells. -/
def read (text : List Char) : Option Timestamp := do
  let (year, rest) ← readYear (trimStart text)
  let rest ← expect '-' (trimStart rest)
  let (month, rest) ← readNumber 2 (trimStart rest)
  let rest ← expect '-' (trimStart rest)
  let (day, rest) ← readNumber 2 (trimStart rest)
  let rest ← readSeparator rest
  let (hour, rest) ← readNumber 2 (trimStart rest)
  let rest ← expect ':' (trimStart rest)
  let (minute, rest) ← readNumber 2 (trimStart rest)
  let rest ← expect ':' (trimStart rest)
  let (second, rest) ← readNumber 2 (trimStart rest)
  let (nanosecond, rest) ← readFraction rest
  let (offset, rest) ← readOffset (trimStart rest)
  if trimStart rest ≠ [] then none
  let date ← Date.ofFields? year month day
  ofClock? date hour minute second nanosecond offset

end Timestamp
end FaultFinder
