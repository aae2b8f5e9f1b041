import FaultFinder.Json.Reader
import FaultFinder.Setting
import FaultFinder.Text.Number

/-!
# Settings as JSON texts

A JSON value is a setting when its numbers are not too great for binary64 and
its strings are text.  Of members with the same name the last one counts.
Numbers without point and exponent are whole numbers of sixty-four bits, as far
as they fit.  Values may be nested up to a fixed depth.
-/

namespace FaultFinder
namespace Setting

/-- How deep arrays and objects may be nested. -/
def greatestDepth : Nat := 127

/-- The setting of a number. -/
def ofNumeral? (numeral : Numeral) : Option Setting :=
  let value : Int := if numeral.negative then -numeral.whole else numeral.whole
  let negativeZero := numeral.negative && numeral.whole = 0
  if numeral.isWhole ∧ ¬negativeZero ∧ Text.isInteger64 value then
    some (.integer value)
  else
    match numeral.toBinary64 with
    | .infinity _ => none
    | nearest => some (.number nearest)

mutual

/-- The setting that a JSON value is, at the given number of levels below the greatest depth. -/
def ofJson? : Json → Nat → Option Setting
  | .null, _ => some .unset
  | .bool value, _ => some (.bool value)
  | .number numeral, _ => ofNumeral? numeral
  | .text content, _ => content.map .text
  | .array items, level + 1 => (itemsOfJson? items level).map .list
  | .object members, level + 1 => (membersOfJson? members level []).map .table
  | .array _, 0 => none
  | .object _, 0 => none

/-- The settings that JSON values are. -/
def itemsOfJson? : List Json → Nat → Option (List Setting)
  | [], _ => some []
  | item :: items, level => do
    return (← ofJson? item level) :: (← itemsOfJson? items level)

/-- The members of a table, added to those that are known. -/
def membersOfJson? :
    List (Option String × Json) → Nat → List (String × Setting) →
      Option (List (String × Setting))
  | [], _, known => some known
  | (name, value) :: members, level, known => do
    let setting ← ofJson? value level
    membersOfJson? members level (put (← name) setting known)

end

/-- The members of the table that a JSON text spells; a byte order mark at its start is refused. -/
def readJson (text : String) : Option (List (String × Setting)) := do
  match ← ofJson? (← Json.read (Text.symbols text)) greatestDepth with
  | .table members => some members
  | _ => none

end Setting
end FaultFinder
