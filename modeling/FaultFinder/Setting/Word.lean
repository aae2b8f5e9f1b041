import FaultFinder.Numeral.Layout
import FaultFinder.Setting
import FaultFinder.Text.Number

/-!
# Words as settings

Settings of one type can be used where another type is wanted, as far as they
have a meaning there: words are read as truth values and numbers, truth values
count as zero and one, numbers are rounded to whole ones, and every plain value
has a text.
-/

namespace FaultFinder
namespace Setting

/-- The setting that a word stands for: a truth value, a number or a text. -/
def ofWord (word : String) : Setting :=
  let lower := lowerCase word
  if lower = "true" then .bool true
  else if lower = "false" then .bool false
  else
    match Text.readInteger word.toList with
    | some value => .integer value
    | none =>
      match Text.readBinary64 word.toList with
      | some value => .number value
      | none => .text word

/-- The truth value that a word means. -/
def truth? (word : String) : Option Bool :=
  let lower := lowerCase word
  if lower = "true" ∨ lower = "on" ∨ lower = "yes" then some true
  else if lower = "false" ∨ lower = "off" ∨ lower = "no" then some false
  else none

/-- The whole number nearest to a binary64 number, kept within the counts of sixty-four bits. -/
def roundedCount : Binary64 → Nat
  | .nan => 0
  | .infinity negative => if negative then 0 else UInt64.size - 1
  | .finite negative units _ =>
    if negative then 0 else min (Binary64.nearestWholeAway units) (UInt64.size - 1)

/-- The count of sixty-four bits that a setting means. -/
def count? : Setting → Option Nat
  | .bool value => some value.toNat
  | .integer value => if 0 ≤ value then some value.toNat else none
  | .number value => some (roundedCount value)
  | .text word =>
    match truth? word with
    | some value => some value.toNat
    | none => Text.readCount word.toList
  | _ => none

/-- The number of thirty-two bits that a setting means. -/
def uint32? (setting : Setting) : Option UInt32 := do
  let count ← setting.count?
  if count < UInt32.size then some (.ofNat count) else none

/-- The binary64 number that a setting means. -/
def binary64? : Setting → Option Binary64
  | .bool value => some (if value then .one else .zero false)
  | .integer value => some (.ofDecimal (value < 0) value.natAbs 0)
  | .number value => some value
  | .text word =>
    match truth? word with
    | some value => some (if value then .one else .zero false)
    | none => Text.readBinary64 word.toList
  | _ => none

/-- The truth value that a setting means. -/
def bool? : Setting → Option Bool
  | .bool value => some value
  | .integer value => some (value ≠ 0)
  | .number value => some (!value.isZero)
  | .text word => if word = "1" then some true else if word = "0" then some false else truth? word
  | _ => none

/-- The text of a plain value. -/
def string? : Setting → Option String
  | .bool value => some (if value then "true" else "false")
  | .integer value => some (toString value)
  | .number value => some (Layout.messageText value)
  | .text value => some value
  | _ => none

/-- The text of a plain value, or none for a setting that is unset. -/
def optionalString? : Setting → Option (Option String)
  | .unset => some none
  | setting => setting.string?.map some

end Setting
end FaultFinder
