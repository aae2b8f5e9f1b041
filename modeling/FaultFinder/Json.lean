import FaultFinder.Numeral

/-!
# JSON values

A value is a tree.  The members of an object keep their order and may repeat.
The escapes of a string, or the bytes that it was read from, need not make up
Unicode text; such a string has no content.
-/

namespace FaultFinder

/-- A JSON value. -/
inductive Json where
  /-- The value `null`. -/
  | null
  /-- A truth value. -/
  | bool (value : Bool)
  /-- A number. -/
  | number (numeral : Numeral)
  /-- A string; it has no content when it is no Unicode text. -/
  | text (content : Option String)
  /-- A list of values. -/
  | array (items : List Json)
  /-- A list of named values. -/
  | object (members : List (Option String × Json))

namespace Json

/-- The string with the given content. -/
def ofString (content : String) : Json :=
  .text (some content)

/-- The number without sign, point or exponent. -/
def ofNat (number : Nat) : Json :=
  .number (.ofNat number)

/-- The object with the given members. -/
def ofMembers (members : List (String × Json)) : Json :=
  .object (members.map fun (name, value) => (some name, value))

end Json
end FaultFinder
