import FaultFinder.Binary64

/-!
# Settings

Settings are a tree of tables and lists with plain values at its leaves.  Trees
are laid over each other: tables are merged key by key, and everything else
gives way to what comes later.  Keys are merged without regard to case.
-/

namespace FaultFinder

/-- A setting of any type. -/
inductive Setting where
  /-- Explicitly no value. -/
  | unset
  /-- A truth value. -/
  | bool (value : Bool)
  /-- A whole number. -/
  | integer (value : Int)
  /-- A binary64 number. -/
  | number (value : Binary64)
  /-- A text. -/
  | text (value : String)
  /-- A list of settings. -/
  | list (items : List Setting)
  /-- Settings with different keys. -/
  | table (members : List (String × Setting))

namespace Setting

/--
The lower-case form of a character, for comparison with letters of ASCII.  The
Kelvin sign is the only other character whose lower case is one of them.
-/
def lowerChar (character : Char) : Char :=
  if character = '\u212a' then 'k' else character.toLower

/-- A text with all characters in lower case. -/
def lowerCase (text : String) : String :=
  text.map lowerChar

/-- The setting with a key. -/
def member? (members : List (String × Setting)) (key : String) : Option Setting :=
  (members.find? (·.1 = key)).map (·.2)

/-- Replace or add the setting with a key. -/
def put (key : String) (value : Setting) : List (String × Setting) → List (String × Setting)
  | [] => [(key, value)]
  | (first, old) :: rest =>
    if first = key then (key, value) :: rest else (first, old) :: put key value rest

/-- The members of a table; other settings have none. -/
def members : Setting → List (String × Setting)
  | .table members => members
  | _ => []

/-- The items of a list; other settings have none. -/
def items : Setting → List Setting
  | .list items => items
  | _ => []

mutual

/-- A setting laid over the one that is there, if any. -/
def laidOver (below : Option Setting) : Setting → Setting
  | .table members => membersOver (below.getD (.table [])) members
  | .unset => .unset
  | .bool value => .bool value
  | .integer value => .integer value
  | .number value => .number value
  | .text value => .text value
  | .list items => .list items

/-- The members of a table laid over a setting, one after the other. -/
def membersOver (below : Setting) : List (String × Setting) → Setting
  | [] => below
  | (key, value) :: rest =>
    let known := below.members
    let merged := laidOver (member? known (lowerCase key)) value
    membersOver (.table (put (lowerCase key) merged known)) rest

end

end Setting
end FaultFinder
