import FaultFinder.Json

/-!
# JSON records

A record has fields with fixed names in a fixed order.  It is an object that
has each field as a member exactly once, in any order and among any members
with other names, or the array of its fields in their order.
-/

namespace FaultFinder
namespace Json

/-- The value of the only member with a name. -/
def onlyMember? (members : List (Option String × Json)) (name : String) : Option Json :=
  match members.filter fun member => member.1 = some name with
  | [(_, value)] => some value
  | _ => none

/-- The fields of a record, in the order of their names. -/
def fields? (names : List String) : Json → Option (List Json)
  | .array items => if items.length = names.length then some items else none
  | .object members =>
    if members.all fun member => member.1.isSome then names.mapM (onlyMember? members) else none
  | _ => none

end Json
end FaultFinder
