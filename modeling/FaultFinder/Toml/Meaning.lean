import FaultFinder.Toml.Moment
import FaultFinder.Toml.Table

/-!
# The meaning of TOML values

Values mean settings of the same kind; dates and times mean their texts.  One
name is reserved: a table whose first member has it is the moment that this
member spells as a string, and the other members have no meaning.
-/

namespace FaultFinder
namespace Toml

/-- The reserved name of the members that spell moments. -/
def momentName : String := "$__toml_private_datetime"

/-- The moment that a value spells; only strings do. -/
def Node.moment? : Node → Option Setting
  | .string content => (readMoment content).map .text
  | _ => none

/-- The meaning of a table, given what its members mean if it is not a moment. -/
def tableSetting?
    (members : Members)
    (meaning : Option (List (String × Setting))) :
    Option Setting :=
  match members with
  | [] => meaning.map .table
  | (name, node) :: _ => if name = momentName then node.moment? else meaning.map .table

mutual

/-- The meaning of a value. -/
def Node.setting? : Node → Option Setting
  | .plain setting => some setting
  | .string content => some (.text content)
  | .array items => (itemSettings? items).map .list
  | .braced members => tableSetting? members (memberSettings? members)
  | .table _ members => tableSetting? members (memberSettings? members)
  | .tables newest older => do
    let last ← tableSetting? newest (memberSettings? newest)
    return .list (last :: (← olderSettings? older)).reverse

/-- The meanings of the items of an array. -/
def itemSettings? : List Node → Option (List Setting)
  | [] => some []
  | item :: items => do
    return (← item.setting?) :: (← itemSettings? items)

/-- The meanings of the members of a table. -/
def memberSettings? : List (String × Node) → Option (List (String × Setting))
  | [] => some []
  | (name, node) :: rest => do
    return (name, ← node.setting?) :: (← memberSettings? rest)

/-- The meanings of tables under one name. -/
def olderSettings? : List (List (String × Node)) → Option (List Setting)
  | [] => some []
  | members :: rest => do
    return (← tableSetting? members (memberSettings? members)) :: (← olderSettings? rest)

end

end Toml
end FaultFinder
