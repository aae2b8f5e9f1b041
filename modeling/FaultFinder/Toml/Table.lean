import FaultFinder.Setting

/-!
# Tables under construction

The tables of a TOML text are put together from headers and from keys of
several parts.  A table can be opened by its own header once; tables that were
only implied by longer headers can still be opened, and those that were made by
keys can only be extended by keys.  A value is never replaced or extended, and
a table in braces is a value.

Members keep the order in which they were made.  A table that was implied takes
its place when it is opened.
-/

namespace FaultFinder
namespace Toml

/-- How a table came to be. -/
inductive Origin where
  /-- By its own header. -/
  | header
  /-- As a part of the header of another table. -/
  | implied
  /-- As a part of a key. -/
  | key
  deriving DecidableEq

/-- A value, a table, or the tables that have been opened under one name. -/
inductive Node where
  /-- A truth value, a number, a date or a time. -/
  | plain (setting : Setting)
  /-- A string. -/
  | string (content : String)
  /-- An array. -/
  | array (items : List Node)
  /-- A table in braces. -/
  | braced (members : List (String × Node))
  /-- A table. -/
  | table (origin : Origin) (members : List (String × Node))
  /-- Tables under one name, the newest first. -/
  | tables (newest : List (String × Node)) (older : List (List (String × Node)))

/-- The members of a table. -/
abbrev Members := List (String × Node)

/-- The node with a name. -/
def find? (members : Members) (name : String) : Option Node :=
  (members.find? (·.1 = name)).map (·.2)

/-- Replace or add the node with a name. -/
def put (name : String) (node : Node) : Members → Members
  | [] => [(name, node)]
  | (first, old) :: rest =>
    if first = name then (name, node) :: rest else (first, old) :: put name node rest

/-- Add a node with a new name. -/
def addNew? (members : Members) (name : String) (node : Node) : Option Members :=
  if (find? members name).isSome then none else some (members ++ [(name, node)])

/--
Put a value under a key of one or more parts.  The parts before the last name
tables that were not opened by a header, and the last of these tables has to be
made by keys.
-/
def assign (value : Node) : List String → Members → Option Members
  | [], _ => none
  | [name], members => addNew? members name value
  | name :: rest, members =>
    match find? members name with
    | none => (assign value rest []).map fun inner => put name (.table .key inner) members
    | some (.table origin inner) =>
      if origin = .header ∨ (rest.length = 1 ∧ origin ≠ .key) then none
      else (assign value rest inner).map fun inner => put name (.table origin inner) members
    | some (.tables newest older) =>
      if rest.length = 1 then none
      else (assign value rest newest).map fun newest => put name (.tables newest older) members
    | some _ => none

/-- Change the members of the table that names lead to; missing tables are implied. -/
def within (change : Members → Option Members) : List String → Members → Option Members
  | [], members => change members
  | name :: rest, members =>
    match find? members name with
    | none => (within change rest []).map fun inner => put name (.table .implied inner) members
    | some (.table origin inner) =>
      (within change rest inner).map fun inner => put name (.table origin inner) members
    | some (.tables newest older) =>
      (within change rest newest).map fun newest => put name (.tables newest older) members
    | some _ => none

/-- Open the table with a name by its header. -/
def openTable (name : String) (members : Members) : Option Members :=
  match find? members name with
  | none => some (put name (.table .header []) members)
  | some (.table .implied inner) =>
    some (members.filter (·.1 ≠ name) ++ [(name, .table .header inner)])
  | _ => none

/-- Open one more of the tables with a name. -/
def openElement (name : String) (members : Members) : Option Members :=
  match find? members name with
  | none => some (put name (.tables [] []) members)
  | some (.tables newest older) => some (put name (.tables [] (newest :: older)) members)
  | _ => none

end Toml
end FaultFinder
