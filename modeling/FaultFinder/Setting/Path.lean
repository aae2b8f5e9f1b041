import FaultFinder.Setting
import FaultFinder.Text.Number

/-!
# Paths into settings

A path leads from a table to one of the settings in it.  It is written as names
with points between them, and positions of lists in brackets.  A position
counts from the end of the list when it is negative.
-/

namespace FaultFinder
namespace Setting

/-- One step of a path. -/
inductive Step where
  /-- To the member with a key. -/
  | key (name : String)
  /-- To the item at a position. -/
  | position (index : Int)
  deriving DecidableEq

/-- Whether a character may stand in a name. -/
def isNameChar (character : Char) : Bool :=
  character.isAlphanum || character = ' ' || character = '_' || character = '-'

/-- A position, with spaces around it, after the opening bracket. -/
def readPosition (text : List Char) : Option (Int × List Char) :=
  let isSpace := fun character => character = ' ' || character = '\t'
  let trimmed := text.dropWhile isSpace
  let (negative, digits) :=
    match trimmed with
    | '-' :: rest => (true, rest)
    | _ => (false, trimmed)
  match Text.readNumber digits.length digits with
  | none => none
  | some (size, rest) =>
    let index : Int := if negative then -size else size
    match rest.dropWhile isSpace with
    | ']' :: rest =>
      if Text.isInteger64 index then some (index, rest) else none
    | _ => none

/-- The further steps of a path; the limit is the length of the text. -/
def readSteps : Nat → List Char → Option (List Step)
  | _, [] => some []
  | limit + 1, '.' :: rest =>
    let name := rest.takeWhile isNameChar
    if name.isEmpty then none
    else (readSteps limit (rest.dropWhile isNameChar)).map (.key (String.ofList name) :: ·)
  | limit + 1, '[' :: rest => do
    let (index, rest) ← readPosition rest
    return .position index :: (← readSteps limit rest)
  | _, _ => none

/-- The steps that a text spells. -/
def readPath (text : String) : Option (List Step) :=
  readSteps (text.length + 1) ('.' :: text.toList)

/-- The steps that a key of a table leads along; a key that spells no path is one step. -/
def pathOf (key : String) : List Step :=
  (readPath key).getD [.key key]

/-- Replace the item at an index; missing items before it are unset. -/
def putItem (index : Nat) (value : Setting) (items : List Setting) : List Setting :=
  (items ++ List.replicate (index + 1 - items.length) Setting.unset).set index value

/--
The index of a position in a list of the given length.  Positions are expected to
lie within the list, or so near behind its end that the items between can be made;
one before the beginning, which has no index, is taken for the first.
-/
def indexOf (position : Int) (length : Nat) : Nat :=
  if 0 ≤ position then position.toNat else length - position.natAbs

/-- The setting after a value has been put at the end of a path that starts at it. -/
def place (value : Setting) : List Step → Option Setting → Setting
  | [], below => laidOver below value
  | [.position position], below =>
    let items := (below.getD .unset).items
    .list (putItem (indexOf position items.length) value items)
  | .key key :: steps, below =>
    let known := (below.getD .unset).members
    .table (put (lowerCase key) (place value steps (member? known (lowerCase key))) known)
  | .position position :: steps, below =>
    let items := (below.getD .unset).items
    let index := indexOf position items.length
    .list (putItem index (place value steps items[index]?) items)

/-- Lay the members of a table over a setting, each at the place that its key leads to. -/
def layOver (below : Setting) (members : List (String × Setting)) : Setting :=
  members.foldl (fun setting (key, value) => place value (pathOf key) (some setting)) below

end Setting
end FaultFinder
