import FaultFinder.Json
import FaultFinder.Text.Digits

/-!
# Writing JSON values

A value is written with one of two spacings.  The compact one has no white space.
The indented one sets every item and member on a line of its own, two spaces
further in than the line of its bracket; empty brackets stay together.  Only
characters that must be escaped are escaped, by a short escape where there is
one.
-/

namespace FaultFinder
namespace Json

/-- The white space in a value. -/
inductive Spacing where
  /-- Without white space. -/
  | compact
  /-- With one item or member a line, at the given depth. -/
  | indented (depth : Nat)

namespace Spacing

/-- The spacing of the items in brackets. -/
def inner : Spacing → Spacing
  | .compact => .compact
  | .indented depth => .indented (depth + 1)

/-- What stands before an item or a closing bracket. -/
def lineBreak : Spacing → List Char
  | .compact => []
  | .indented depth => '\n' :: List.replicate (2 * depth) ' '

/-- What stands between a name and its value. -/
def colon : Spacing → List Char
  | .compact => [':']
  | .indented _ => [':', ' ']

end Spacing

/-- An escape by four hexadecimal digits. -/
def unitEscape (unit : Nat) : List Char :=
  '\\' :: 'u' :: [12, 8, 4, 0].map fun shift => Nat.digitChar (unit >>> shift % 16)

/-- A character as it stands in a string. -/
def escaped (character : Char) : List Char :=
  if character = '"' ∨ character = '\\' then ['\\', character]
  else if character = '\x08' then ['\\', 'b']
  else if character = '\x0c' then ['\\', 'f']
  else if character = '\n' then ['\\', 'n']
  else if character = '\r' then ['\\', 'r']
  else if character = '\t' then ['\\', 't']
  else if character < ' ' then unitEscape character.toNat
  else [character]

/-- A string in quotes; one without content is written as half a pair of code units. -/
def quoted (content : Option String) : List Char :=
  let inside :=
    match content with
    | some known => known.toList.flatMap escaped
    | none => unitEscape 0xd800
  '"' :: inside ++ ['"']

/-- Written items in brackets. -/
def bracketed (spacing : Spacing) (opening closing : Char) (items : List (List Char)) : List Char :=
  if items.isEmpty then [opening, closing]
  else
    let line := spacing.inner.lineBreak
    opening :: line ++ (items.intersperse (',' :: line)).flatten ++ spacing.lineBreak ++ [closing]

mutual

/-- The text of a value. -/
def write : Json → Spacing → List Char
  | .null, _ => ['n', 'u', 'l', 'l']
  | .bool true, _ => ['t', 'r', 'u', 'e']
  | .bool false, _ => ['f', 'a', 'l', 's', 'e']
  | .number numeral, _ => numeral.text
  | .text content, _ => quoted content
  | .array items, spacing => bracketed spacing '[' ']' (writeItems items spacing.inner)
  | .object members, spacing =>
    bracketed spacing '\x7b' '\x7d' (writeMembers members spacing.inner)

/-- The texts of items. -/
def writeItems : List Json → Spacing → List (List Char)
  | [], _ => []
  | item :: items, spacing => write item spacing :: writeItems items spacing

/-- The texts of members. -/
def writeMembers : List (Option String × Json) → Spacing → List (List Char)
  | [], _ => []
  | (name, value) :: members, spacing =>
    (quoted name ++ spacing.colon ++ write value spacing) :: writeMembers members spacing

end

/-- The text of a value without white space. -/
def compact (value : Json) : String :=
  String.ofList (write value .compact)

/-- The text of a value with one item or member a line. -/
def indented (value : Json) : String :=
  String.ofList (write value (.indented 0))

end Json
end FaultFinder
