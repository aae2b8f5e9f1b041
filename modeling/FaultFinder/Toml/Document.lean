import FaultFinder.Toml.Meaning
import FaultFinder.Toml.Plain

/-!
# TOML texts

A text is a sequence of lines.  Each opens a table, gives a key of the open
table a value, or says nothing.  Arrays may extend over several lines, and
tables within values stay on one line.
-/

namespace FaultFinder
namespace Toml

mutual

/--
A value, and what follows.  The first number limits the steps of reading, and
the second one is how deep arrays and tables may still be nested.
-/
def readValue : Nat → Nat → List Char → Option (Node × List Char)
  | limit + 1, depth + 1, '[' :: rest =>
    match skipTrivia false rest with
    | ']' :: rest => some (.array [], rest)
    | rest => (readItems limit depth rest).map fun (items, rest) => (.array items, rest)
  | limit + 1, depth + 1, '\x7b' :: rest =>
    match skipGap rest with
    | '\x7d' :: rest => some (.braced [], rest)
    | rest =>
      (readPairs limit depth [] rest).map fun (members, rest) => (.braced members, rest)
  | _, _, text => scanPlain text

/-- The items of an array from one of them on, and what follows the array. -/
def readItems : Nat → Nat → List Char → Option (List Node × List Char)
  | 0, _, _ => none
  | limit + 1, depth, text => do
    let (item, rest) ← readValue limit depth text
    match skipTrivia false rest with
    | ']' :: rest => return ([item], rest)
    | ',' :: rest =>
      match skipTrivia false rest with
      | ']' :: rest => return ([item], rest)
      | rest =>
        let (items, rest) ← readItems limit depth rest
        return (item :: items, rest)
    | _ => none

/-- The members of a table from a key on, added to those before, and what follows the table. -/
def readPairs : Nat → Nat → Members → List Char → Option (Members × List Char)
  | 0, _, _, _ => none
  | limit + 1, depth, members, text => do
    let (keys, rest) ← scanKey text
    let rest ← Text.expect '=' rest
    let (value, rest) ← readValue limit depth (skipGap rest)
    let members ← assign value keys members
    match skipGap rest with
    | '\x7d' :: rest => return (members, rest)
    | ',' :: rest => readPairs limit depth members rest
    | _ => none

end

/-- What has been read of a text: all tables, and the names that lead to the open one. -/
structure Document where
  /-- The members of the outermost table. -/
  root : Members
  /-- The names that lead to the open table. -/
  current : List String

namespace Document

/-- The document before its first line. -/
def empty : Document :=
  ⟨[], []⟩

/-- Open a table in the way of its header. -/
def openHeader
    (document : Document)
    (opening : String → Members → Option Members)
    (keys : List String) :
    Option Document := do
  let name ← keys.getLast?
  return ⟨← within (opening name) keys.dropLast document.root, keys⟩

/-- Give a key of the open table a value. -/
def assignKey (document : Document) (keys : List String) (value : Node) : Option Document := do
  return ⟨← within (assign value keys) document.current document.root, document.current⟩

/-- Read a line, and give what follows. -/
def readLine (document : Document) (text : List Char) : Option (Document × List Char) :=
  match text with
  | '[' :: '[' :: rest => do
    let (keys, rest) ← scanKey rest
    let rest ← endLine? (← Text.expect ']' (← Text.expect ']' rest))
    return (← document.openHeader openElement keys, rest)
  | '[' :: rest => do
    let (keys, rest) ← scanKey rest
    let rest ← endLine? (← Text.expect ']' rest)
    return (← document.openHeader openTable keys, rest)
  | _ =>
    match endLine? text with
    | some rest => some (document, rest)
    | none => do
      let (keys, rest) ← scanKey text
      let rest ← Text.expect '=' rest
      let (value, rest) ← readValue (2 * rest.length + 2) greatestDepth (skipGap rest)
      return (← document.assignKey keys value, ← endLine? rest)

/-- Read lines until the text ends; the limit is the length of the text. -/
def readLines : Nat → Document → List Char → Option Document
  | limit, document, text =>
    match skipGap text, limit with
    | [], _ => some document
    | _, 0 => none
    | line, limit + 1 => do
      let (document, rest) ← document.readLine line
      readLines limit document rest

end Document

/-- The members of the table that a text spells; a byte order mark at its start is skipped. -/
def read (text : String) : Option (List (String × Setting)) := do
  let characters := text.toList
  let characters := if characters.head? = some '\ufeff' then characters.drop 1 else characters
  let document ← Document.empty.readLines characters.length characters
  match ← tableSetting? document.root (memberSettings? document.root) with
  | .table members => some members
  | _ => none

end Toml
end FaultFinder
