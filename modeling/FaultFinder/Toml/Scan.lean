import FaultFinder.Text.Digits

/-!
# The words of TOML texts

White space, comments, line ends, strings and keys.
-/

namespace FaultFinder
namespace Toml

/-- Whether a character is white space within a line. -/
def isGap (character : Char) : Bool :=
  character = ' ' || character = '\t'

/-- Whether a character may stand in a comment or a string: no control character but the tab. -/
def isPrintable (character : Char) : Bool :=
  character = '\t' || (' ' ≤ character && character ≠ '\x7f')

/-- Skip white space within a line. -/
def skipGap (text : List Char) : List Char :=
  text.dropWhile isGap

/-- What follows a line end. -/
def afterLineEnd? : List Char → Option (List Char)
  | '\n' :: rest => some rest
  | '\r' :: '\n' :: rest => some rest
  | _ => none

/-- Skip white space, line ends and comments; the flag tells whether a comment has begun. -/
def skipTrivia : Bool → List Char → List Char
  | _, [] => []
  | _, '\n' :: rest => skipTrivia false rest
  | _, '\r' :: '\n' :: rest => skipTrivia false rest
  | true, first :: rest => if isPrintable first then skipTrivia true rest else first :: rest
  | false, first :: rest =>
    if first = '#' then skipTrivia true rest
    else if isGap first then skipTrivia false rest
    else first :: rest

/-- What follows the end of a line, before which white space and a comment may stand. -/
def endLine? (text : List Char) : Option (List Char) :=
  let remaining :=
    match skipGap text with
    | '#' :: rest => rest.dropWhile isPrintable
    | rest => rest
  if remaining.isEmpty then some [] else afterLineEnd? remaining

/-- A text with one more character in front. -/
def andBefore (first : Char) (scanned : Option (List Char × List Char)) :
    Option (List Char × List Char) :=
  scanned.map fun (content, rest) => (first :: content, rest)

/-- The character with a number given in hexadecimal digits. -/
def ofHex? (digits : List Char) : Option Char := do
  let number := Text.hexValue (← digits.mapM Text.hexDigit?)
  if number.isValidChar then some (Char.ofNat number) else none

/-- The character that a backslash and one more character stand for. -/
def ofEscape? (character : Char) : Option Char :=
  if character = '"' ∨ character = '\\' then some character
  else if character = 'b' then some '\x08'
  else if character = 'f' then some '\x0c'
  else if character = 'n' then some '\n'
  else if character = 'r' then some '\r'
  else if character = 't' then some '\t'
  else none

/--
A string with escapes after its opening, on one line or on several.  The second
flag tells whether a backslash at the end of a line is being followed: then
white space and line ends are skipped.
-/
def scanBasic (several : Bool) : Bool → List Char → Option (List Char × List Char)
  | _, [] => none
  | _, '"' :: rest =>
    if several then
      match rest with
      | '"' :: '"' :: '"' :: '"' :: rest => some (['"', '"'], rest)
      | '"' :: '"' :: '"' :: rest => some (['"'], rest)
      | '"' :: '"' :: rest => some ([], rest)
      | _ => andBefore '"' (scanBasic several false rest)
    else some ([], rest)
  | skipping, '\n' :: rest =>
    if skipping then scanBasic several true rest
    else if several then andBefore '\n' (scanBasic several false rest)
    else none
  | skipping, '\r' :: '\n' :: rest =>
    if skipping then scanBasic several true rest
    else if several then andBefore '\n' (scanBasic several false rest)
    else none
  | _, '\\' :: rest =>
    if several && (afterLineEnd? (skipGap rest)).isSome then scanBasic several true rest
    else
      match rest with
      | 'u' :: a :: b :: c :: d :: rest => do
        andBefore (← ofHex? [a, b, c, d]) (scanBasic several false rest)
      | 'U' :: a :: b :: c :: d :: e :: f :: g :: h :: rest => do
        andBefore (← ofHex? [a, b, c, d, e, f, g, h]) (scanBasic several false rest)
      | escaped :: rest => do
        andBefore (← ofEscape? escaped) (scanBasic several false rest)
      | [] => none
  | skipping, first :: rest =>
    if skipping && isGap first then scanBasic several true rest
    else if isPrintable first then andBefore first (scanBasic several false rest)
    else none

/-- A string without escapes after its opening, on one line or on several. -/
def scanLiteral (several : Bool) : List Char → Option (List Char × List Char)
  | [] => none
  | '\'' :: rest =>
    if several then
      match rest with
      | '\'' :: '\'' :: '\'' :: '\'' :: rest => some (['\'', '\''], rest)
      | '\'' :: '\'' :: '\'' :: rest => some (['\''], rest)
      | '\'' :: '\'' :: rest => some ([], rest)
      | _ => andBefore '\'' (scanLiteral several rest)
    else some ([], rest)
  | '\n' :: rest => if several then andBefore '\n' (scanLiteral several rest) else none
  | '\r' :: '\n' :: rest => if several then andBefore '\n' (scanLiteral several rest) else none
  | first :: rest => if isPrintable first then andBefore first (scanLiteral several rest) else none

/-- A text without the line end at its start. -/
def skipLineEnd (text : List Char) : List Char :=
  (afterLineEnd? text).getD text

/-- A string of any form, and what follows. -/
def scanString : List Char → Option (List Char × List Char)
  | '"' :: '"' :: '"' :: rest => scanBasic true false (skipLineEnd rest)
  | '"' :: rest => scanBasic false false rest
  | '\'' :: '\'' :: '\'' :: rest => scanLiteral true (skipLineEnd rest)
  | '\'' :: rest => scanLiteral false rest
  | _ => none

/-- Whether a character may stand in a key without quotation marks. -/
def isBareKeyChar (character : Char) : Bool :=
  character.isAlphanum || character = '_' || character = '-'

/-- A key without points, and what follows. -/
def scanSimpleKey (text : List Char) : Option (List Char × List Char) :=
  match text with
  | '"' :: rest => scanBasic false false rest
  | '\'' :: rest => scanLiteral false rest
  | _ =>
    let key := text.takeWhile isBareKeyChar
    if key.isEmpty then none else some (key, text.dropWhile isBareKeyChar)

/-- The parts of a key, with points between them, and what follows; there is a limit of parts. -/
def scanKeyParts : Nat → List Char → Option (List String × List Char)
  | 0, _ => none
  | limit + 1, text => do
    let (key, rest) ← scanSimpleKey (skipGap text)
    match skipGap rest with
    | '.' :: rest =>
      let (keys, rest) ← scanKeyParts limit rest
      return (String.ofList key :: keys, rest)
    | rest => return ([String.ofList key], rest)

/-- How many parts a key may have, and how deep values may be nested. -/
def greatestDepth : Nat := 79

/-- A key of one or more parts, and what follows. -/
def scanKey (text : List Char) : Option (List String × List Char) :=
  scanKeyParts greatestDepth text

end Toml
end FaultFinder
