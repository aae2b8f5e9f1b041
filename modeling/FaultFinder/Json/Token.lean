import FaultFinder.Json
import FaultFinder.Text.Digits
import FaultFinder.Text.Utf8

/-!
# JSON tokens

A JSON text is a sequence of tokens with white space between them.  The
sequence ends at the end of the text or at the first place that is no token,
which is marked.  Numbers and strings are read completely: how a string spells
its characters does not show in its token.
-/

namespace FaultFinder
namespace Json

open Text (Symbol)

/-- A word of a JSON text. -/
inductive Token where
  /-- The bracket that opens an array. -/
  | openArray
  /-- The bracket that closes an array. -/
  | closeArray
  /-- The brace that opens an object. -/
  | openObject
  /-- The brace that closes an object. -/
  | closeObject
  /-- The sign between a name and its value. -/
  | colon
  /-- The sign between two items or members. -/
  | comma
  /-- The value `null`. -/
  | null
  /-- A truth value. -/
  | bool (value : Bool)
  /-- A number. -/
  | number (numeral : Numeral)
  /-- A string, with its content if it is Unicode text. -/
  | text (content : Option String)
  /-- The first place that is no token. -/
  | malformed
  deriving DecidableEq

/-- A part of a string: a character, one half of a pair of code units, or a gap. -/
inductive Piece where
  /-- A character. -/
  | character (value : Char)
  /-- A code unit of a surrogate pair, given by an escape. -/
  | surrogate (unit : Nat)
  /-- Bytes that encode no character. -/
  | gap

namespace Piece

/-- The piece that a code unit of sixteen bits stands for. -/
def ofUnit (unit : Nat) : Piece :=
  if 0xd800 ≤ unit ∧ unit ≤ 0xdfff then .surrogate unit else .character (Char.ofNat unit)

/-- The piece that four hexadecimal digits stand for. -/
def ofHex? (digits : List Symbol) : Option Piece := do
  let values ← digits.mapM fun symbol => symbol.bind Text.hexDigit?
  return ofUnit (Text.hexValue values)

/-- The piece that a backslash and one more character stand for. -/
def ofEscape? (character : Char) : Option Piece :=
  if character = '"' ∨ character = '\\' ∨ character = '/' then some (.character character)
  else if character = 'b' then some (.character '\x08')
  else if character = 'f' then some (.character '\x0c')
  else if character = 'n' then some (.character '\n')
  else if character = 'r' then some (.character '\r')
  else if character = 't' then some (.character '\t')
  else none

/-- The character of a surrogate pair. -/
def pair? (lead trail : Nat) : Option Char :=
  if lead < 0xdc00 ∧ 0xdc00 ≤ trail then
    some (Char.ofNat (0x10000 + (lead - 0xd800) * 0x400 + (trail - 0xdc00)))
  else none

/-- The text of pieces: surrogates must form pairs, and there must be no gap. -/
def assemble : List Piece → Option (List Char)
  | [] => some []
  | .character value :: rest => do
    return value :: (← assemble rest)
  | .surrogate lead :: .surrogate trail :: rest => do
    let value ← pair? lead trail
    return value :: (← assemble rest)
  | _ => none

end Piece

/-- The pieces of a string up to its closing quote, and what follows. -/
def scanPieces : List Symbol → Option (List Piece × List Symbol)
  | [] => none
  | none :: rest => do
    let (pieces, remaining) ← scanPieces rest
    return (.gap :: pieces, remaining)
  | some character :: rest =>
    if character = '"' then some ([], rest)
    else if character = '\\' then
      match rest with
      | some 'u' :: first :: second :: third :: fourth :: rest => do
        let piece ← Piece.ofHex? [first, second, third, fourth]
        let (pieces, remaining) ← scanPieces rest
        return (piece :: pieces, remaining)
      | some escaped :: rest => do
        let piece ← Piece.ofEscape? escaped
        let (pieces, remaining) ← scanPieces rest
        return (piece :: pieces, remaining)
      | _ => none
    else if character < ' ' then none
    else do
      let (pieces, remaining) ← scanPieces rest
      return (.character character :: pieces, remaining)

/-- The digits at the start, and what follows. -/
def scanDigits : List Symbol → List Digit × List Symbol
  | some character :: rest =>
    match Digit.ofChar? character with
    | some digit =>
      let (digits, remaining) := scanDigits rest
      (digit :: digits, remaining)
    | none => ([], some character :: rest)
  | rest => ([], rest)

/-- The whole part of a number: it has no leading zero. -/
def scanWhole (input : List Symbol) : Option (Nat × List Symbol) :=
  match scanDigits input with
  | ([], _) => none
  | (digits, rest) =>
    if digits.head? = some Digit.zero ∧ digits.length ≠ 1 then none
    else some (Digit.value digits, rest)

/-- The digits after the point, if there is one: at least one digit must follow it. -/
def scanFraction : List Symbol → Option (List Digit × List Symbol)
  | some '.' :: rest =>
    match scanDigits rest with
    | ([], _) => none
    | (digits, rest) => some (digits, rest)
  | rest => some ([], rest)

/-- The sign of an exponent, which may be missing. -/
def scanExponentSign : List Symbol → Bool × List Symbol
  | some '-' :: rest => (true, rest)
  | some '+' :: rest => (false, rest)
  | rest => (false, rest)

/-- The exponent after its letter. -/
def scanExponentValue (input : List Symbol) : Option (Int × List Symbol) :=
  let (negative, rest) := scanExponentSign input
  match scanDigits rest with
  | ([], _) => none
  | (digits, rest) =>
    let size : Int := Digit.value digits
    some (if negative then -size else size, rest)

/-- The exponent, if there is one. -/
def scanExponent : List Symbol → Option (Option Int × List Symbol)
  | some 'e' :: rest => do
    let (exponent, rest) ← scanExponentValue rest
    return (some exponent, rest)
  | some 'E' :: rest => do
    let (exponent, rest) ← scanExponentValue rest
    return (some exponent, rest)
  | rest => some (none, rest)

/-- A number after its sign, and what follows. -/
def scanNumber (negative : Bool) (input : List Symbol) : Option (Numeral × List Symbol) := do
  let (whole, rest) ← scanWhole input
  let (fraction, rest) ← scanFraction rest
  let (exponent, rest) ← scanExponent rest
  return ({ negative, whole, fraction, exponent }, rest)

/-- What follows the given letters. -/
def scanWord : List Char → List Symbol → Option (List Symbol)
  | [], rest => some rest
  | letter :: letters, some character :: rest =>
    if letter = character then scanWord letters rest else none
  | _, _ => none

/-- Whether a character may stand between tokens. -/
def isSpace (character : Char) : Bool :=
  character = ' ' || character = '\t' || character = '\n' || character = '\r'

/-- The token that a single character is. -/
def Token.ofMark? (character : Char) : Option Token :=
  if character = '[' then some .openArray
  else if character = ']' then some .closeArray
  else if character = '\x7b' then some .openObject
  else if character = '\x7d' then some .closeObject
  else if character = ':' then some .colon
  else if character = ',' then some .comma
  else none

/-- A string after its opening quote, and what follows. -/
def scanText (input : List Symbol) : Option (Token × List Symbol) :=
  (scanPieces input).map fun (pieces, rest) =>
    (.text ((Piece.assemble pieces).map String.ofList), rest)

/-- A token that is a word, after its first letter, and what follows. -/
def scanName (token : Token) (letters : List Char) (input : List Symbol) :
    Option (Token × List Symbol) :=
  (scanWord letters input).map (token, ·)

/-- A token that starts with the given character, which is no mark, and what follows. -/
def scanLong (first : Char) (rest : List Symbol) : Option (Token × List Symbol) :=
  if first = '"' then scanText rest
  else if first = 'n' then scanName .null ['u', 'l', 'l'] rest
  else if first = 't' then scanName (.bool true) ['r', 'u', 'e'] rest
  else if first = 'f' then scanName (.bool false) ['a', 'l', 's', 'e'] rest
  else
    let scanned :=
      if first = '-' then scanNumber true rest else scanNumber false (some first :: rest)
    scanned.map fun (numeral, rest) => (.number numeral, rest)

/-- The token that starts with the given character, and what follows. -/
def scanToken (first : Char) (rest : List Symbol) : Option (Token × List Symbol) :=
  match Token.ofMark? first with
  | some token => some (token, rest)
  | none => scanLong first rest

end Json
end FaultFinder
