/-!
# Bytes as text

The symbols of a sequence of bytes: the characters that it encodes, and one
gap for each longest run of bytes that could have begun a character but does
not complete one.  A sequence without gaps is text.
-/

namespace FaultFinder
namespace Text

/-- A character, or a gap where bytes encode none. -/
abbrev Symbol := Option Char

/-- The symbols of a text. -/
def symbols (text : String) : List Symbol :=
  text.toList.map some

/-- Whether a second byte can follow the first byte of a character of three or four bytes. -/
def continuesFirst (first second : UInt8) : Bool :=
  if first = 0xe0 then 0xa0 ≤ second && second ≤ 0xbf
  else if first = 0xed then 0x80 ≤ second && second ≤ 0x9f
  else if first = 0xf0 then 0x90 ≤ second && second ≤ 0xbf
  else if first = 0xf4 then 0x80 ≤ second && second ≤ 0x8f
  else 0x80 ≤ second && second ≤ 0xbf

/-- How many bytes after the first belong to the gap that starts at a position. -/
def gapExtension (bytes : ByteArray) (start : Nat) : Nat :=
  match bytes[start]?, bytes[start + 1]?, bytes[start + 2]? with
  | some first, some second, third =>
    if first < 0xe0 || 0xf4 < first || !continuesFirst first second then 0
    else if first < 0xf0 then 1
    else
      match third with
      | some byte => if 0x80 ≤ byte && byte ≤ 0xbf then 2 else 1
      | none => 1
  | _, _, _ => 0

/-- The symbols of bytes, from a position on. -/
def symbolsFrom (bytes : ByteArray) (start : Nat) : List Symbol :=
  if _inside : start < bytes.size then
    match bytes.utf8DecodeChar? start with
    | some character =>
      have _size := character.utf8Size_pos
      some character :: symbolsFrom bytes (start + character.utf8Size)
    | none => none :: symbolsFrom bytes (start + 1 + gapExtension bytes start)
  else []
termination_by bytes.size - start

/-- The symbols of bytes. -/
def symbolsOfBytes (bytes : ByteArray) : List Symbol :=
  symbolsFrom bytes 0

/-- The text of bytes, with the replacement character in each gap. -/
def lossyText (bytes : ByteArray) : List Char :=
  (symbolsOfBytes bytes).map (·.getD '\ufffd')

end Text
end FaultFinder
