import FaultFinder.Text.Utf8

/-!
# Symbols of encoded text

Bytes that encode a text have the symbols of that text: there is no gap among
them, and no character is lost or added.
-/

namespace FaultFinder
namespace Text

theorem size_utf8Encode_singleton (character : Char) :
    [character].utf8Encode.size = character.utf8Size := by
  rw [List.utf8Encode_singleton, List.size_toByteArray, String.length_utf8EncodeChar]

/-- Encoded characters that end a sequence of bytes are its symbols from there on. -/
theorem symbolsFrom_append
    (before : ByteArray)
    (characters : List Char) :
    symbolsFrom (before ++ characters.utf8Encode) before.size = characters.map some := by
  induction characters generalizing before with
  | nil => simp [symbolsFrom]
  | cons first rest inductionHypothesis =>
      have width := size_utf8Encode_singleton first
      have inside : before.size < (before ++ (first :: rest).utf8Encode).size := by
        have positive := first.utf8Size_pos
        rw [List.utf8Encode_cons, ByteArray.size_append, ByteArray.size_append]
        omega
      have decoded :
          (before ++ (first :: rest).utf8Encode).utf8DecodeChar? before.size = some first := by
        rw [ByteArray.utf8DecodeChar?_eq_utf8DecodeChar?_extract,
          ByteArray.extract_append_eq_right rfl ByteArray.size_append]
        exact List.utf8DecodeChar?_utf8Encode_cons
      have later := inductionHypothesis (before ++ [first].utf8Encode)
      rw [ByteArray.append_assoc, ← List.utf8Encode_cons, ByteArray.size_append, width] at later
      rw [symbolsFrom, dif_pos inside, decoded, List.map_cons]
      apply congrArg (some first :: ·)
      exact later

/-- The symbols of an encoded text are its characters. -/
theorem symbolsOfBytes_toUTF8 (text : String) : symbolsOfBytes text.toUTF8 = symbols text := by
  have whole := symbolsFrom_append ByteArray.empty text.toList
  rw [ByteArray.empty_append, String.utf8Encode_toList] at whole
  exact whole

/-- A text is decoded from its bytes. -/
theorem fromUTF8?_toUTF8 (text : String) : String.fromUTF8? text.toUTF8 = some text :=
  dif_pos text.isValidUTF8

end Text
end FaultFinder
