import FaultFinder.Json.Tokens
import FaultFinder.Json.Writer
import FaultFinder.Proofs.Text.Digits

/-!
# Tokens of written texts

A mark, a word, a string or a numeral is the token that it was written from,
whatever follows.  Only a numeral could go on with what follows, so it must be
followed by something that ends it.  White space before a token does not show.
-/

namespace FaultFinder
namespace Json

open Text (Symbol)

/-! ## Single tokens -/

theorem tokens_space
    {character : Char}
    (space : isSpace character = true)
    (rest : List Symbol) :
    tokens (some character :: rest) = tokens rest := by
  rw [tokens, if_pos space]

theorem tokens_spaces
    {characters : List Char}
    (spaces : ∀ character ∈ characters, isSpace character = true)
    (rest : List Symbol) :
    tokens (characters.map some ++ rest) = tokens rest := by
  induction characters with
  | nil => rfl
  | cons first characters inductionHypothesis =>
      rw [List.map_cons, List.cons_append, tokens_space (spaces first List.mem_cons_self)]
      exact inductionHypothesis fun character member =>
        spaces character (List.mem_cons_of_mem first member)

theorem tokens_token
    {first : Char}
    {rest remaining : List Symbol}
    {token : Token}
    (dark : isSpace first = false)
    (scanned : scanToken first rest = some (token, remaining)) :
    tokens (some first :: rest) = token :: tokens remaining := by
  rw [tokens, if_neg (by simp [dark])]
  split
  · next unscanned =>
      rw [scanned] at unscanned
      cases unscanned
  · next rescanned =>
      rw [scanned] at rescanned
      cases rescanned
      rfl

theorem tokens_mark
    {mark : Char}
    {token : Token}
    (dark : isSpace mark = false)
    (isMark : Token.ofMark? mark = some token)
    (rest : List Symbol) :
    tokens (some mark :: rest) = token :: tokens rest := by
  apply tokens_token dark
  rw [scanToken, isMark]

theorem tokens_long
    {first : Char}
    {rest remaining : List Symbol}
    {token : Token}
    (dark : isSpace first = false)
    (noMark : Token.ofMark? first = none)
    (scanned : scanLong first rest = some (token, remaining)) :
    tokens (some first :: rest) = token :: tokens remaining := by
  apply tokens_token dark
  rw [scanToken, noMark]
  exact scanned

/-! ## Strings -/

theorem hexDigit?_digitChar
    {number : Nat}
    (small : number < 16) :
    Text.hexDigit? (Nat.digitChar number) = some ⟨number, small⟩ :=
  Text.hexDigit?_hexChar ⟨number, small⟩

/-- The escape of a code unit is read as what the unit stands for. -/
theorem ofHex?_unitEscape
    {unit : Nat}
    (small : unit < 0x10000) :
    Piece.ofHex? ([12, 8, 4, 0].map fun shift => some (Nat.digitChar (unit >>> shift % 16))) =
      some (Piece.ofUnit unit) := by
  have digit (shift : Nat) :
      (some (Nat.digitChar (unit >>> shift % 16))).bind Text.hexDigit? =
        some ⟨unit >>> shift % 16, Nat.mod_lt _ (by decide)⟩ :=
    hexDigit?_digitChar (Nat.mod_lt _ (by decide))
  have value :
      16 * (16 * (16 * (16 * 0 + unit >>> 12 % 16) + unit >>> 8 % 16) + unit >>> 4 % 16) +
        unit >>> 0 % 16 = unit := by
    simp only [Nat.shiftRight_eq_div_pow]
    omega
  simp only [Piece.ofHex?, List.map_cons, List.map_nil, List.mapM_cons, List.mapM_nil, digit,
    Option.bind_eq_bind, Option.bind_some, Option.pure_def, Text.hexValue, List.foldl_cons,
    List.foldl_nil, value]

theorem scanPieces_unitEscape
    {unit : Nat}
    (small : unit < 0x10000)
    (rest : List Symbol) :
    scanPieces ((unitEscape unit).map some ++ rest) =
      (scanPieces rest).map fun (pieces, remaining) => (Piece.ofUnit unit :: pieces, remaining) := by
  have read := ofHex?_unitEscape small
  simp only [List.map_cons, List.map_nil] at read
  simp only [unitEscape, List.map_cons, List.map_nil, List.cons_append, List.nil_append]
  rw [scanPieces, if_neg (by decide), if_pos rfl]
  simp only [read, Option.bind_eq_bind, Option.bind_some, Option.pure_def]
  cases scanPieces rest <;> rfl

theorem scanPieces_escape
    {character : Char}
    {piece : Piece}
    (noUnit : character ≠ 'u')
    (escape : Piece.ofEscape? character = some piece)
    (rest : List Symbol) :
    scanPieces (some '\\' :: some character :: rest) =
      (scanPieces rest).map fun (pieces, remaining) => (piece :: pieces, remaining) := by
  rw [scanPieces, if_neg (by decide), if_pos rfl]
  · simp only [escape, Option.bind_eq_bind, Option.bind_some, Option.pure_def]
    cases scanPieces rest <;> rfl
  · intro _ _ _ _ _ _ unit
    exact noUnit unit

theorem scanPieces_plain
    {character : Char}
    (noQuote : character ≠ '"')
    (noBackslash : character ≠ '\\')
    (noControl : ¬character < ' ')
    (rest : List Symbol) :
    scanPieces (some character :: rest) =
      (scanPieces rest).map fun (pieces, remaining) => (.character character :: pieces, remaining) := by
  rw [scanPieces.eq_def]
  simp only [if_neg noQuote, if_neg noBackslash, if_neg noControl, Option.bind_eq_bind,
    Option.pure_def]
  cases scanPieces rest <;> rfl

theorem ofUnit_toNat
    {character : Char}
    (control : character < ' ') :
    Piece.ofUnit character.toNat = .character character := by
  have small : character.toNat < 32 := control
  rw [Piece.ofUnit, if_neg (by omega), Char.ofNat_toNat]

/-- A character is read from its spelling in a string. -/
theorem scanPieces_escaped
    (character : Char)
    (rest : List Symbol) :
    scanPieces ((escaped character).map some ++ rest) =
      (scanPieces rest).map fun (pieces, remaining) => (.character character :: pieces, remaining) := by
  unfold escaped
  split
  · next quoteOrBackslash =>
      refine scanPieces_escape ?_ ?_ rest
      · rintro rfl
        revert quoteOrBackslash
        decide
      · rw [Piece.ofEscape?, if_pos]
        exact quoteOrBackslash.imp_right Or.inl
  split
  · next equal => exact equal ▸ scanPieces_escape (by decide) rfl rest
  split
  · next equal => exact equal ▸ scanPieces_escape (by decide) rfl rest
  split
  · next equal => exact equal ▸ scanPieces_escape (by decide) rfl rest
  split
  · next equal => exact equal ▸ scanPieces_escape (by decide) rfl rest
  split
  · next equal => exact equal ▸ scanPieces_escape (by decide) rfl rest
  split
  · next control =>
      have small : character.toNat < 32 := control
      rw [scanPieces_unitEscape (by omega), ofUnit_toNat control]
  · next control =>
      next ordinary _ _ _ _ _ =>
        exact scanPieces_plain (fun equal => ordinary (Or.inl equal))
          (fun equal => ordinary (Or.inr equal)) control rest

theorem scanPieces_flatMap_escaped
    (characters : List Char)
    (rest : List Symbol) :
    scanPieces ((characters.flatMap escaped).map some ++ some '"' :: rest) =
      some (characters.map Piece.character, rest) := by
  induction characters with
  | nil =>
      rw [List.flatMap_nil, List.map_nil, List.nil_append, scanPieces.eq_def]
      rfl
  | cons first characters inductionHypothesis =>
      rw [List.flatMap_cons, List.map_append, List.append_assoc, scanPieces_escaped,
        inductionHypothesis]
      rfl

theorem assemble_map_character (characters : List Char) :
    Piece.assemble (characters.map Piece.character) = some characters := by
  induction characters with
  | nil => rfl
  | cons first characters inductionHypothesis =>
      rw [List.map_cons, Piece.assemble, inductionHypothesis]
      rfl

/-- Half a pair of code units stands for no text. -/
theorem scanText_half (rest : List Symbol) :
    scanText ((unitEscape 0xd800).map some ++ some '"' :: rest) = some (.text none, rest) := by
  rw [scanText, scanPieces_unitEscape (by decide), scanPieces.eq_def]
  rfl

theorem scanText_flatMap_escaped
    (content : String)
    (rest : List Symbol) :
    scanText ((content.toList.flatMap escaped).map some ++ some '"' :: rest) =
      some (.text (some content), rest) := by
  rw [scanText, scanPieces_flatMap_escaped]
  simp [assemble_map_character]

/-- A string is read from its quoted text. -/
theorem tokens_quoted
    (content : Option String)
    (rest : List Symbol) :
    tokens ((quoted content).map some ++ rest) = .text content :: tokens rest := by
  cases content with
  | none =>
      have scanned := scanText_half rest
      simp only [quoted, List.cons_append, List.map_cons, List.map_append, List.append_assoc]
      exact tokens_long (by decide) (by decide) scanned
  | some content =>
      have scanned := scanText_flatMap_escaped content rest
      simp only [quoted, List.cons_append, List.map_cons, List.map_append, List.append_assoc]
      exact tokens_long (by decide) (by decide) scanned

/-! ## Numerals -/

/-- Whether a character could belong to the numeral before it. -/
def continuesNumeral (character : Char) : Bool :=
  (Digit.ofChar? character).isSome || character = '.' || character = 'e' || character = 'E'

/-- What follows does not belong to a numeral before it. -/
def EndsNumeral : List Symbol → Prop
  | some first :: _ => continuesNumeral first = false
  | _ => True

/-- What follows does not start with a digit. -/
def EndsDigits : List Symbol → Prop
  | some first :: _ => Digit.ofChar? first = none
  | _ => True

theorem EndsNumeral.endsDigits
    {rest : List Symbol}
    (ends : EndsNumeral rest) :
    EndsDigits rest := by
  match rest with
  | [] => trivial
  | none :: _ => trivial
  | some first :: _ =>
      have noPart : continuesNumeral first = false := ends
      simp only [continuesNumeral, Bool.or_eq_false_iff] at noPart
      exact Option.isSome_eq_false_iff.1 noPart.1.1.1 |> Option.isNone_iff_eq_none.1

theorem scanDigits_map_append
    (digits : List Digit)
    {rest : List Symbol}
    (ends : EndsDigits rest) :
    scanDigits ((digits.map Digit.char).map some ++ rest) = (digits, rest) := by
  induction digits with
  | nil =>
      match rest with
      | [] => rfl
      | none :: _ => rfl
      | some first :: _ =>
          have noDigit : Digit.ofChar? first = none := ends
          simp [scanDigits, noDigit]
  | cons first digits inductionHypothesis =>
      rw [List.map_cons, List.map_cons, List.cons_append, scanDigits, Digit.ofChar?_char,
        inductionHypothesis]

theorem scanWhole_toDigits
    (whole : Nat)
    {rest : List Symbol}
    (ends : EndsDigits rest) :
    scanWhole ((Nat.toDigits 10 whole).map some ++ rest) = some (whole, rest) := by
  rw [Digit.toDigits_eq_map_plain, scanWhole, scanDigits_map_append _ ends]
  split
  · next empty => exact absurd (congrArg Prod.fst empty) (Digit.plain_ne_nil whole)
  · next equal =>
      cases equal
      rw [if_neg, Digit.value_plain]
      rintro ⟨leading, several⟩
      exact several (Digit.length_plain_of_head?_eq_zero leading)

/-- The part of a numeral's text from the point on, up to the exponent. -/
def fractionText (fraction : List Digit) : List Char :=
  if fraction.isEmpty then [] else '.' :: fraction.map Digit.char

/-- The part of a numeral's text after its digits. -/
def exponentText (exponent : Option Int) : List Char :=
  (exponent.map Numeral.exponentText).getD []

theorem scanFraction_fractionText
    (fraction : List Digit)
    {rest : List Symbol}
    (ends : EndsDigits rest)
    (noPoint : rest.head? ≠ some (some '.')) :
    scanFraction ((fractionText fraction).map some ++ rest) = some (fraction, rest) := by
  cases fraction with
  | nil =>
      simp only [fractionText, List.isEmpty_nil, if_true, List.map_nil, List.nil_append]
      unfold scanFraction
      split
      · exact absurd rfl noPoint
      · rfl
  | cons first fraction =>
      simp only [fractionText, List.isEmpty_cons, Bool.false_eq_true, if_false, List.map_cons,
        List.cons_append]
      have scanned := scanDigits_map_append (first :: fraction) ends
      simp only [List.map_cons, List.cons_append] at scanned
      rw [scanFraction, scanned]

theorem scanExponentValue_text
    (exponent : Int)
    {rest : List Symbol}
    (ends : EndsDigits rest) :
    scanExponentValue
        (some (if exponent < 0 then '-' else '+') ::
          ((Nat.toDigits 10 exponent.natAbs).map some ++ rest)) =
      some (exponent, rest) := by
  have scanned := scanDigits_map_append (Digit.plain exponent.natAbs) ends
  rw [← Digit.toDigits_eq_map_plain] at scanned
  obtain ⟨first, digits, equal⟩ := List.exists_cons_of_ne_nil (Digit.plain_ne_nil exponent.natAbs)
  have value := Digit.value_plain exponent.natAbs
  rw [equal] at scanned value
  split
  · next negative =>
      simp only [scanExponentValue, scanExponentSign, scanned, value, if_true]
      congr 2
      omega
  · next notNegative =>
      simp only [scanExponentValue, scanExponentSign, scanned, value, Bool.false_eq_true, if_false]
      congr 2
      omega

theorem scanExponent_exponentText
    (exponent : Option Int)
    {rest : List Symbol}
    (ends : EndsNumeral rest) :
    scanExponent ((exponentText exponent).map some ++ rest) = some (exponent, rest) := by
  cases exponent with
  | none =>
      simp only [exponentText, Option.map_none, Option.getD_none, List.map_nil, List.nil_append]
      unfold scanExponent
      split
      · cases ends
      · cases ends
      · rfl
  | some exponent =>
      have scanned := scanExponentValue_text exponent ends.endsDigits
      simp only [exponentText, Option.map_some, Option.getD_some, Numeral.exponentText,
        List.map_cons, List.cons_append]
      rw [scanExponent, scanned]
      rfl

theorem text_eq (numeral : Numeral) :
    numeral.text =
      (if numeral.negative then ['-'] else []) ++ (Nat.toDigits 10 numeral.whole ++
        (fractionText numeral.fraction ++ exponentText numeral.exponent)) := by
  simp only [Numeral.text, fractionText, exponentText, List.append_assoc]

theorem endsDigits_exponentText
    (exponent : Option Int)
    {rest : List Symbol}
    (ends : EndsNumeral rest) :
    EndsDigits ((exponentText exponent).map some ++ rest) := by
  cases exponent with
  | none => exact ends.endsDigits
  | some exponent => rfl

theorem head?_exponentText
    (exponent : Option Int)
    {rest : List Symbol}
    (ends : EndsNumeral rest) :
    ((exponentText exponent).map some ++ rest).head? ≠ some (some '.') := by
  cases exponent with
  | none =>
      intro point
      match rest, point with
      | _ :: _, rfl => cases ends
  | some exponent => simp [exponentText, Numeral.exponentText]

theorem endsDigits_fractionText
    (numeral : Numeral)
    {rest : List Symbol}
    (ends : EndsNumeral rest) :
    EndsDigits ((fractionText numeral.fraction).map some ++
      ((exponentText numeral.exponent).map some ++ rest)) := by
  unfold fractionText
  split
  · exact endsDigits_exponentText numeral.exponent ends
  · rfl

/-- A numeral without its sign is read from its text. -/
theorem scanNumber_text
    (numeral : Numeral)
    {rest : List Symbol}
    (ends : EndsNumeral rest) :
    scanNumber numeral.negative
        ((Nat.toDigits 10 numeral.whole).map some ++
          ((fractionText numeral.fraction).map some ++
            ((exponentText numeral.exponent).map some ++ rest))) =
      some (numeral, rest) := by
  have exponentEnds := endsDigits_exponentText numeral.exponent ends
  rw [scanNumber, scanWhole_toDigits _ (endsDigits_fractionText numeral ends)]
  simp only [Option.bind_eq_bind, Option.bind_some]
  rw [scanFraction_fractionText _ exponentEnds (head?_exponentText _ ends)]
  simp only [Option.bind_some]
  rw [scanExponent_exponentText _ ends]
  rfl

theorem dark_digit (digit : Digit) :
    isSpace digit.char = false ∧ Token.ofMark? digit.char = none := by
  revert digit
  decide

theorem scanLong_digit
    (digit : Digit)
    (rest : List Symbol) :
    scanLong digit.char rest =
      (scanNumber false (some digit.char :: rest)).map fun (numeral, rest) =>
        (.number numeral, rest) := by
  have noWord :
      digit.char ≠ '"' ∧ digit.char ≠ 'n' ∧ digit.char ≠ 't' ∧ digit.char ≠ 'f' ∧
        digit.char ≠ '-' := by
    revert digit
    decide
  obtain ⟨noQuote, noNull, noTrue, noFalse, noMinus⟩ := noWord
  rw [scanLong, if_neg noQuote, if_neg noNull, if_neg noTrue, if_neg noFalse, if_neg noMinus]

/-- A numeral is read from its text when nothing follows that could belong to it. -/
theorem tokens_numeral
    (numeral : Numeral)
    {rest : List Symbol}
    (ends : EndsNumeral rest) :
    tokens (numeral.text.map some ++ rest) = .number numeral :: tokens rest := by
  have scanned := scanNumber_text numeral ends
  simp only [text_eq, List.map_append, List.append_assoc]
  split
  · next negative =>
      rw [negative] at scanned
      apply tokens_long (by decide) (by decide)
      rw [scanLong, if_neg (by decide), if_neg (by decide), if_neg (by decide),
        if_neg (by decide)]
      exact congrArg (Option.map _) scanned
  · next notNegative =>
      rw [Bool.eq_false_iff.2 notNegative, Digit.toDigits_eq_map_plain] at scanned
      obtain ⟨first, digits, equal⟩ := List.exists_cons_of_ne_nil (Digit.plain_ne_nil numeral.whole)
      rw [Digit.toDigits_eq_map_plain]
      rw [equal] at scanned ⊢
      obtain ⟨dark, noMark⟩ := dark_digit first
      apply tokens_long dark noMark
      rw [scanLong_digit]
      exact congrArg (Option.map _) scanned

end Json
end FaultFinder
