import FaultFinder.Proofs.Json.Exact
import Mathlib.Tactic.SplitIfs

/-!
# Spellings

A token can be spelled in several ways: a character of a string stands for
itself or is escaped, and an exponent has either letter, any sign that fits and
leading zeros.  White space may stand before, between and after tokens.  A text
is read as a value exactly when it spells the tokens of this value, so how it
spells them does not matter.
-/

namespace FaultFinder
namespace Json

open Text (Symbol)

/-! ## Strings -/

/-- The ways to spell a part of a string. -/
inductive Piece.IsSpelled : Piece → List Symbol → Prop where
  /-- A character that is no quote, backslash or control character stands for itself. -/
  | plain
      {character : Char}
      (noQuote : character ≠ '"')
      (noBackslash : character ≠ '\\')
      (noControl : ¬character < ' ') :
      IsSpelled (.character character) [some character]
  /-- A backslash and a letter stand for some of the characters. -/
  | escape
      {letter : Char}
      {piece : Piece}
      (isEscape : Piece.ofEscape? letter = some piece) :
      IsSpelled piece [some '\\', some letter]
  /-- Four hexadecimal digits stand for a code unit. -/
  | unit
      {first second third fourth : Symbol}
      {piece : Piece}
      (isUnit : Piece.ofHex? [first, second, third, fourth] = some piece) :
      IsSpelled piece [some '\\', some 'u', first, second, third, fourth]
  /-- Bytes that encode no character are a gap. -/
  | gap : IsSpelled .gap [none]

/-- The ways to spell the parts of a string one after the other. -/
inductive SpellsPieces : List Piece → List Symbol → Prop where
  /-- There are no parts. -/
  | nil : SpellsPieces [] []
  /-- A part is followed by others. -/
  | cons
      {piece : Piece}
      {pieces : List Piece}
      {part text : List Symbol}
      (first : piece.IsSpelled part)
      (others : SpellsPieces pieces text) :
      SpellsPieces (piece :: pieces) (part ++ text)

theorem scanPieces_isSpelled
    {piece : Piece}
    {part : List Symbol}
    (isSpelled : piece.IsSpelled part)
    (rest : List Symbol) :
    scanPieces (part ++ rest) =
      (scanPieces rest).map fun (pieces, remaining) => (piece :: pieces, remaining) := by
  cases isSpelled with
  | plain noQuote noBackslash noControl =>
      exact scanPieces_plain noQuote noBackslash noControl rest
  | escape isEscape =>
      apply scanPieces_escape _ isEscape
      rintro rfl
      cases isEscape
  | unit isUnit =>
      simp only [List.cons_append, List.nil_append]
      rw [scanPieces, if_neg (by decide), if_pos rfl]
      simp only [isUnit, Option.bind_eq_bind, Option.bind_some, Option.pure_def]
      cases scanPieces rest <;> rfl
  | gap =>
      change scanPieces (none :: rest) = _
      rw [scanPieces]
      cases scanPieces rest <;> rfl

/-- A string goes up to the first quote that is not escaped. -/
theorem scanPieces_eq_some_iff
    {input rest : List Symbol}
    {pieces : List Piece} :
    scanPieces input = some (pieces, rest) ↔
      ∃ inside, SpellsPieces pieces inside ∧ input = inside ++ some '"' :: rest := by
  constructor
  · intro scanned
    fun_induction scanPieces input generalizing pieces rest with
    | case1 => cases scanned
    | case2 remaining inductionHypothesis =>
        simp only [Option.bind_eq_bind, Option.bind_eq_some_iff, Prod.exists] at scanned
        obtain ⟨_, _, scannedRest, equal⟩ := scanned
        cases equal
        obtain ⟨inside, spells, rfl⟩ := inductionHypothesis scannedRest
        exact ⟨_, .cons .gap spells, rfl⟩
    | case3 =>
        cases scanned
        exact ⟨[], .nil, rfl⟩
    | case4 _ first second third fourth remaining inductionHypothesis =>
        simp only [Option.bind_eq_bind, Option.bind_eq_some_iff, Prod.exists] at scanned
        obtain ⟨_, isUnit, _, _, scannedRest, equal⟩ := scanned
        cases equal
        obtain ⟨inside, spells, rfl⟩ := inductionHypothesis scannedRest
        exact ⟨_, .cons (.unit isUnit) spells, rfl⟩
    | case5 _ escaped remaining _ inductionHypothesis =>
        simp only [Option.bind_eq_bind, Option.bind_eq_some_iff, Prod.exists] at scanned
        obtain ⟨_, isEscape, _, _, scannedRest, equal⟩ := scanned
        cases equal
        obtain ⟨inside, spells, rfl⟩ := inductionHypothesis scannedRest
        exact ⟨_, .cons (.escape isEscape) spells, rfl⟩
    | case6 => cases scanned
    | case7 => cases scanned
    | case8 character remaining noQuote noBackslash noControl inductionHypothesis =>
        simp only [Option.bind_eq_bind, Option.bind_eq_some_iff, Prod.exists] at scanned
        obtain ⟨_, _, scannedRest, equal⟩ := scanned
        cases equal
        obtain ⟨inside, spells, rfl⟩ := inductionHypothesis scannedRest
        exact ⟨_, .cons (.plain noQuote noBackslash noControl) spells, rfl⟩
  · rintro ⟨inside, spells, rfl⟩
    induction spells with
    | nil =>
        rw [List.nil_append, scanPieces.eq_def]
        rfl
    | cons first others inductionHypothesis =>
        rw [List.append_assoc, scanPieces_isSpelled first, inductionHypothesis]
        rfl

/-! ## Numerals -/

/-- The ways to spell the sign of an exponent. -/
inductive SpellsSign : Bool → List Char → Prop where
  /-- There is no sign. -/
  | missing : SpellsSign false []
  /-- The sign is plus. -/
  | plus : SpellsSign false ['+']
  /-- The sign is minus. -/
  | minus : SpellsSign true ['-']

/-- The ways to spell an exponent. -/
inductive SpellsExponent : Option Int → List Char → Prop where
  /-- There is none. -/
  | missing : SpellsExponent none []
  /-- There are a letter, a sign and digits. -/
  | written
      {letter : Char}
      {negative : Bool}
      {sign : List Char}
      {digits : List Digit}
      (isLetter : letter = 'e' ∨ letter = 'E')
      (isSign : SpellsSign negative sign)
      (nonempty : digits ≠ []) :
      SpellsExponent (some (if negative then -Digit.value digits else Digit.value digits))
        (letter :: (sign ++ digits.map Digit.char))

/-- The ways to spell a numeral after its sign. -/
inductive SpellsUnsigned (negative : Bool) : Numeral → List Char → Prop where
  /-- The digits before the point have no leading zero, and the exponent is spelled as it may be. -/
  | intro
      {whole fraction : List Digit}
      {exponent : Option Int}
      {power : List Char}
      (nonempty : whole ≠ [])
      (noLeadingZero : ¬(whole.head? = some Digit.zero ∧ whole.length ≠ 1))
      (spellsExponent : SpellsExponent exponent power) :
      SpellsUnsigned negative ⟨negative, Digit.value whole, fraction, exponent⟩
        (whole.map Digit.char ++ (fractionText fraction ++ power))

theorem char_eq_of_ofChar?
    {character : Char}
    {digit : Digit}
    (isDigit : Digit.ofChar? character = some digit) :
    digit.char = character := by
  have code : ∀ digit : Digit, digit.char.toNat = 48 + digit.val := by decide
  unfold Digit.ofChar? at isDigit
  split at isDigit
  · next bounds =>
      have least : 48 ≤ character.toNat := bounds.1
      cases isDigit
      apply Char.toNat_inj.1
      rw [code]
      exact Nat.add_sub_cancel' least
  · cases isDigit

theorem scanDigits_eq
    {input rest : List Symbol}
    {digits : List Digit}
    (scanned : scanDigits input = (digits, rest)) :
    input = (digits.map Digit.char).map some ++ rest ∧ EndsDigits rest := by
  fun_induction scanDigits input generalizing digits rest with
  | case1 character remaining digit isDigit others later equal inductionHypothesis =>
      cases scanned
      obtain ⟨same, ends⟩ := inductionHypothesis equal
      rw [List.map_cons, List.map_cons, List.cons_append, ← same, char_eq_of_ofChar? isDigit]
      exact ⟨rfl, ends⟩
  | case2 character remaining noDigit =>
      cases scanned
      exact ⟨rfl, noDigit⟩
  | case3 input notSome =>
      cases scanned
      refine ⟨rfl, ?_⟩
      cases input with
      | nil => trivial
      | cons first remaining =>
          cases first with
          | none => trivial
          | some character => exact absurd rfl (notSome character remaining)

/-- One digit or more are scanned exactly from their characters. -/
theorem scanDigits_eq_iff
    {input rest : List Symbol}
    {digits : List Digit} :
    scanDigits input = (digits, rest) ↔
      input = (digits.map Digit.char).map some ++ rest ∧ EndsDigits rest := by
  constructor
  · exact scanDigits_eq
  · rintro ⟨rfl, ends⟩
    exact scanDigits_map_append digits ends

theorem scanWhole_eq_some_iff
    {input rest : List Symbol}
    {whole : Nat} :
    scanWhole input = some (whole, rest) ↔
      ∃ digits : List Digit,
        digits ≠ [] ∧ ¬(digits.head? = some Digit.zero ∧ digits.length ≠ 1) ∧
          whole = Digit.value digits ∧ input = (digits.map Digit.char).map some ++ rest ∧
            EndsDigits rest := by
  constructor
  · intro scanned
    unfold scanWhole at scanned
    split at scanned
    · cases scanned
    · next digits remaining nonempty equal =>
        split at scanned
        · cases scanned
        · next noLeadingZero =>
            cases scanned
            obtain ⟨same, ends⟩ := scanDigits_eq_iff.1 equal
            exact ⟨digits, nonempty, noLeadingZero, rfl, same, ends⟩
  · rintro ⟨digits, nonempty, noLeadingZero, rfl, rfl, ends⟩
    rw [scanWhole, scanDigits_map_append digits ends]
    split
    · next empty => exact absurd (congrArg Prod.fst empty) nonempty
    · next equal =>
        cases equal
        rw [if_neg noLeadingZero]

/-- The fraction is taken from the text as far as it goes. -/
theorem eq_of_scanFraction
    {input rest : List Symbol}
    {fraction : List Digit}
    (scanned : scanFraction input = some (fraction, rest))
    (ends : EndsDigits input) :
    input = (fractionText fraction).map some ++ rest ∧ EndsDigits rest := by
  unfold scanFraction at scanned
  split at scanned
  · split at scanned
    · cases scanned
    · next nonempty equal =>
        cases scanned
        obtain ⟨rfl, endsRest⟩ := scanDigits_eq_iff.1 equal
        cases fraction with
        | nil => exact absurd rfl nonempty
        | cons digit fraction => exact ⟨rfl, endsRest⟩
  · cases scanned
    exact ⟨rfl, ends⟩

theorem exists_of_scanExponentSign
    {input rest : List Symbol}
    {negative : Bool}
    (scanned : scanExponentSign input = (negative, rest)) :
    ∃ sign, SpellsSign negative sign ∧ input = sign.map some ++ rest := by
  unfold scanExponentSign at scanned
  split at scanned
  · cases scanned
    exact ⟨_, .minus, rfl⟩
  · cases scanned
    exact ⟨_, .plus, rfl⟩
  · cases scanned
    exact ⟨_, .missing, rfl⟩

theorem exists_of_scanExponentValue
    {letter : Char}
    (isLetter : letter = 'e' ∨ letter = 'E')
    {input rest : List Symbol}
    {exponent : Int}
    (scanned : scanExponentValue input = some (exponent, rest)) :
    ∃ power,
      SpellsExponent (some exponent) (letter :: power) ∧ input = power.map some ++ rest ∧
        EndsDigits rest := by
  rcases signed : scanExponentSign input with ⟨negative, unsigned⟩
  obtain ⟨sign, isSign, rfl⟩ := exists_of_scanExponentSign signed
  simp only [scanExponentValue, signed] at scanned
  split at scanned
  · cases scanned
  · next nonempty equal =>
      cases scanned
      obtain ⟨rfl, ends⟩ := scanDigits_eq_iff.1 equal
      refine ⟨_, .written isLetter isSign nonempty, ?_, ends⟩
      rw [List.map_append, List.append_assoc]

/-- The exponent is taken from the text as far as it goes. -/
theorem exists_of_scanExponent
    {input rest : List Symbol}
    {exponent : Option Int}
    (scanned : scanExponent input = some (exponent, rest))
    (ends : EndsDigits input) :
    ∃ power,
      SpellsExponent exponent power ∧ input = power.map some ++ rest ∧ EndsDigits rest := by
  unfold scanExponent at scanned
  split at scanned
  · simp only [Option.bind_eq_bind, Option.bind_eq_some_iff, Prod.exists] at scanned
    obtain ⟨_, _, scannedValue, equal⟩ := scanned
    cases equal
    obtain ⟨power, spells, rfl, endsRest⟩ := exists_of_scanExponentValue (.inl rfl) scannedValue
    exact ⟨_, spells, rfl, endsRest⟩
  · simp only [Option.bind_eq_bind, Option.bind_eq_some_iff, Prod.exists] at scanned
    obtain ⟨_, _, scannedValue, equal⟩ := scanned
    cases equal
    obtain ⟨power, spells, rfl, endsRest⟩ := exists_of_scanExponentValue (.inr rfl) scannedValue
    exact ⟨_, spells, rfl, endsRest⟩
  · cases scanned
    exact ⟨[], .missing, rfl, ends⟩

theorem scanExponentSign_spelled
    {negative : Bool}
    {sign : List Char}
    (isSign : SpellsSign negative sign)
    {rest : List Symbol}
    (noMinus : rest.head? ≠ some (some '-'))
    (noPlus : rest.head? ≠ some (some '+')) :
    scanExponentSign (sign.map some ++ rest) = (negative, rest) := by
  cases isSign with
  | missing =>
      rw [List.map_nil, List.nil_append]
      unfold scanExponentSign
      split
      · exact absurd rfl noMinus
      · exact absurd rfl noPlus
      · rfl
  | plus => rfl
  | minus => rfl

theorem scanExponentValue_spelled
    {negative : Bool}
    {sign : List Char}
    (isSign : SpellsSign negative sign)
    {digits : List Digit}
    (nonempty : digits ≠ [])
    {rest : List Symbol}
    (ends : EndsDigits rest) :
    scanExponentValue ((sign ++ digits.map Digit.char).map some ++ rest) =
      some (if negative then -(Digit.value digits : Int) else Digit.value digits, rest) := by
  obtain ⟨digit, digits, rfl⟩ := List.exists_cons_of_ne_nil nonempty
  have noSign : ∀ digit : Digit, digit.char ≠ '-' ∧ digit.char ≠ '+' := by decide
  have scannedSign :
      scanExponentSign (sign.map some ++ (((digit :: digits).map Digit.char).map some ++ rest)) =
        (negative, ((digit :: digits).map Digit.char).map some ++ rest) :=
    scanExponentSign_spelled isSign (by simpa using (noSign digit).1)
      (by simpa using (noSign digit).2)
  rw [List.map_append, List.append_assoc]
  simp only [scanExponentValue, scannedSign, scanDigits_map_append (digit :: digits) ends]

theorem scanExponent_spelled
    {exponent : Option Int}
    {power : List Char}
    (spells : SpellsExponent exponent power)
    {rest : List Symbol}
    (ends : EndsNumeral rest) :
    scanExponent (power.map some ++ rest) = some (exponent, rest) := by
  cases spells with
  | missing =>
      rw [List.map_nil, List.nil_append]
      unfold scanExponent
      split
      · cases ends
      · cases ends
      · rfl
  | written isLetter isSign nonempty =>
      have scanned := scanExponentValue_spelled isSign nonempty ends.endsDigits
      rcases isLetter with rfl | rfl
      · rw [List.map_cons, List.cons_append, scanExponent, scanned]
        rfl
      · rw [List.map_cons, List.cons_append, scanExponent, scanned]
        rfl

theorem endsDigits_spelledExponent
    {exponent : Option Int}
    {power : List Char}
    (spells : SpellsExponent exponent power)
    {rest : List Symbol}
    (ends : EndsNumeral rest) :
    EndsDigits (power.map some ++ rest) ∧ (power.map some ++ rest).head? ≠ some (some '.') := by
  cases spells with
  | missing =>
      refine ⟨ends.endsDigits, ?_⟩
      intro point
      match rest, point with
      | _ :: _, rfl => cases ends
  | written isLetter isSign nonempty =>
      rcases isLetter with rfl | rfl
      · exact ⟨rfl, by simp⟩
      · exact ⟨rfl, by simp⟩

/-- A numeral is scanned from a spelling of it that is over where the rest begins. -/
theorem scanNumber_spelled
    {negative : Bool}
    {numeral : Numeral}
    {text : List Char}
    (spells : SpellsUnsigned negative numeral text)
    {rest : List Symbol}
    (ends : EndsNumeral rest) :
    scanNumber negative (text.map some ++ rest) = some (numeral, rest) := by
  cases spells with
  | @intro whole fraction exponent power nonempty noLeadingZero spellsExponent =>
      obtain ⟨endsPower, noPoint⟩ := endsDigits_spelledExponent spellsExponent ends
      have endsWhole :
          EndsDigits ((fractionText fraction).map some ++ (power.map some ++ rest)) := by
        unfold fractionText
        split
        · exact endsPower
        · rfl
      have scannedWhole := scanWhole_eq_some_iff.2
        ⟨whole, nonempty, noLeadingZero, rfl, rfl, endsWhole⟩
      rw [List.map_append, List.map_append, List.append_assoc, List.append_assoc, scanNumber,
        scannedWhole]
      simp only [Option.bind_eq_bind, Option.bind_some,
        scanFraction_fractionText fraction endsPower noPoint, scanExponent_spelled spellsExponent ends]
      rfl

/-- What is scanned as a numeral is a spelling of it. -/
theorem exists_of_scanNumber
    {negative : Bool}
    {numeral : Numeral}
    {input rest : List Symbol}
    (scanned : scanNumber negative input = some (numeral, rest)) :
    ∃ text,
      SpellsUnsigned negative numeral text ∧ input = text.map some ++ rest ∧ EndsDigits rest := by
  simp only [scanNumber, Option.bind_eq_bind, Option.bind_eq_some_iff, Prod.exists] at scanned
  obtain ⟨_, _, scannedWhole, fraction, _, scannedFraction, _, _, scannedExponent, equal⟩ := scanned
  cases equal
  obtain ⟨whole, nonempty, noLeadingZero, rfl, rfl, endsWhole⟩ :=
    scanWhole_eq_some_iff.1 scannedWhole
  obtain ⟨rfl, endsFraction⟩ := eq_of_scanFraction scannedFraction endsWhole
  obtain ⟨power, spells, rfl, ends⟩ := exists_of_scanExponent scannedExponent endsFraction
  refine ⟨_, .intro nonempty noLeadingZero spells, ?_, ends⟩
  simp only [List.map_append, List.append_assoc]

/-! ## Tokens -/

/-- The tokens that are words. -/
def wordTokens : List (Token × String) :=
  [(.null, "null"), (.bool true, "true"), (.bool false, "false")]

/-- The ways to spell a token. -/
inductive Token.IsSpelled : Token → List Symbol → Prop where
  /-- A mark is a single character. -/
  | mark
      {character : Char}
      {token : Token}
      (isMark : Token.ofMark? character = some token) :
      IsSpelled token [some character]
  /-- A word has its letters. -/
  | word
      {token : Token}
      {word : String}
      (isWord : (token, word) ∈ wordTokens) :
      IsSpelled token (Text.symbols word)
  /-- A numeral has a minus sign if it is negative. -/
  | number
      {negative : Bool}
      {numeral : Numeral}
      {text : List Char}
      (spells : SpellsUnsigned negative numeral text) :
      IsSpelled (.number numeral) (((if negative then ['-'] else []) ++ text).map some)
  /-- A string stands between quotes; its content is the text of its parts, if they have one. -/
  | text
      {pieces : List Piece}
      {inside : List Symbol}
      (spells : SpellsPieces pieces inside) :
      IsSpelled (.text ((Piece.assemble pieces).map String.ofList))
        (some '"' :: (inside ++ [some '"']))

/-- The token is a number. -/
def Token.IsNumber (token : Token) : Prop :=
  ∃ numeral, token = .number numeral

/--
The ways to spell tokens one after the other, with white space anywhere between
them.  What follows a numeral must not belong to it.
-/
inductive SpellsTokens : List Token → List Symbol → Prop where
  /-- There are no tokens. -/
  | nil : SpellsTokens [] []
  /-- White space does not show. -/
  | space
      {character : Char}
      {spelled : List Token}
      {text : List Symbol}
      (isSpace : isSpace character = true)
      (others : SpellsTokens spelled text) :
      SpellsTokens spelled (some character :: text)
  /-- A token is followed by others. -/
  | token
      {token : Token}
      {spelled : List Token}
      {part text : List Symbol}
      (first : token.IsSpelled part)
      (ends : token.IsNumber → EndsNumeral text)
      (others : SpellsTokens spelled text) :
      SpellsTokens (token :: spelled) (part ++ text)

theorem isSpace_of_isMark
    {character : Char}
    {token : Token}
    (isMark : Token.ofMark? character = some token) :
    isSpace character = false := by
  apply Bool.eq_false_iff.2
  intro space
  simp only [isSpace, Bool.or_eq_true, decide_eq_true_eq] at space
  rcases space with ((rfl | rfl) | rfl) | rfl <;> cases isMark

theorem scanWord_eq_some_iff
    {letters : List Char}
    {input rest : List Symbol} :
    scanWord letters input = some rest ↔ input = letters.map some ++ rest := by
  induction letters generalizing input with
  | nil =>
      rw [scanWord, Option.some_inj, List.map_nil, List.nil_append]
  | cons letter letters inductionHypothesis =>
      match input with
      | [] => simp [scanWord]
      | none :: _ => simp [scanWord]
      | some character :: input =>
          rw [scanWord]
          split
          · next same => simp [same, inductionHypothesis]
          · next different =>
              simp [different, eq_comm]

theorem scanName_letters
    (token : Token)
    (letters : List Char)
    (rest : List Symbol) :
    scanName token letters (letters.map some ++ rest) = some (token, rest) := by
  rw [scanName, scanWord_eq_some_iff.2 rfl]
  rfl

/-- A token is read from a spelling of it that is over where the rest begins. -/
theorem tokens_isSpelled
    {token : Token}
    {part rest : List Symbol}
    (isSpelled : token.IsSpelled part)
    (ends : token.IsNumber → EndsNumeral rest) :
    tokens (part ++ rest) = token :: tokens rest := by
  cases isSpelled with
  | mark isMark => exact tokens_mark (isSpace_of_isMark isMark) isMark rest
  | word isWord =>
      simp only [wordTokens, List.mem_cons, Prod.mk.injEq, List.not_mem_nil, or_false] at isWord
      rcases isWord with ⟨rfl, rfl⟩ | ⟨rfl, rfl⟩ | ⟨rfl, rfl⟩
      · exact tokens_long (by decide) (by decide) (scanName_letters .null ['u', 'l', 'l'] rest)
      · exact tokens_long (by decide) (by decide)
          (scanName_letters (.bool true) ['r', 'u', 'e'] rest)
      · exact tokens_long (by decide) (by decide)
          (scanName_letters (.bool false) ['a', 'l', 's', 'e'] rest)
  | @number negative numeral text spells =>
      have scanned := scanNumber_spelled spells (ends ⟨numeral, rfl⟩)
      cases negative with
      | true =>
          apply tokens_long (by decide) (by decide)
          rw [scanLong, if_neg (by decide), if_neg (by decide), if_neg (by decide),
            if_neg (by decide)]
          exact congrArg (Option.map _) scanned
      | false =>
          cases spells with
          | @intro whole fraction exponent power nonempty noLeadingZero spellsExponent =>
              obtain ⟨first, digits, rfl⟩ := List.exists_cons_of_ne_nil nonempty
              obtain ⟨dark, noMark⟩ := dark_digit first
              apply tokens_long dark noMark
              rw [scanLong_digit]
              exact congrArg (Option.map _) scanned
  | @text pieces inside spells =>
      have scanned :
          scanText (inside ++ some '"' :: rest) =
            some (.text ((Piece.assemble pieces).map String.ofList), rest) := by
        rw [scanText, scanPieces_eq_some_iff.2 ⟨inside, spells, rfl⟩]
        rfl
      rw [List.cons_append, List.append_assoc]
      exact tokens_long (by decide) (by decide) scanned

theorem exists_of_scanName
    {word token : Token}
    {letters : List Char}
    {first : Char}
    {input rest : List Symbol}
    (isWord : (word, String.ofList (first :: letters)) ∈ wordTokens)
    (scanned : scanName word letters input = some (token, rest)) :
    ∃ part,
      token.IsSpelled part ∧ some first :: input = part ++ rest ∧
        (token.IsNumber → EndsDigits rest) := by
  simp only [scanName, Option.map_eq_some_iff] at scanned
  obtain ⟨remaining, scannedWord, equal⟩ := scanned
  cases equal
  rw [scanWord_eq_some_iff] at scannedWord
  refine ⟨_, .word isWord, ?_, ?_⟩
  · rw [scannedWord, Text.symbols, String.toList_ofList]
    rfl
  · rintro ⟨numeral, rfl⟩
    simp [wordTokens] at isWord

/-- Every token that is scanned is spelled in one of the ways to do so. -/
theorem exists_of_scanToken
    {first : Char}
    {input rest : List Symbol}
    {token : Token}
    (scanned : scanToken first input = some (token, rest)) :
    ∃ part,
      token.IsSpelled part ∧ some first :: input = part ++ rest ∧
        (token.IsNumber → EndsDigits rest) := by
  unfold scanToken at scanned
  split at scanned
  · next isMark =>
      cases scanned
      refine ⟨_, .mark isMark, rfl, ?_⟩
      rintro ⟨numeral, rfl⟩
      unfold Token.ofMark? at isMark
      split_ifs at isMark <;> cases isMark
  unfold scanLong at scanned
  split at scanned
  · next isQuote =>
      simp only [scanText, Option.map_eq_some_iff, Prod.exists] at scanned
      obtain ⟨pieces, remaining, scannedPieces, equal⟩ := scanned
      cases equal
      obtain ⟨inside, spells, rfl⟩ := scanPieces_eq_some_iff.1 scannedPieces
      refine ⟨_, .text spells, ?_, ?_⟩
      · rw [isQuote, List.cons_append, List.append_assoc]
        rfl
      · rintro ⟨numeral, same⟩
        cases same
  split at scanned
  · next isLetter => exact isLetter ▸ exists_of_scanName (by decide) scanned
  split at scanned
  · next isLetter => exact isLetter ▸ exists_of_scanName (by decide) scanned
  split at scanned
  · next isLetter => exact isLetter ▸ exists_of_scanName (by decide) scanned
  simp only [Option.map_eq_some_iff, Prod.exists] at scanned
  obtain ⟨numeral, remaining, scannedNumber, equal⟩ := scanned
  cases equal
  split at scannedNumber
  · next isMinus =>
      obtain ⟨text, spells, rfl, ends⟩ := exists_of_scanNumber scannedNumber
      exact ⟨_, .number spells, by rw [isMinus]; rfl, fun _ => ends⟩
  · obtain ⟨text, spells, same, ends⟩ := exists_of_scanNumber scannedNumber
    exact ⟨_, .number spells, same, fun _ => ends⟩

/-- No token starts with a point or with the letter of an exponent. -/
theorem tokens_of_continuesNumeral
    {first : Char}
    (noDigit : Digit.ofChar? first = none)
    (continues : continuesNumeral first = true)
    (others : List Symbol) :
    tokens (some first :: others) = [.malformed] := by
  have inNumeral : first = '.' ∨ first = 'e' ∨ first = 'E' := by
    simpa [continuesNumeral, noDigit, or_assoc] using continues
  rcases inNumeral with rfl | rfl | rfl
  all_goals
    rw [tokens, if_neg (by decide)]
    split
    · rfl
    · next scanned => cases scanned

theorem endsNumeral_of_tokens
    {rest : List Symbol}
    (ends : EndsDigits rest)
    (wellFormed : .malformed ∉ tokens rest) :
    EndsNumeral rest := by
  match rest with
  | [] => trivial
  | none :: _ => trivial
  | some first :: others =>
      apply Bool.eq_false_iff.2
      intro continues
      rw [tokens_of_continuesNumeral ends continues] at wellFormed
      exact wellFormed List.mem_cons_self

/-- A text has certain tokens exactly when it spells them. -/
theorem tokens_eq_iff
    {spelled : List Token}
    (wellFormed : .malformed ∉ spelled)
    {text : List Symbol} :
    tokens text = spelled ↔ SpellsTokens spelled text := by
  constructor
  · intro same
    fun_induction tokens text generalizing spelled with
    | case1 =>
        cases same
        exact .nil
    | case2 =>
        cases same
        exact absurd List.mem_cons_self wellFormed
    | case3 first rest isSpace inductionHypothesis =>
        exact .space isSpace (inductionHypothesis wellFormed same)
    | case4 first rest notSpace notScanned =>
        cases same
        exact absurd List.mem_cons_self wellFormed
    | case5 first rest notSpace token remaining scanned inductionHypothesis =>
        cases same
        have othersWellFormed := List.not_mem_of_not_mem_cons wellFormed
        obtain ⟨part, isSpelled, split, ends⟩ := exists_of_scanToken scanned
        rw [split]
        exact .token isSpelled
          (fun isNumber => endsNumeral_of_tokens (ends isNumber) othersWellFormed)
          (inductionHypothesis othersWellFormed rfl)
  · intro spells
    induction spells with
    | nil => rw [tokens]
    | space isSpace others inductionHypothesis =>
        rw [tokens_space isSpace]
        exact inductionHypothesis wellFormed
    | token first ends others inductionHypothesis =>
        rw [tokens_isSpelled first ends, inductionHypothesis (List.not_mem_of_not_mem_cons wellFormed)]

theorem malformed_not_mem_bracketedTokens
    {opening closing : Token}
    (opens : opening ≠ .malformed)
    (closes : closing ≠ .malformed)
    {parts : List (List Token)}
    (wellFormed : ∀ part ∈ parts, .malformed ∉ part) :
    .malformed ∉ bracketedTokens opening closing parts := by
  cases parts with
  | nil => simp [bracketedTokens, opens.symm, closes.symm]
  | cons first others =>
      have firstWellFormed := wellFormed first List.mem_cons_self
      have othersWellFormed (part) (member : part ∈ others) : .malformed ∉ part :=
        wellFormed part (List.mem_cons_of_mem first member)
      rw [bracketedTokens, flatten_intersperse_cons]
      simpa [opens.symm, closes.symm, firstWellFormed] using othersWellFormed

/-- The tokens of a value are tokens indeed. -/
theorem malformed_not_mem_toTokens (value : Json) : .malformed ∉ toTokens value := by
  induction value with
  | null => decide
  | bool value => simp [toTokens]
  | number numeral => simp [toTokens]
  | text content => simp [toTokens]
  | array items inductionHypothesis =>
      rw [toTokens, itemTokens_eq_map]
      apply malformed_not_mem_bracketedTokens (by decide) (by decide)
      intro part member
      obtain ⟨item, inItems, rfl⟩ := List.mem_map.1 member
      exact inductionHypothesis item inItems
  | object members inductionHypothesis =>
      rw [toTokens, memberTokens_eq_map]
      apply malformed_not_mem_bracketedTokens (by decide) (by decide)
      intro part inParts
      obtain ⟨member, inMembers, rfl⟩ := List.mem_map.1 inParts
      simpa using inductionHypothesis member inMembers

/-- The text spells a value: its tokens, in any of the ways to spell them. -/
def IsTextOf (text : List Symbol) (value : Json) : Prop :=
  SpellsTokens (toTokens value) text

/-- A text is read as a value exactly when it spells this value. -/
theorem read_eq_some_iff_isTextOf
    {text : List Symbol}
    {value : Json} :
    read text = some value ↔ IsTextOf text value := by
  rw [read_eq_some_iff, tokens_eq_iff (malformed_not_mem_toTokens value), IsTextOf]

end Json
end FaultFinder
