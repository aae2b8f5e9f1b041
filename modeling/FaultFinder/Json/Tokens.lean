import FaultFinder.Json.Token

/-!
# JSON texts as tokens

Every scan leaves a rest that is no longer than its input, and a token takes at
least one symbol.  So a text is split into tokens from the left until it ends
or has a place that is no token.
-/

namespace FaultFinder
namespace Json

open Text (Symbol)

theorem length_scanPieces
    {input rest : List Symbol}
    {pieces : List Piece}
    (scanned : scanPieces input = some (pieces, rest)) :
    rest.length < input.length := by
  fun_induction scanPieces input generalizing pieces rest with
  | case1 => cases scanned
  | case2 remaining inductionHypothesis =>
    simp only [Option.bind_eq_bind, Option.bind_eq_some_iff, Prod.exists] at scanned
    obtain ⟨_, _, scannedRest, equal⟩ := scanned
    cases equal
    have shorter := inductionHypothesis scannedRest
    simp only [List.length_cons]
    omega
  | case3 =>
    cases scanned
    simp
  | case4 _ _ _ _ _ _ inductionHypothesis =>
    simp only [Option.bind_eq_bind, Option.bind_eq_some_iff, Prod.exists] at scanned
    obtain ⟨_, _, _, _, scannedRest, equal⟩ := scanned
    cases equal
    have shorter := inductionHypothesis scannedRest
    simp only [List.length_cons]
    omega
  | case5 _ _ _ _ inductionHypothesis =>
    simp only [Option.bind_eq_bind, Option.bind_eq_some_iff, Prod.exists] at scanned
    obtain ⟨_, _, _, _, scannedRest, equal⟩ := scanned
    cases equal
    have shorter := inductionHypothesis scannedRest
    simp only [List.length_cons]
    omega
  | case6 => cases scanned
  | case7 => cases scanned
  | case8 _ _ _ _ _ inductionHypothesis =>
    simp only [Option.bind_eq_bind, Option.bind_eq_some_iff, Prod.exists] at scanned
    obtain ⟨_, _, scannedRest, equal⟩ := scanned
    cases equal
    have shorter := inductionHypothesis scannedRest
    simp only [List.length_cons]
    omega

theorem length_scanDigits (input : List Symbol) :
    (scanDigits input).1.length + (scanDigits input).2.length = input.length := by
  fun_induction scanDigits input with
  | case1 character remaining digit isDigit digits rest equal inductionHypothesis =>
    rw [equal] at inductionHypothesis
    simp only [List.length_cons] at inductionHypothesis ⊢
    omega
  | case2 => simp
  | case3 => simp

theorem length_scanWhole
    {input rest : List Symbol}
    {whole : Nat}
    (scanned : scanWhole input = some (whole, rest)) :
    rest.length < input.length := by
  have total := length_scanDigits input
  unfold scanWhole at scanned
  split at scanned
  · cases scanned
  · next digits remaining someDigits equal =>
    split at scanned
    · cases scanned
    · cases scanned
      rw [equal] at total
      have positive : 0 < digits.length :=
        List.length_pos_iff.2 someDigits
      simp only at total
      omega

theorem length_scanFraction
    {input rest : List Symbol}
    {fraction : List Digit}
    (scanned : scanFraction input = some (fraction, rest)) :
    rest.length ≤ input.length := by
  unfold scanFraction at scanned
  split at scanned
  · next remaining =>
    have total := length_scanDigits remaining
    split at scanned
    · cases scanned
    · next equal =>
      cases scanned
      rw [equal] at total
      simp only [List.length_cons] at total ⊢
      omega
  · cases scanned
    exact Nat.le_refl _

theorem length_scanExponentSign (input : List Symbol) :
    (scanExponentSign input).2.length ≤ input.length := by
  unfold scanExponentSign
  split <;> simp

theorem length_scanExponentValue
    {input rest : List Symbol}
    {exponent : Int}
    (scanned : scanExponentValue input = some (exponent, rest)) :
    rest.length ≤ input.length := by
  have signed := length_scanExponentSign input
  have total := length_scanDigits (scanExponentSign input).2
  unfold scanExponentValue at scanned
  simp only at scanned
  split at scanned
  · cases scanned
  · next equal =>
    cases scanned
    rw [equal] at total
    simp only at total
    omega

theorem length_scanExponent
    {input rest : List Symbol}
    {exponent : Option Int}
    (scanned : scanExponent input = some (exponent, rest)) :
    rest.length ≤ input.length := by
  unfold scanExponent at scanned
  split at scanned
  · simp only [Option.bind_eq_bind, Option.bind_eq_some_iff, Prod.exists] at scanned
    obtain ⟨_, _, scannedValue, equal⟩ := scanned
    cases equal
    have shorter := length_scanExponentValue scannedValue
    simp only [List.length_cons]
    omega
  · simp only [Option.bind_eq_bind, Option.bind_eq_some_iff, Prod.exists] at scanned
    obtain ⟨_, _, scannedValue, equal⟩ := scanned
    cases equal
    have shorter := length_scanExponentValue scannedValue
    simp only [List.length_cons]
    omega
  · cases scanned
    exact Nat.le_refl _

theorem length_scanNumber
    {negative : Bool}
    {input rest : List Symbol}
    {numeral : Numeral}
    (scanned : scanNumber negative input = some (numeral, rest)) :
    rest.length < input.length := by
  simp only [scanNumber, Option.bind_eq_bind, Option.bind_eq_some_iff, Prod.exists] at scanned
  obtain ⟨_, _, scannedWhole, _, _, scannedFraction, _, _, scannedExponent, equal⟩ := scanned
  cases equal
  have wholeShorter := length_scanWhole scannedWhole
  have fractionShorter := length_scanFraction scannedFraction
  have exponentShorter := length_scanExponent scannedExponent
  omega

theorem length_scanWord
    {letters : List Char}
    {input rest : List Symbol}
    (scanned : scanWord letters input = some rest) :
    rest.length ≤ input.length := by
  fun_induction scanWord letters input with
  | case1 =>
    cases scanned
    exact Nat.le_refl _
  | case2 _ _ _ inductionHypothesis =>
    have shorter := inductionHypothesis scanned
    simp only [List.length_cons]
    omega
  | case3 => cases scanned
  | case4 => cases scanned

theorem length_scanText
    {input rest : List Symbol}
    {token : Token}
    (scanned : scanText input = some (token, rest)) :
    rest.length ≤ input.length := by
  simp only [scanText, Option.map_eq_some_iff, Prod.exists] at scanned
  obtain ⟨_, _, scannedPieces, equal⟩ := scanned
  cases equal
  exact Nat.le_of_lt (length_scanPieces scannedPieces)

theorem length_scanName
    {token word : Token}
    {letters : List Char}
    {input rest : List Symbol}
    (scanned : scanName word letters input = some (token, rest)) :
    rest.length ≤ input.length := by
  simp only [scanName, Option.map_eq_some_iff] at scanned
  obtain ⟨_, scannedWord, equal⟩ := scanned
  cases equal
  exact length_scanWord scannedWord

theorem length_scanLong
    {first : Char}
    {input rest : List Symbol}
    {token : Token}
    (scanned : scanLong first input = some (token, rest)) :
    rest.length ≤ input.length := by
  unfold scanLong at scanned
  split at scanned
  · exact length_scanText scanned
  split at scanned
  · exact length_scanName scanned
  split at scanned
  · exact length_scanName scanned
  split at scanned
  · exact length_scanName scanned
  simp only [Option.map_eq_some_iff, Prod.exists] at scanned
  obtain ⟨_, _, scannedNumber, equal⟩ := scanned
  cases equal
  split at scannedNumber
  · exact Nat.le_of_lt (length_scanNumber scannedNumber)
  · have shorter := length_scanNumber scannedNumber
    simp only [List.length_cons] at shorter
    omega

theorem length_scanToken
    {first : Char}
    {input rest : List Symbol}
    {token : Token}
    (scanned : scanToken first input = some (token, rest)) :
    rest.length ≤ input.length := by
  unfold scanToken at scanned
  split at scanned
  · cases scanned
    exact Nat.le_refl _
  · exact length_scanLong scanned

/-- The tokens of a text. -/
def tokens : List Symbol → List Token
  | [] => []
  | none :: _ => [.malformed]
  | some first :: rest =>
    if isSpace first then tokens rest
    else
      match _scanned : scanToken first rest with
      | none => [.malformed]
      | some (token, remaining) => token :: tokens remaining
termination_by input => input.length
decreasing_by
  · simp
  · have shorter := length_scanToken _scanned
    simp only [List.length_cons]
    omega

end Json
end FaultFinder
