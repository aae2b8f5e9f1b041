import FaultFinder.Proofs.Text.Digits
import FaultFinder.Text.Number

/-!
# Characters of numbers

A text that spells a number, or the name of an infinity or of no number, has
letters, digits, signs and points only.
-/

namespace FaultFinder
namespace Text

/-- Whether a character can be part of a number or of a name. -/
def isNumeric (character : Char) : Bool :=
  character.isAlphanum || character = '+' || character = '-' || character = '.'

theorem isNumeric_of_ofChar?
    {character : Char}
    {digit : Digit}
    (isDigit : Digit.ofChar? character = some digit) :
    isNumeric character = true := by
  unfold Digit.ofChar? at isDigit
  split at isDigit
  · next bounds =>
      have digits : character.isDigit = true := by
        simpa [Char.isDigit, Char.le_def] using bounds
      simp [isNumeric, Char.isAlphanum, digits]
  · cases isDigit

/-- A character is a letter when its lower case is one. -/
theorem isNumeric_of_toLower
    {character : Char}
    (isLetter : character.toLower.isAlpha = true) :
    isNumeric character = true := by
  have letter : character.isAlpha = true := by
    unfold Char.toLower at isLetter
    split at isLetter
    · next bounds =>
        have isUpper : character.isUpper = true := decide_eq_true bounds
        exact Bool.or_eq_true_iff.2 (.inl isUpper)
    · exact isLetter
  simp [isNumeric, Char.isAlphanum, letter]

/-- What stands before the rest of a text are digits. -/
theorem isNumeric_takeDigits
    (limit : Nat)
    (text : List Char)
    (rest : (takeDigits limit text).2.all isNumeric = true) :
    text.all isNumeric = true := by
  induction limit, text using takeDigits.induct with
  | case1 limit first text digit isDigit digits remaining split inductionHypothesis =>
      rw [takeDigits, isDigit] at rest
      rw [List.all_cons, isNumeric_of_ofChar? isDigit, inductionHypothesis rest]
      rfl
  | case2 limit first remaining noDigit =>
      rw [takeDigits, noDigit] at rest
      exact rest
  | case3 limit text short =>
      rw [takeDigits] at rest
      · exact rest
      · exact short

theorem isNumeric_of_readDigits
    {text : List Char}
    {number : Nat}
    (isRead : readDigits text = some number) :
    text.all isNumeric = true := by
  have whole : (takeDigits text.length text).2 = [] := by
    unfold readDigits readNumber at isRead
    generalize takeDigits text.length text = taken at isRead ⊢
    rcases taken with ⟨_ | ⟨digit, digits⟩, _ | ⟨first, rest⟩⟩
    · rfl
    · cases isRead
    · rfl
    · cases isRead
  apply isNumeric_takeDigits text.length
  rw [whole]
  rfl

/-- What stands before the rest of a text is a sign. -/
theorem isNumeric_splitSign
    {text : List Char}
    (rest : (splitSign text).2.all isNumeric = true) :
    text.all isNumeric = true := by
  unfold splitSign at rest
  split at rest
  · rw [List.all_cons, rest]
    rfl
  · rw [List.all_cons, rest]
    rfl
  · exact rest

theorem isNumeric_of_readInteger
    {text : List Char}
    {value : Int}
    (isRead : readInteger text = some value) :
    text.all isNumeric = true := by
  simp only [readInteger, Option.bind_eq_bind, Option.bind_eq_some_iff] at isRead
  obtain ⟨_, ⟨number, isNumber, _⟩, _⟩ := isRead
  exact isNumeric_splitSign (isNumeric_of_readDigits isNumber)

theorem isNumeric_of_readExponent
    {text : List Char}
    {exponent : Int}
    (isRead : readExponent text = some exponent) :
    text.all isNumeric = true := by
  cases text with
  | nil => rfl
  | cons first rest =>
      simp only [readExponent] at isRead
      split at isRead
      · next isMark =>
          simp only [Option.bind_eq_bind, Option.bind_eq_some_iff] at isRead
          obtain ⟨_, ⟨number, isNumber, _⟩, _⟩ := isRead
          have numeric := isNumeric_splitSign (isNumeric_of_readDigits isNumber)
          have first : isNumeric first = true := by
            rcases isMark with rfl | rfl <;> rfl
          rw [List.all_cons, first, numeric]
          rfl
      · cases isRead

theorem isNumeric_of_map_readExponent
    {isBare : Prop}
    [Decidable isBare]
    {text : List Char}
    {number : Int → Binary64}
    {value : Binary64}
    (isRead : (if isBare then none else (readExponent text).map number) = some value) :
    text.all isNumeric = true := by
  split at isRead
  · cases isRead
  · obtain ⟨exponent, isExponent, _⟩ := Option.map_eq_some_iff.1 isRead
    exact isNumeric_of_readExponent isExponent

theorem isNumeric_of_map_toLower
    {text : List Char}
    {name : String}
    (isName : text.map Char.toLower = name.toList)
    (letters : name.toList.all Char.isAlpha = true) :
    text.all isNumeric = true := by
  rw [← isName, List.all_map] at letters
  rw [List.all_eq_true] at letters ⊢
  intro character member
  exact isNumeric_of_toLower (letters character member)

theorem isNumeric_of_readBinary64
    {text : List Char}
    {value : Binary64}
    (isRead : readBinary64 text = some value) :
    text.all isNumeric = true := by
  apply isNumeric_splitSign
  simp only [readBinary64] at isRead
  split at isRead
  · next isName =>
      rcases isName with isName | isName
      · exact isNumeric_of_map_toLower isName (by decide)
      · exact isNumeric_of_map_toLower isName (by decide)
  · split at isRead
    · next isName => exact isNumeric_of_map_toLower isName (by decide)
    · apply isNumeric_takeDigits (splitSign text).2.length
      split at isRead
      · next remaining split =>
          have numeric := isNumeric_takeDigits _ _ (isNumeric_of_map_readExponent isRead)
          rw [split, List.all_cons, numeric]
          rfl
      · exact isNumeric_of_map_readExponent isRead

end Text
end FaultFinder
