import FaultFinder.Text.Digits

/-!
# Digits and the numbers that they spell

A number is written with its plain digits, of which the first is no zero unless
it is the only one.  Reading digits gives them back as long as the text goes on
with something else, or the reader has had as many as it takes.  What is read
element by element is read back when each element is.
-/

namespace FaultFinder

/-- Elements are read from what stands for them, one after the other. -/
theorem mapM_map_eq_some_map
    {α β γ : Type}
    {write : α → β}
    {read? : β → Option γ}
    {meaning : α → γ}
    {elements : List α}
    (reads : ∀ element ∈ elements, read? (write element) = some (meaning element)) :
    (elements.map write).mapM read? = some (elements.map meaning) := by
  induction elements with
  | nil => rfl
  | cons first rest inductionHypothesis =>
      have readsRest := inductionHypothesis fun element member =>
        reads element (List.mem_cons_of_mem first member)
      rw [List.map_cons, List.mapM_cons, reads first List.mem_cons_self, readsRest]
      rfl

/-- A list is read back when each of its elements is. -/
theorem mapM_map_eq_some
    {α β : Type}
    {write : α → β}
    {read? : β → Option α}
    {elements : List α}
    (reads : ∀ element ∈ elements, read? (write element) = some element) :
    (elements.map write).mapM read? = some elements := by
  have read : (elements.map write).mapM read? = some (elements.map id) :=
    mapM_map_eq_some_map reads
  rw [read, List.map_id]

namespace Digit

@[simp] theorem ofChar?_char (digit : Digit) : ofChar? digit.char = some digit := by
  revert digit
  decide

@[simp] theorem value_nil : value [] = 0 := rfl

theorem value_append_singleton
    (digits : List Digit)
    (last : Digit) :
    value (digits ++ [last]) = 10 * value digits + last.val := by
  simp [value]

/-- Leading zeros do not count. -/
theorem value_replicate_append
    (count : Nat)
    (digits : List Digit) :
    value (List.replicate count zero ++ digits) = value digits := by
  induction count with
  | zero => rfl
  | succ count inductionHypothesis =>
      rw [← inductionHypothesis]
      rfl

/-- The digits of a number, without leading zeros. -/
def plain (number : Nat) : List Digit :=
  if small : number < 10 then [⟨number, small⟩]
  else plain (number / 10) ++ [⟨number % 10, Nat.mod_lt _ (by omega)⟩]

theorem plain_of_lt
    {number : Nat}
    (small : number < 10) :
    plain number = [⟨number, small⟩] := by
  rw [plain, dif_pos small]

theorem plain_of_le
    {number : Nat}
    (large : 10 ≤ number) :
    plain number = plain (number / 10) ++ [⟨number % 10, Nat.mod_lt _ (by omega)⟩] := by
  rw [plain, dif_neg (Nat.not_lt.2 large)]

/-- A number is written with its plain digits. -/
theorem toDigits_eq_map_plain (number : Nat) :
    Nat.toDigits 10 number = (plain number).map char := by
  induction number using Nat.strongRecOn with
  | ind number inductionHypothesis =>
      by_cases small : number < 10
      · rw [plain_of_lt small, Nat.toDigits_of_lt_base small]
        rfl
      · have large : 10 ≤ number := Nat.not_lt.1 small
        rw [plain_of_le large, Nat.toDigits_of_base_le (by decide) large,
          inductionHypothesis (number / 10) (by omega), List.map_append]
        rfl

/-- The plain digits of a number spell it. -/
@[simp] theorem value_plain (number : Nat) : value (plain number) = number := by
  induction number using Nat.strongRecOn with
  | ind number inductionHypothesis =>
      by_cases small : number < 10
      · rw [plain_of_lt small]
        exact Nat.zero_add number
      · rw [plain_of_le (Nat.not_lt.1 small), value_append_singleton,
          inductionHypothesis (number / 10) (by omega)]
        exact Nat.div_add_mod number 10

@[simp] theorem length_plain (number : Nat) :
    (plain number).length = (Nat.toDigits 10 number).length := by
  rw [toDigits_eq_map_plain, List.length_map]

theorem plain_ne_nil (number : Nat) : plain number ≠ [] := by
  rw [← List.length_pos_iff, length_plain]
  exact Nat.length_toDigits_pos

/-- Of several plain digits the first one is no zero. -/
theorem length_plain_of_head?_eq_zero
    {number : Nat}
    (leading : (plain number).head? = some zero) :
    (plain number).length = 1 := by
  induction number using Nat.strongRecOn with
  | ind number inductionHypothesis =>
      by_cases small : number < 10
      · rw [plain_of_lt small]
        rfl
      · have large : 10 ≤ number := Nat.not_lt.1 small
        obtain ⟨first, rest, digits⟩ := List.exists_cons_of_ne_nil (plain_ne_nil (number / 10))
        have leadingPart : (plain (number / 10)).head? = some zero := by
          rw [plain_of_le large, digits] at leading
          rw [digits]
          exact leading
        have single := inductionHypothesis (number / 10) (by omega) leadingPart
        -- The shorter number is then a single zero, so the number itself is below ten.
        have below : number / 10 < 10 := by
          rw [length_plain] at single
          exact (Nat.length_toDigits_le_iff (by decide) (by decide)).1 (Nat.le_of_eq single)
        rw [plain_of_lt below] at leadingPart
        simp only [List.head?_cons, Option.some.injEq, zero, Fin.mk.injEq] at leadingPart
        omega

end Digit

namespace Text

/-- A text that does not go on with a digit. -/
def EndsDigits (text : List Char) : Prop :=
  text.head?.bind Digit.ofChar? = none

theorem takeDigits_map_append
    {digits : List Digit}
    {rest : List Char}
    {limit : Nat}
    (fits : digits.length ≤ limit)
    (ends : digits.length = limit ∨ EndsDigits rest) :
    takeDigits limit (digits.map Digit.char ++ rest) = (digits, rest) := by
  induction digits generalizing limit with
  | nil =>
      cases limit with
      | zero => simp [takeDigits]
      | succ limit =>
          have ended : EndsDigits rest := ends.resolve_left (by simp)
          cases rest with
          | nil => rfl
          | cons first rest =>
              have noDigit : Digit.ofChar? first = none := ended
              simp [takeDigits, noDigit]
  | cons first digits inductionHypothesis =>
      cases limit with
      | zero => simp at fits
      | succ limit =>
          simp only [List.length_cons, Nat.add_le_add_iff_right, Nat.add_right_cancel_iff]
            at fits ends
          simp [takeDigits, inductionHypothesis fits ends]

/-- A number is read from the digits that spell it. -/
theorem readNumber_map_append
    {digits : List Digit}
    {rest : List Char}
    {limit : Nat}
    (nonempty : digits ≠ [])
    (fits : digits.length ≤ limit)
    (ends : digits.length = limit ∨ EndsDigits rest) :
    readNumber limit (digits.map Digit.char ++ rest) = some (Digit.value digits, rest) := by
  rw [readNumber, takeDigits_map_append fits ends]
  cases digits with
  | nil => exact absurd rfl nonempty
  | cons first digits => rfl

@[simp] theorem hexDigit?_hexChar (digit : Fin 16) : hexDigit? (hexChar digit) = some digit := by
  revert digit
  decide

end Text
end FaultFinder
