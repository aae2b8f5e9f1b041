import FaultFinder.Proofs.Text.Digits
import FaultFinder.Uuid

/-!
# Reading identifiers back

Every identifier is read back from its text.  Hyphens are taken out where they
were put in, and each of the thirty-two digits is read as itself.
-/

namespace FaultFinder
namespace Uuid

/-- The number of digits in groups of the given sizes. -/
def totalSize : List Nat → Nat
  | [] => 0
  | size :: sizes => size + totalSize sizes

/-- The hyphens that were put into a text are taken out of it again. -/
theorem ungroup_group
    {sizes : List Nat}
    {text : List Char}
    (nonempty : sizes ≠ [])
    (total : text.length = totalSize sizes) :
    ungroup sizes (group sizes text) = some text := by
  induction sizes generalizing text with
  | nil => exact absurd rfl nonempty
  | cons size sizes inductionHypothesis =>
      cases sizes with
      | nil => simp [group, ungroup, total, totalSize]
      | cons next sizes =>
          have taken : (text.take size).length = size := by
            simp [total, totalSize]
          have remaining : (text.drop size).length = totalSize (next :: sizes) := by
            simp [total, totalSize]
          have dropped :
              (text.take size ++ '-' :: group (next :: sizes) (text.drop size)).drop size =
                '-' :: group (next :: sizes) (text.drop size) := by
            rw [List.drop_append_of_le_length (Nat.le_of_eq taken.symm),
              List.drop_of_length_le (Nat.le_of_eq taken), List.nil_append]
          have kept :
              (text.take size ++ '-' :: group (next :: sizes) (text.drop size)).take size =
                text.take size := by
            rw [List.take_append_of_le_length (Nat.le_of_eq taken.symm),
              List.take_of_length_le (Nat.le_of_eq taken)]
          rw [group, ungroup, dropped, kept, Text.expect]
          · rw [if_pos rfl]
            simp [inductionHypothesis (List.cons_ne_nil _ _) remaining]
          · simp
          · simp

/-- Each group but the first is preceded by a hyphen. -/
theorem length_group
    {sizes : List Nat}
    {text : List Char}
    (total : text.length = totalSize sizes) :
    (group sizes text).length = text.length + (sizes.length - 1) := by
  induction sizes generalizing text with
  | nil => simp [group]
  | cons size sizes inductionHypothesis =>
      cases sizes with
      | nil => simp [group]
      | cons next sizes =>
          have remaining : (text.drop size).length = totalSize (next :: sizes) := by
            simp [total, totalSize]
          rw [group]
          · simp only [List.length_append, List.length_cons, inductionHypothesis remaining,
              List.length_take, List.length_drop]
            simp [totalSize] at total
            omega
          · simp

theorem readBare_map_hexChar (id : Uuid) :
    readBare (id.digits.toList.map Text.hexChar) = some id := by
  have digits :
      (id.digits.toList.map Text.hexChar).mapM Text.hexDigit? = some id.digits.toList :=
    mapM_map_eq_some fun digit _ => Text.hexDigit?_hexChar digit
  obtain ⟨⟨array, size⟩⟩ := id
  simp only [Vector.toList_mk] at digits
  rw [readBare, Vector.toList_mk, digits]
  simp [ofDigits?, size]

/-- Every identifier is read back from its text. -/
theorem read_text (id : Uuid) : read id.text = some id := by
  have total : (id.digits.toList.map Text.hexChar).length = totalSize groupSizes := by
    simp [groupSizes, totalSize]
  have size : id.text.length = 36 := by
    rw [text, length_group total, total]
    rfl
  have grouped : readGrouped id.text = some id := by
    rw [readGrouped, text, ungroup_group (by decide) total]
    exact readBare_map_hexChar id
  rw [read, size]
  exact grouped

end Uuid
end FaultFinder
