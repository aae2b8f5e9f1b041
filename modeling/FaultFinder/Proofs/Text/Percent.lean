import FaultFinder.Proofs.Text.Utf8
import FaultFinder.Text.Percent
import Mathlib.Tactic.SplitIfs

/-!
# Texts without percent signs

A text without percent signs stands for itself: none of its bytes is that of a
percent sign, so all of them stay when they are decoded.
-/

namespace FaultFinder
namespace Text

/-- Bytes without that of a percent sign stand for themselves. -/
theorem percentDecode_of_not_mem
    {bytes : List UInt8}
    (plain : 37 ∉ bytes) :
    percentDecode bytes = bytes := by
  induction bytes using percentDecode.induct with
  | case1 => rfl
  | case2 first high low rest byte decoded _ =>
      have isOther : first ≠ 37 := fun same => plain (same ▸ List.mem_cons_self)
      rw [if_neg isOther] at decoded
      cases decoded
  | case3 first high low rest decoded inductionHypothesis =>
      rw [percentDecode, decoded, inductionHypothesis (List.not_mem_of_not_mem_cons plain)]
  | case4 first rest short inductionHypothesis =>
      rw [percentDecode, inductionHypothesis (List.not_mem_of_not_mem_cons plain)]
      exact short

/-- The byte of a percent sign encodes nothing else. -/
theorem eq_of_mem_utf8EncodeChar
    {character : Char}
    (member : 37 ∈ String.utf8EncodeChar character) :
    character = '%' := by
  simp only [String.utf8EncodeChar] at member
  -- In the encoding of several bytes each byte is at least 128.
  split_ifs at member with single
  · simp only [List.mem_singleton, ← UInt8.toNat_inj, UInt8.toNat_ofNat', UInt8.reduceToNat]
      at member
    have same : character.val.toNat = 37 := by omega
    exact Char.ext (UInt32.toNat_inj.1 same)
  all_goals
    simp only [List.mem_cons, List.not_mem_nil, or_false, ← UInt8.toNat_inj, UInt8.toNat_ofNat',
      UInt8.reduceToNat] at member
    omega

/-- The bytes of an array from a position on are collected in their order. -/
theorem toList_loop
    (bytes : ByteArray)
    (start : Nat)
    (collected : List UInt8) :
    ByteArray.toList.loop bytes start collected =
      collected.reverse ++ bytes.data.toList.drop start := by
  induction start, collected using ByteArray.toList.loop.induct bytes with
  | case1 start collected inside inductionHypothesis =>
      have next :
          bytes.data.toList.drop start =
            bytes.get! start :: bytes.data.toList.drop (start + 1) := by
        rw [List.drop_eq_getElem_cons inside, Array.getElem_toList]
        exact congrArg (· :: _) (getElem!_pos bytes.data start inside).symm
      rw [ByteArray.toList.loop, if_pos inside, inductionHypothesis, next, List.reverse_cons,
        List.append_assoc, List.singleton_append]
  | case2 start collected outside =>
      have atEnd : bytes.data.toList.length ≤ start := Nat.not_lt.1 outside
      rw [ByteArray.toList.loop, if_neg outside, List.drop_eq_nil_of_le atEnd, List.append_nil]

/-- A text without percent signs has its own characters as symbols. -/
theorem percentSymbols_of_not_mem
    {text : List Char}
    (plain : '%' ∉ text) :
    percentSymbols text = text.map some := by
  have bytes : (String.ofList text).toUTF8.toList = text.flatMap String.utf8EncodeChar := by
    rw [ByteArray.toList, toList_loop, List.reverse_nil, List.nil_append, List.drop_zero]
    exact List.toList_data_toByteArray
  have notMember : 37 ∉ (String.ofList text).toUTF8.toList := by
    rw [bytes, List.mem_flatMap]
    rintro ⟨character, member, encoded⟩
    exact plain (eq_of_mem_utf8EncodeChar encoded ▸ member)
  have decoded :
      (⟨(percentDecode (String.ofList text).toUTF8.toList).toArray⟩ : ByteArray) =
        (String.ofList text).toUTF8 := by
    rw [percentDecode_of_not_mem notMember, bytes]
    exact ByteArray.ext List.data_toByteArray.symm
  rw [percentSymbols, decoded, symbolsOfBytes_toUTF8, symbols, String.toList_ofList]

end Text
end FaultFinder
