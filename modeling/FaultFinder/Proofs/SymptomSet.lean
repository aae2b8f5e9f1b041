import FaultFinder.SymptomSet
import Mathlib.Data.Finset.Card

/-!
# What a set of symptoms holds

A set holds the names that were ever added to it, each of them once.  How often
and in which order they were added does not show: sets that hold the same names
are equal.
-/

namespace FaultFinder
namespace SymptomSet

theorem contains_iff
    (observed : SymptomSet)
    (symptom : String) :
    observed.contains symptom = true ↔ symptom ∈ observed.toList :=
  List.contains_iff_mem

theorem mem_adding_iff
    {symptom name : String}
    {set : SymptomSet} :
    name ∈ (set.adding symptom).toList ↔ name = symptom ∨ name ∈ set.toList :=
  mem_insertInto

theorem mem_foldl_adding_iff
    {symptom : String}
    (symptoms : List String)
    (set : SymptomSet) :
    symptom ∈ (symptoms.foldl adding set).toList ↔ symptom ∈ symptoms ∨ symptom ∈ set.toList := by
  induction symptoms generalizing set with
  | nil => simp
  | cons first rest inductionHypothesis =>
      rw [List.foldl_cons, inductionHypothesis, mem_adding_iff, List.mem_cons]
      exact or_left_comm.trans or_assoc.symm

theorem mem_ofList_iff
    {symptom : String}
    {symptoms : List String} :
    symptom ∈ (ofList symptoms).toList ↔ symptom ∈ symptoms := by
  rw [ofList, mem_foldl_adding_iff]
  simp [empty]

theorem nodup_toList (set : SymptomSet) : set.toList.Nodup := by
  apply set.ascending.imp
  rintro symptom _ less rfl
  exact String.lt_irrefl symptom less

/-- Sets with the same members are equal, since there is one ascending list of them. -/
theorem eq_of_mem_iff
    {left right : SymptomSet}
    (same : ∀ symptom, symptom ∈ left.toList ↔ symptom ∈ right.toList) :
    left = right := by
  have permuted : left.toList.Perm right.toList :=
    (List.perm_ext_iff_of_nodup left.nodup_toList right.nodup_toList).2 same
  have equal : left.toList = right.toList := by
    refine List.Perm.eq_of_pairwise ?_ left.ascending right.ascending permuted
    intro first second _ _ before behind
    exact absurd behind (String.lt_asymm before)
  cases left
  cases right
  simp only at equal
  subst equal
  rfl

/-! ## Sets and how they have come about -/

/-- How a set has come about. -/
inductive Construction where
  /-- The set starts without members. -/
  | empty
  /-- The set starts with the names in a list. -/
  | collected (symptoms : List String)
  /-- A name was added to an earlier set. -/
  | inserted (earlier : Construction) (symptom : String)

namespace Construction

/-- The set that has come about. -/
def set : Construction → SymptomSet
  | .empty => .empty
  | .collected symptoms => .ofList symptoms
  | .inserted earlier symptom => (earlier.set.insert symptom).2

/-- The names that were ever added, in their order and with repetitions. -/
def added : Construction → List String
  | .empty => []
  | .collected symptoms => symptoms
  | .inserted earlier symptom => earlier.added ++ [symptom]

/-- A set holds the names that were ever added to it. -/
theorem mem_set_iff
    {construction : Construction}
    {symptom : String} :
    symptom ∈ construction.set.toList ↔ symptom ∈ construction.added := by
  induction construction with
  | empty => exact Iff.rfl
  | collected symptoms => exact mem_ofList_iff
  | inserted earlier last inductionHypothesis =>
      rw [added, List.mem_append, List.mem_singleton, ← inductionHypothesis, or_comm]
      exact mem_adding_iff

end Construction

/-- A set behaves as the finite set of the names that were added to it. -/
structure HoldsExactly (set : SymptomSet) (added : List String) : Prop where
  /-- It contains the added names. -/
  contains : ∀ symptom, set.contains symptom = true ↔ symptom ∈ added
  /-- A name that is inserted is new when it was not contained before. -/
  isNew : ∀ symptom, (set.insert symptom).1 = true ↔ set.contains symptom = false
  /-- It has as many members as different names were added. -/
  size : set.size = added.toFinset.card
  /-- It is empty when no name was added. -/
  isEmpty : set.isEmpty = true ↔ added = []

theorem holdsExactly_of_mem_iff
    {set : SymptomSet}
    {added : List String}
    (same : ∀ symptom, symptom ∈ set.toList ↔ symptom ∈ added) :
    set.HoldsExactly added := by
  refine
    { contains := ?contains
      isNew := ?isNew
      size := ?size
      isEmpty := ?isEmpty }
  case contains =>
      intro symptom
      rw [contains_iff, same]
  case isNew =>
      intro symptom
      rw [insert, Bool.not_eq_true']
  case size =>
      have members : set.toList.toFinset = added.toFinset := by
        ext symptom
        rw [List.mem_toFinset, List.mem_toFinset, same]
      rw [← members, List.toFinset_card_of_nodup set.nodup_toList, SymptomSet.size]
  case isEmpty =>
      rw [SymptomSet.isEmpty, List.isEmpty_iff, List.eq_nil_iff_forall_not_mem,
        List.eq_nil_iff_forall_not_mem]
      simp only [same]

theorem eq_iff_contains
    {left right : SymptomSet} :
    left = right ↔ ∀ symptom, left.contains symptom = right.contains symptom := by
  constructor
  · rintro rfl symptom
    rfl
  · intro same
    apply eq_of_mem_iff
    intro symptom
    rw [← contains_iff, ← contains_iff, same]

end SymptomSet
end FaultFinder
