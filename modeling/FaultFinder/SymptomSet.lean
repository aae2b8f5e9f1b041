/-!
# Sets of symptoms

A finite set of symptom names, kept as the list of its members in ascending
order of code points.  Since that list is unique, two sets are equal exactly
when they have the same members.
-/

namespace FaultFinder

/-- A finite set of symptom names. -/
structure SymptomSet where
  /-- The members. -/
  toList : List String
  /-- Each member is less than every later one. -/
  ascending : toList.Pairwise (· < ·)
  deriving DecidableEq

namespace SymptomSet

/-- A name put into its place in an ascending list, unless it is there. -/
def insertInto (symptom : String) : List String → List String
  | [] => [symptom]
  | first :: rest =>
    if symptom < first then symptom :: first :: rest
    else if symptom = first then first :: rest
    else first :: insertInto symptom rest

theorem mem_insertInto
    {name symptom : String}
    {names : List String} :
    name ∈ insertInto symptom names ↔ name = symptom ∨ name ∈ names := by
  induction names with
  | nil => simp [insertInto]
  | cons first rest inductionHypothesis =>
    simp only [insertInto]
    split
    · simp
    · split
      · next same => simp [same]
      · simp only [List.mem_cons, inductionHypothesis]
        exact or_left_comm

theorem pairwise_insertInto
    {names : List String}
    (ascending : names.Pairwise (· < ·))
    (symptom : String) :
    (insertInto symptom names).Pairwise (· < ·) := by
  induction names with
  | nil => simp [insertInto]
  | cons first rest inductionHypothesis =>
    obtain ⟨firstLess, restAscending⟩ := List.pairwise_cons.1 ascending
    simp only [insertInto]
    split
    · next less =>
      refine List.pairwise_cons.2 ⟨fun name member => ?_, ascending⟩
      rcases List.mem_cons.1 member with rfl | member
      · exact less
      · exact String.lt_trans less (firstLess name member)
    · next notLess =>
      split
      · exact ascending
      · next different =>
        refine List.pairwise_cons.2 ⟨fun name member => ?_, inductionHypothesis restAscending⟩
        rcases mem_insertInto.1 member with rfl | member
        · exact Decidable.byContradiction fun notGreater =>
            different (String.le_antisymm notGreater notLess)
        · exact firstLess name member

/-- The set without members. -/
def empty : SymptomSet :=
  ⟨[], List.Pairwise.nil⟩

/-- Whether a name is a member. -/
def contains (set : SymptomSet) (symptom : String) : Bool :=
  set.toList.contains symptom

/-- The number of members. -/
def size (set : SymptomSet) : Nat :=
  set.toList.length

/-- Whether there is no member. -/
def isEmpty (set : SymptomSet) : Bool :=
  set.toList.isEmpty

/-- The set with one more member. -/
def adding (set : SymptomSet) (symptom : String) : SymptomSet :=
  ⟨insertInto symptom set.toList, pairwise_insertInto set.ascending symptom⟩

/-- Add a name, and tell whether it is new. -/
def insert (set : SymptomSet) (symptom : String) : Bool × SymptomSet :=
  (!set.contains symptom, set.adding symptom)

/-- The set of the names in a list. -/
def ofList (symptoms : List String) : SymptomSet :=
  symptoms.foldl adding empty

end SymptomSet
end FaultFinder
