import FaultFinder.Proofs.Setting.Merge
import FaultFinder.Setting.Path

/-!
# Placing settings along paths

A path begins with a name, and a value placed along it changes the member with
this name only.  A name without points and brackets is a path of one step, so
laying a table with such names over another one merges the two.

Trees of settings have two levels here: tables with sections, and the settings
in the sections.
-/

namespace FaultFinder
namespace Setting

/-- Whether a name is free of the characters that divide a path. -/
def IsPlainName (name : String) : Prop :=
  '.' ∉ name.toList ∧ '[' ∉ name.toList

instance (name : String) : Decidable (IsPlainName name) :=
  inferInstanceAs (Decidable (_ ∧ _))

/-- A step with its name in lower case, as the members of tables are looked up. -/
def Step.lowered : Step → Step
  | .key name => .key (lowerCase name)
  | .position index => .position index

/-- The steps that a key leads along, without regard to case. -/
def stepsOf (key : String) : List Step :=
  (pathOf key).map Step.lowered

/-- The setting with a name in a section of a tree. -/
def at? (setting : Setting) (part name : String) : Option Setting :=
  (member? setting.members part).bind fun inner => member? inner.members name

/-- A character that divides no path ends the reading of one. -/
theorem readSteps_eq_none
    {first : Char}
    (notPoint : first ≠ '.')
    (notBracket : first ≠ '[')
    (limit : Nat)
    (rest : List Char) :
    readSteps limit (first :: rest) = none := by
  cases limit <;> simp [readSteps, notPoint, notBracket]

/-- A plain name is a path of one step. -/
theorem pathOf_plain {name : String} (plain : IsPlainName name) :
    pathOf name = [.key name] := by
  rw [pathOf, readPath, readSteps]
  by_cases empty : (name.toList.takeWhile isNameChar).isEmpty = true
  · rw [if_pos empty]
    rfl
  rw [if_neg empty]
  cases remaining : name.toList.dropWhile isNameChar with
  | nil =>
      have whole : name.toList.takeWhile isNameChar = name.toList := by
        have parts : name.toList.takeWhile isNameChar ++ name.toList.dropWhile isNameChar =
            name.toList :=
          List.takeWhile_append_dropWhile
        rwa [remaining, List.append_nil] at parts
      cases size : name.length <;> simp [readSteps, whole]
  | cons first rest =>
      have member : first ∈ name.toList :=
        (List.dropWhile_sublist isNameChar).subset (remaining ▸ List.mem_cons_self)
      have notPoint : first ≠ '.' := fun same => plain.1 (same ▸ member)
      have notBracket : first ≠ '[' := fun same => plain.2 (same ▸ member)
      rw [readSteps_eq_none notPoint notBracket]
      rfl

/-- A path begins with a name. -/
theorem pathOf_eq_cons (key : String) : ∃ name steps, pathOf key = .key name :: steps := by
  rw [pathOf, readPath, readSteps]
  split
  · exact ⟨key, [], rfl⟩
  · cases readSteps key.length (key.toList.dropWhile isNameChar) with
    | none => exact ⟨key, [], rfl⟩
    | some steps => exact ⟨_, steps, rfl⟩

/-- What a value placed along a path makes of a tree. -/
theorem place_key (value : Setting) (name : String) (steps : List Step) (below : Setting) :
    place value (.key name :: steps) (some below) =
      .table
        (put (lowerCase name) (place value steps (member? below.members (lowerCase name)))
          below.members) := by
  rw [place]
  rfl

/-- A value placed along a path changes the member that the path begins with only. -/
theorem member?_place (value : Setting) (name : String) (steps : List Step) (below : Setting)
    (other : String) :
    member? (place value (.key name :: steps) (some below)).members other =
      if lowerCase name = other then
        some (place value steps (member? below.members (lowerCase name)))
      else member? below.members other := by
  rw [place_key]
  exact member?_put ..

/-- Members are placed one after the other. -/
theorem layOver_cons (below : Setting) (key : String) (value : Setting)
    (rest : List (String × Setting)) :
    layOver below ((key, value) :: rest) =
      layOver (place value (pathOf key) (some below)) rest :=
  rfl

/-- Laying a table with plain names over another one merges them. -/
theorem layOver_eq_membersOver
    {members : List (String × Setting)}
    (plain : ∀ member ∈ members, IsPlainName member.1)
    (known : List (String × Setting)) :
    layOver (.table known) members = membersOver (.table known) members := by
  induction members generalizing known with
  | nil => rw [membersOver]; rfl
  | cons member rest inductionHypothesis =>
      obtain ⟨name, value⟩ := member
      obtain ⟨here, plain⟩ := List.forall_mem_cons.1 plain
      rw [membersOver, ← inductionHypothesis plain, layOver_cons, pathOf_plain here, place_key,
        place]

end Setting
end FaultFinder
