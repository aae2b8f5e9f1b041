import FaultFinder.Setting
import Mathlib.Data.List.Nodup

/-!
# Merging tables of settings

What is found in a table after another one has been laid over it: every key of
the upper table has its value laid over the one below, and the others keep
theirs.
-/

namespace FaultFinder
namespace Setting

/-- Whether a setting is a table. -/
def isTable : Setting → Bool
  | .table _ => true
  | _ => false

/-- Whether a setting is a table without members. -/
def isEmptyTable : Setting → Bool
  | .table [] => true
  | _ => false

theorem eq_table_of_isTable {setting : Setting} (table : setting.isTable = true) :
    ∃ members, setting = .table members := by
  cases setting with
  | table members => exact ⟨members, rfl⟩
  | _ => cases table

/-- The setting whose key is the given one in lower case. -/
def folded? (members : List (String × Setting)) (key : String) : Option Setting :=
  (members.find? fun member => lowerCase member.1 = key).map (·.2)

/-- No two keys of the table are the same in lower case. -/
def HasDistinctKeys (members : List (String × Setting)) : Prop :=
  (members.map fun member => lowerCase member.1).Nodup

@[simp] theorem members_table (members : List (String × Setting)) :
    (Setting.table members).members = members :=
  rfl

theorem member?_cons (first key : String) (value : Setting) (rest : List (String × Setting)) :
    member? ((first, value) :: rest) key =
      if first = key then some value else member? rest key := by
  by_cases same : first = key <;> simp [member?, same]

theorem folded?_cons (first key : String) (value : Setting) (rest : List (String × Setting)) :
    folded? ((first, value) :: rest) key =
      if lowerCase first = key then some value else folded? rest key := by
  by_cases same : lowerCase first = key <;> simp [folded?, same]

/-- A key that is not in the table has no setting. -/
theorem folded?_eq_none
    {members : List (String × Setting)}
    {key : String}
    (missing : key ∉ members.map fun member => lowerCase member.1) :
    folded? members key = none := by
  simp only [List.mem_map, not_exists, not_and] at missing
  simpa [folded?] using fun first value member => missing (first, value) member

/-- Putting a value changes what is found under its own key only. -/
theorem member?_put (key : String) (value : Setting) (members : List (String × Setting))
    (other : String) :
    member? (put key value members) other =
      if key = other then some value else member? members other := by
  induction members with
  | nil => rw [put, member?_cons]
  | cons member rest inductionHypothesis =>
      obtain ⟨first, old⟩ := member
      rw [put]
      by_cases here : first = key
      · rw [if_pos here, member?_cons, member?_cons, here]
        by_cases same : key = other <;> simp [same]
      · rw [if_neg here, member?_cons, member?_cons, inductionHypothesis]
        by_cases same : first = other
        · rw [if_pos same, if_pos same, if_neg fun equal => here (same.trans equal.symm)]
        · rw [if_neg same, if_neg same]

/-- A table that other members are laid over stays a table. -/
theorem membersOver_table (members known : List (String × Setting)) :
    ∃ merged, membersOver (.table known) members = .table merged := by
  induction members generalizing known with
  | nil => exact ⟨known, by rw [membersOver]⟩
  | cons member rest inductionHypothesis => rw [membersOver]; exact inductionHypothesis _

/-- Everything but a table replaces what is below. -/
theorem laidOver_of_ne_table
    {value : Setting}
    (notTable : ∀ members, value ≠ .table members)
    (below : Option Setting) :
    laidOver below value = value := by
  cases value with
  | table members => exact absurd rfl (notTable members)
  | _ => rw [laidOver]

/-- What is laid over a setting as a table with members is a table. -/
theorem laidOver_table_cons (below : Option Setting) (member : String × Setting)
    (rest : List (String × Setting)) :
    ∃ merged, laidOver below (.table (member :: rest)) = .table merged := by
  rw [laidOver, membersOver]
  exact membersOver_table ..

/-- Every key of the upper table has its value laid over the one below. -/
theorem member?_membersOver
    {members : List (String × Setting)}
    (distinct : HasDistinctKeys members)
    (known : List (String × Setting))
    (key : String) :
    member? (membersOver (.table known) members).members key =
      match folded? members key with
      | none => member? known key
      | some value => some (laidOver (member? known key) value) := by
  induction members generalizing known with
  | nil => rw [membersOver]; rfl
  | cons member rest inductionHypothesis =>
      obtain ⟨first, value⟩ := member
      obtain ⟨fresh, distinct⟩ := List.nodup_cons.1 distinct
      rw [membersOver, inductionHypothesis distinct, folded?_cons, member?_put]
      by_cases same : lowerCase first = key
      · -- the key is new to the other members, so they leave the merged value alone
        rw [if_pos same, if_pos same, folded?_eq_none (same ▸ fresh)]
        simp only [members_table, same]
      · rw [if_neg same, if_neg same]
        rfl

end Setting
end FaultFinder
