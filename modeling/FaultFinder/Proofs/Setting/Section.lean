import FaultFinder.Proofs.Setting.Path

/-!
# Settings in sections

What is found under a name of a section after a table of sections has been laid
over a tree, and after members have been placed along their paths.  A path that
is apart from the name leaves it as it is.
-/

namespace FaultFinder
namespace Setting

variable {below : Setting} {part name : String} {steps : List Step}

/-- A part of the tree is a table. -/
def HasSection (setting : Setting) (part : String) : Prop :=
  ∃ inner, member? setting.members part = some (.table inner)

/-- The setting with a name in a section, both in lower case. -/
def foldedAt? (members : List (String × Setting)) (part name : String) : Option Setting :=
  (folded? members part).bind fun inner => folded? inner.members name

/-- The value of the last member whose key leads to a name in a section. -/
def lastAt? (members : List (String × Setting)) (part name : String) : Option Setting :=
  members.reverse.findSome? fun (key, value) =>
    if stepsOf key = [.key part, .key name] then some value else none

/-- Whether a path leads to a position in a section, as if it were a list. -/
def leadsToPosition (part : String) : List Step → Bool
  | .key first :: .position _ :: _ => first = part
  | _ => false

/--
A path is apart from a name in a section: neither leads along the beginning of
the other, and the path does not use the section as a list.
-/
structure IsApart (part name : String) (steps : List Step) : Prop where
  /-- The path does not end on the way to the name. -/
  notShorter : ¬steps <+: [.key part, .key name]
  /-- The path does not begin with the way to the name. -/
  notLonger : ¬[.key part, .key name] <+: steps
  /-- The path does not lead to a position in the section. -/
  notPosition : leadsToPosition part steps = false

instance (part name : String) (steps : List Step) : Decidable (IsApart part name steps) :=
  decidable_of_iff
    (¬steps <+: [.key part, .key name] ∧ ¬[.key part, .key name] <+: steps ∧
      leadsToPosition part steps = false)
    ⟨fun ⟨shorter, longer, position⟩ => ⟨shorter, longer, position⟩,
      fun ⟨shorter, longer, position⟩ => ⟨shorter, longer, position⟩⟩

/-- A tree with a section is a table. -/
theorem HasSection.eq_table {setting : Setting} (has : setting.HasSection part) :
    ∃ members, setting = .table members := by
  obtain ⟨inner, found⟩ := has
  cases setting with
  | table members => exact ⟨members, rfl⟩
  | _ => cases found

/-- In a section, a name has the setting that its table has. -/
theorem at?_of_member?
    {setting : Setting}
    {inner : List (String × Setting)}
    (found : member? setting.members part = some (.table inner)) :
    at? setting part name = member? inner name := by
  rw [at?, found]
  rfl

/-- A section of the upper table is merged with the one below. -/
theorem member?_membersOver_section
    {members upper known inner : List (String × Setting)}
    (distinct : HasDistinctKeys members)
    (above : folded? members part = some (.table upper))
    (found : member? known part = some (.table inner)) :
    ∃ merged, membersOver (.table inner) upper = .table merged ∧
      member? (membersOver (.table known) members).members part = some (.table merged) := by
  obtain ⟨merged, merged_eq⟩ := membersOver_table upper inner
  refine ⟨merged, merged_eq, ?_⟩
  rw [member?_membersOver distinct, above, ← merged_eq]
  simp only [found, laidOver, Option.getD_some]

/-- A section of the upper table has its values laid over those below. -/
theorem at?_membersOver
    {members known : List (String × Setting)}
    (has : HasSection (.table known) part)
    (distinct : HasDistinctKeys members)
    (tables : ∀ setting, folded? members part = some setting →
      ∃ inner, setting = .table inner ∧ HasDistinctKeys inner) :
    HasSection (membersOver (.table known) members) part ∧
      at? (membersOver (.table known) members) part name =
        match foldedAt? members part name with
        | none => at? (.table known) part name
        | some value => some (laidOver (at? (.table known) part name) value) := by
  obtain ⟨inner, found⟩ := has
  rw [at?_of_member? found, foldedAt?]
  rw [members_table] at found
  cases above : folded? members part with
  | none =>
      have kept : member? (membersOver (.table known) members).members part =
          some (.table inner) := by
        rw [member?_membersOver distinct, above, found]
      exact ⟨⟨inner, kept⟩, at?_of_member? kept⟩
  | some setting =>
      obtain ⟨upper, rfl, upper_distinct⟩ := tables setting above
      obtain ⟨merged, merged_eq, merged_found⟩ := member?_membersOver_section distinct above found
      refine ⟨⟨merged, merged_found⟩, ?_⟩
      rw [at?_of_member? merged_found, ← members_table merged, ← merged_eq,
        member?_membersOver upper_distinct]
      rfl

/-- A path into a section changes one of its members. -/
theorem member?_place_section
    {inner : List (String × Setting)}
    (found : member? below.members part = some (.table inner))
    {first : String}
    (same : lowerCase first = part)
    (value : Setting)
    (second : String)
    (rest : List Step) :
    member? (place value (.key first :: .key second :: rest) (some below)).members part =
      some (.table
        (put (lowerCase second) (place value rest (member? inner (lowerCase second))) inner)) := by
  rw [member?_place, if_pos same, same, found, place_key]
  rfl

/-- A path to a name in a section changes the setting there. -/
theorem at?_place_self
    (has : HasSection below part)
    (leads : steps.map Step.lowered = [.key part, .key name])
    (value : Setting) :
    HasSection (place value steps (some below)) part ∧
      at? (place value steps (some below)) part name =
        some (laidOver (at? below part name) value) := by
  obtain ⟨inner, found⟩ := has
  match steps, leads with
  | [.key first, .key second], leads =>
      simp only [List.map_cons, List.map_nil, Step.lowered, List.cons.injEq, Step.key.injEq,
        and_true] at leads
      have placed := member?_place_section found leads.1 value second []
      refine ⟨⟨_, placed⟩, ?_⟩
      rw [at?_of_member? placed, at?_of_member? found, member?_put, if_pos leads.2, leads.2, place]

/-- A path that is apart from a name does not change the setting there. -/
theorem at?_place_of_isApart
    (has : HasSection below part)
    {first : String}
    {rest : List Step}
    (apart : IsApart part name ((.key first :: rest).map Step.lowered))
    (value : Setting) :
    HasSection (place value (.key first :: rest) (some below)) part ∧
      at? (place value (.key first :: rest) (some below)) part name = at? below part name := by
  obtain ⟨inner, found⟩ := has
  by_cases same : lowerCase first = part
  case neg =>
    have placed : member? (place value (.key first :: rest) (some below)).members part =
        some (.table inner) := by
      rw [member?_place, if_neg same, found]
    exact ⟨⟨inner, placed⟩, by rw [at?_of_member? placed, at?_of_member? found]⟩
  match rest, apart with
  | [], apart => exact absurd (by simp [Step.lowered, same]) apart.notShorter
  | .position position :: rest, apart =>
      exact absurd apart.notPosition (by simp [Step.lowered, leadsToPosition, same])
  | .key second :: rest, apart =>
      have other : lowerCase second ≠ name := by
        intro equal
        exact apart.notLonger (by simp [Step.lowered, same, equal])
      have placed := member?_place_section found same value second rest
      refine ⟨⟨_, placed⟩, ?_⟩
      rw [at?_of_member? placed, at?_of_member? found, member?_put, if_neg other]

theorem lastAt?_cons (key : String) (value : Setting) (rest : List (String × Setting))
    (part name : String) :
    lastAt? ((key, value) :: rest) part name =
      (lastAt? rest part name).or
        (if stepsOf key = [.key part, .key name] then some value else none) := by
  rw [lastAt?, List.reverse_cons, List.findSome?_append, List.findSome?_singleton, lastAt?]

/--
Members whose keys lead to a name or are apart from it: the last one that leads
to it gives the setting there.
-/
theorem at?_layOver
    {members : List (String × Setting)}
    (has : HasSection below part)
    (clear : ∀ member ∈ members,
      stepsOf member.1 = [.key part, .key name] ∨ IsApart part name (stepsOf member.1))
    (plain : ∀ member ∈ members, ∀ inner, member.2 ≠ .table inner) :
    HasSection (layOver below members) part ∧
      at? (layOver below members) part name =
        (lastAt? members part name).or (at? below part name) := by
  induction members generalizing below with
  | nil => exact ⟨has, rfl⟩
  | cons member rest inductionHypothesis =>
      obtain ⟨key, value⟩ := member
      obtain ⟨key_clear, clear⟩ := List.forall_mem_cons.1 clear
      obtain ⟨value_plain, plain⟩ := List.forall_mem_cons.1 plain
      rw [layOver_cons, lastAt?_cons, Option.or_assoc]
      by_cases leads : stepsOf key = [.key part, .key name]
      · obtain ⟨has', placed⟩ := at?_place_self has leads value
        rw [laidOver_of_ne_table value_plain] at placed
        rw [if_pos leads, Option.some_or, ← placed]
        exact inductionHypothesis has' clear plain
      · obtain ⟨first, steps, path_eq⟩ := pathOf_eq_cons key
        have apart := key_clear.resolve_left leads
        rw [stepsOf, path_eq] at apart
        obtain ⟨has', placed⟩ := at?_place_of_isApart has apart value
        rw [if_neg leads, Option.none_or, path_eq, ← placed]
        exact inductionHypothesis has' clear plain

end Setting
end FaultFinder
