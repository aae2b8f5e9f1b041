import FaultFinder.Setting.Json
import Mathlib.Data.List.Nodup

/-!
# Distinct names

No table that is read from a text has two members of the same name, at any
depth.
-/

namespace FaultFinder

/-- No two members have the same name. -/
def HasDistinctNames {α : Type} (members : List (String × α)) : Prop :=
  (members.map (·.1)).Nodup

/-- The names of the members are distinct, and their values have a property. -/
structure AreNamed {α : Type} (IsGood : α → Prop) (members : List (String × α)) : Prop where
  /-- The names are distinct. -/
  distinct : HasDistinctNames members
  /-- The values have the property. -/
  values : ∀ member ∈ members, IsGood member.2

/-- Replace or add the value with a name. -/
def putNamed {α : Type} (name : String) (value : α) : List (String × α) → List (String × α)
  | [] => [(name, value)]
  | (first, old) :: rest =>
      if first = name then (name, value) :: rest else (first, old) :: putNamed name value rest

section Members

variable {α : Type} {IsGood : α → Prop} {members : List (String × α)} {name : String} {value : α}

theorem AreNamed.nil : AreNamed IsGood [] :=
  ⟨List.nodup_nil, List.forall_mem_nil _⟩

/-- A value with a new name may be added at the end. -/
theorem AreNamed.append
    (named : AreNamed IsGood members)
    (absent : name ∉ members.map (·.1))
    (good : IsGood value) :
    AreNamed IsGood (members ++ [(name, value)]) where
  distinct := by
    rw [HasDistinctNames, List.map_append]
    exact List.Nodup.append named.distinct (List.nodup_singleton _) (by simpa using absent)
  values := List.forall_mem_append.2 ⟨named.values, List.forall_mem_singleton.2 good⟩

/-- Some of the members may be left out. -/
theorem AreNamed.filter (named : AreNamed IsGood members) (keep : String × α → Bool) :
    AreNamed IsGood (members.filter keep) where
  distinct := List.Nodup.sublist (List.filter_sublist.map _) named.distinct
  values member has := named.values member (List.mem_filter.1 has).1

/-- The names after putting a value are those before, with the new one at the end. -/
theorem names_putNamed (name : String) (value : α) (members : List (String × α)) :
    (putNamed name value members).map (·.1) =
      if name ∈ members.map (·.1) then members.map (·.1) else members.map (·.1) ++ [name] := by
  induction members with
  | nil => rfl
  | cons member rest inductionHypothesis =>
      by_cases here : member.1 = name
      · simp [putNamed, here]
      · have absent : name ≠ member.1 := fun same => here same.symm
        simp only [putNamed, if_neg here, List.map_cons, inductionHypothesis, List.mem_cons,
          absent, false_or]
        split <;> rfl

/-- A member after putting a value is the new one, or was there before. -/
theorem mem_putNamed {member : String × α} (has : member ∈ putNamed name value members) :
    member = (name, value) ∨ member ∈ members := by
  induction members with
  | nil => exact .inl (List.mem_singleton.1 has)
  | cons first rest inductionHypothesis =>
      rw [putNamed] at has
      split at has
      · exact (List.mem_cons.1 has).imp_right (List.mem_cons_of_mem _)
      · rcases List.mem_cons.1 has with rfl | has
        · exact .inr List.mem_cons_self
        · exact (inductionHypothesis has).imp_right (List.mem_cons_of_mem _)

/-- A value may be put under any name. -/
theorem AreNamed.putNamed (named : AreNamed IsGood members) (name : String) (good : IsGood value) :
    AreNamed IsGood (putNamed name value members) where
  distinct := by
    rw [HasDistinctNames, names_putNamed]
    split
    case isTrue => exact named.distinct
    case isFalse absent =>
      exact List.Nodup.append named.distinct (List.nodup_singleton _) (by simpa using absent)
  values member has := by
    rcases mem_putNamed has with rfl | has
    · exact good
    · exact named.values member has

end Members

namespace Setting

/-- In every table of a tree, the names are distinct. -/
inductive IsWellNamed : Setting → Prop where
  | unset : IsWellNamed .unset
  | bool (value : Bool) : IsWellNamed (.bool value)
  | integer (value : Int) : IsWellNamed (.integer value)
  | number (value : Binary64) : IsWellNamed (.number value)
  | text (value : String) : IsWellNamed (.text value)
  | list {items : List Setting} : (∀ item ∈ items, IsWellNamed item) → IsWellNamed (.list items)
  | table {members : List (String × Setting)} :
      HasDistinctNames members → (∀ member ∈ members, IsWellNamed member.2) →
      IsWellNamed (.table members)

/-- A table is well named when its names are distinct and its values are well named. -/
theorem isWellNamed_table_iff {members : List (String × Setting)} :
    IsWellNamed (.table members) ↔ AreNamed IsWellNamed members := by
  constructor
  · rintro (_ | _ | _ | _ | _ | _ | ⟨distinct, values⟩)
    exact ⟨distinct, values⟩
  · exact fun named => .table named.distinct named.values

theorem put_eq_putNamed (key : String) (value : Setting) (members : List (String × Setting)) :
    put key value members = putNamed key value members := by
  induction members with
  | nil => rfl
  | cons member rest inductionHypothesis => rw [put, putNamed, inductionHypothesis]

/-- The setting of a numeral has no tables. -/
theorem ofNumeral?_isWellNamed {numeral : Numeral} {setting : Setting}
    (found : ofNumeral? numeral = some setting) : setting.IsWellNamed := by
  unfold ofNumeral? at found
  grind [IsWellNamed]

mutual

/-- The setting that a JSON value is, is well named. -/
theorem ofJson?_isWellNamed {value : Json} {level : Nat} {setting : Setting}
    (found : ofJson? value level = some setting) : setting.IsWellNamed := by
  match value, level with
  | .null, _ =>
      rw [ofJson?] at found
      cases found
      exact .unset
  | .bool value, _ =>
      rw [ofJson?] at found
      cases found
      exact .bool value
  | .number numeral, _ => exact ofNumeral?_isWellNamed (by rwa [ofJson?] at found)
  | .text content, _ =>
      rw [ofJson?] at found
      obtain ⟨value, -, rfl⟩ := Option.map_eq_some_iff.1 found
      exact .text value
  | .array items, level + 1 =>
      rw [ofJson?] at found
      obtain ⟨settings, settings_eq, rfl⟩ := Option.map_eq_some_iff.1 found
      exact .list (itemsOfJson?_isWellNamed settings_eq)
  | .object members, level + 1 =>
      rw [ofJson?] at found
      obtain ⟨settings, settings_eq, rfl⟩ := Option.map_eq_some_iff.1 found
      exact isWellNamed_table_iff.2 (membersOfJson?_areNamed .nil settings_eq)
  | .array _, 0 => simp [ofJson?] at found
  | .object _, 0 => simp [ofJson?] at found

/-- The settings that JSON values are, are well named. -/
theorem itemsOfJson?_isWellNamed {items : List Json} {level : Nat} {settings : List Setting}
    (found : itemsOfJson? items level = some settings) :
    ∀ setting ∈ settings, setting.IsWellNamed := by
  match items with
  | [] =>
      rw [itemsOfJson?] at found
      cases found
      exact List.forall_mem_nil _
  | item :: items =>
      simp only [itemsOfJson?, Option.bind_eq_bind, Option.bind_eq_some_iff, Option.pure_def,
        Option.some.injEq] at found
      obtain ⟨setting, setting_eq, rest, rest_eq, rfl⟩ := found
      exact List.forall_mem_cons.2
        ⟨ofJson?_isWellNamed setting_eq, itemsOfJson?_isWellNamed rest_eq⟩

/-- Members that are added to well named ones are well named with them. -/
theorem membersOfJson?_areNamed {members : List (Option String × Json)} {level : Nat}
    {known settings : List (String × Setting)} (named : AreNamed IsWellNamed known)
    (found : membersOfJson? members level known = some settings) :
    AreNamed IsWellNamed settings := by
  match members with
  | [] =>
      rw [membersOfJson?] at found
      cases found
      exact named
  | (name, value) :: members =>
      simp only [membersOfJson?, Option.bind_eq_bind, Option.bind_eq_some_iff] at found
      obtain ⟨setting, setting_eq, key, -, rest_eq⟩ := found
      rw [put_eq_putNamed] at rest_eq
      exact membersOfJson?_areNamed (named.putNamed key (ofJson?_isWellNamed setting_eq)) rest_eq

end

/-- The members that a JSON text spells are well named. -/
theorem readJson_areNamed {text : String} {members : List (String × Setting)}
    (found : readJson text = some members) : AreNamed IsWellNamed members := by
  simp only [readJson, Option.bind_eq_bind, Option.bind_eq_some_iff] at found
  obtain ⟨value, -, setting, setting_eq, found⟩ := found
  have named := ofJson?_isWellNamed setting_eq
  split at found
  · cases found
    exact isWellNamed_table_iff.1 named
  · cases found

end Setting
end FaultFinder
