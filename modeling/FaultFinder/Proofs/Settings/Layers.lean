import FaultFinder.Proofs.Setting.Names
import FaultFinder.Proofs.Settings.Key
import FaultFinder.Proofs.Toml.Names
import FaultFinder.Settings.Source

/-!
# Layers of settings

The sources are laid over each other as trees, but what is loaded can be said
for every known setting by itself: the environment decides, else the file, else
the usual value.  Only the value in force has to be convertible, and nothing
else in the sources matters.

Two things keep this from holding of all sources.  An empty table has nothing to
lay over a value, so in a file it counts as no value.  A variable can use a
section as a list, and replaces the section in this way.  And only a file that is
read can be found to be malformed: one that cannot be read counts as no file.
-/

namespace FaultFinder
namespace Settings

open Setting

/-! ## What the sources say about one setting -/

/-- What a file holds, if its text is well-formed; without a file this is nothing. -/
def contents? (file : Option SettingsFile) : Option (List (String × Setting)) :=
  (file.map SettingsFile.read).getD (some [])

/-- What the variables of an environment set, in their order. -/
def assignments (environment : List Variable) : List (String × Setting) :=
  environment.filterMap Variable.setting?

namespace Key

/-- The steps from the tree to a known setting. -/
def path (key : Key) : List Step :=
  [.key key.part, .key key.name]

/-- The value that a file gives a setting; an empty table is no value. -/
def inFile? (key : Key) (contents : List (String × Setting)) : Option Setting :=
  (foldedAt? contents key.part key.name).filter (!·.isEmptyTable)

/-- The value that the last variable for a setting gives it. -/
def inEnvironment? (key : Key) (environment : List Variable) : Option Setting :=
  lastAt? (assignments environment) key.part key.name

/-- The value in force: what the environment says, else what the file says. -/
def inForce? (key : Key) (contents : List (String × Setting)) (environment : List Variable) :
    Option Setting :=
  (key.inEnvironment? environment).or (key.inFile? contents)

/-- The value of a setting by itself: the value in force, converted, else the usual value. -/
def loaded? (key : Key) (contents : List (String × Setting)) (environment : List Variable) :
    Option key.Value :=
  entryOr key.meaning? key.usual (key.inForce? contents environment)

end Key

/-! ## Orderly sources -/

/-- No two keys differ by case only. -/
def HasNoCaseVariants (members : List (String × Setting)) : Prop :=
  ∀ first ∈ members, ∀ second ∈ members,
    lowerCase first.1 = lowerCase second.1 → first.1 = second.1

/-- The names in a file divide no paths, and its known sections are tables. -/
structure IsOrderly (contents : List (String × Setting)) : Prop where
  /-- The names divide no paths. -/
  plain : ∀ member ∈ contents, IsPlainName member.1
  /-- No two names differ by case only. -/
  noCaseVariants : HasNoCaseVariants contents
  /-- The known sections are tables, and no two names in them differ by case only. -/
  sections : ∀ member ∈ contents, ∀ key : Key, lowerCase member.1 = key.part →
    member.2.isTable = true ∧ HasNoCaseVariants member.2.members

/-- Every variable leads to a known setting or is apart from it. -/
def IsClear (environment : List Variable) : Prop :=
  ∀ member ∈ assignments environment, ∀ key : Key,
    stepsOf member.1 = key.path ∨ IsApart key.part key.name (stepsOf member.1)

instance (members : List (String × Setting)) : Decidable (HasNoCaseVariants members) :=
  inferInstanceAs
    (Decidable
      (∀ first ∈ members, ∀ second ∈ members,
        lowerCase first.1 = lowerCase second.1 → first.1 = second.1))

instance (contents : List (String × Setting)) : Decidable (IsOrderly contents) :=
  decidable_of_iff
    ((∀ member ∈ contents, IsPlainName member.1) ∧ HasNoCaseVariants contents ∧
      ∀ member ∈ contents, ∀ key : Key, lowerCase member.1 = key.part →
        member.2.isTable = true ∧ HasNoCaseVariants member.2.members)
    ⟨fun ⟨plain, noCaseVariants, sections⟩ => ⟨plain, noCaseVariants, sections⟩,
      fun ⟨plain, noCaseVariants, sections⟩ => ⟨plain, noCaseVariants, sections⟩⟩

instance (environment : List Variable) : Decidable (IsClear environment) :=
  inferInstanceAs
    (Decidable
      (∀ member ∈ assignments environment, ∀ key : Key,
        stepsOf member.1 = key.path ∨ IsApart key.part key.name (stepsOf member.1)))

/-- A word never stands for a table. -/
theorem ofWord_ne_table (word : String) (members : List (String × Setting)) :
    ofWord word ≠ .table members := by
  unfold ofWord
  grind

/-- Variables never set tables. -/
theorem assignments_ne_table {environment : List Variable} {member : String × Setting}
    (has : member ∈ assignments environment) (members : List (String × Setting)) :
    member.2 ≠ .table members := by
  obtain ⟨entry, -, entry_eq⟩ := List.mem_filterMap.1 has
  simp only [Variable.setting?] at entry_eq
  split at entry_eq
  · cases entry_eq
    exact ofWord_ne_table _ _
  · cases entry_eq

/-- The names in what a file holds are distinct, at any depth. -/
theorem contents?_areNamed {file : Option SettingsFile} {contents : List (String × Setting)}
    (found : contents? file = some contents) : AreNamed IsWellNamed contents := by
  cases file with
  | none =>
      cases found
      exact .nil
  | some file =>
      change file.read = some contents at found
      unfold SettingsFile.read at found
      split at found
      · exact Toml.read_areNamed found
      · exact readJson_areNamed found
      · cases found
        exact .nil

/-- Distinct names that do not differ by case only are distinct in lower case. -/
theorem hasDistinctKeys {members : List (String × Setting)} (distinct : HasDistinctNames members)
    (noCaseVariants : HasNoCaseVariants members) : HasDistinctKeys members := by
  rw [HasDistinctNames, List.Nodup, List.pairwise_map] at distinct
  rw [HasDistinctKeys, List.Nodup, List.pairwise_map]
  exact distinct.imp_of_mem fun {first second} has_first has_second different same =>
    different (noCaseVariants first has_first second has_second same)

/-! ## The layers -/

section Layers

variable {contents : List (String × Setting)} {environment : List Variable}

/-- The usual settings with the members of a file laid over them. -/
def fileTree (contents : List (String × Setting)) : Setting :=
  layOver (toSetting {}) contents

/-- What is loaded are the settings that the layers mean together. -/
theorem load_eq (file : Option SettingsFile) (environment : List Variable) :
    load file environment =
      (contents? file).bind fun contents =>
        ofSetting? (layOver (fileTree contents) (assignments environment)) :=
  rfl

/-- A known section of an orderly file is a table whose keys are distinct in lower case. -/
theorem IsOrderly.eq_table
    (orderly : IsOrderly contents)
    (named : AreNamed IsWellNamed contents)
    (key : Key)
    {setting : Setting}
    (found : folded? contents key.part = some setting) :
    ∃ inner, setting = .table inner ∧ HasDistinctKeys inner := by
  obtain ⟨member, member_eq, rfl⟩ := Option.map_eq_some_iff.1 found
  have has := List.mem_of_find?_eq_some member_eq
  have same : lowerCase member.1 = key.part := by simpa using List.find?_some member_eq
  obtain ⟨table, noCaseVariants⟩ := orderly.sections member has key same
  obtain ⟨inner, inner_eq⟩ := eq_table_of_isTable table
  have inner_named := isWellNamed_table_iff.1 (inner_eq ▸ named.values member has)
  rw [inner_eq] at noCaseVariants
  exact ⟨inner, inner_eq, hasDistinctKeys inner_named.distinct noCaseVariants⟩

/-- Laid over the usual value, a value means what it means alone, unless it is an empty table. -/
theorem Key.entryOr_laidOver
    (key : Key)
    {below : Setting}
    (means : key.meaning? below = some key.usual)
    (value : Setting) :
    entryOr key.meaning? key.usual (some (laidOver (some below) value)) =
      entryOr key.meaning? key.usual ((some value).filter (!·.isEmptyTable)) := by
  match value with
  | .table [] =>
      rw [laidOver, membersOver]
      exact means
  | .table (member :: rest) =>
      obtain ⟨merged, merged_eq⟩ := laidOver_table_cons (some below) member rest
      rw [merged_eq]
      exact (key.meaning?_table merged).trans (key.meaning?_table (member :: rest)).symm
  | .unset | .bool _ | .integer _ | .number _ | .text _ | .list _ =>
      rw [laidOver]
      rfl

/-- Over the usual settings, a file gives each known setting its value by itself. -/
theorem at?_fileTree (orderly : IsOrderly contents) (named : AreNamed IsWellNamed contents)
    (key : Key) :
    (fileTree contents).HasSection key.part ∧
      entryOr key.meaning? key.usual ((fileTree contents).at? key.part key.name) =
        entryOr key.meaning? key.usual (key.inFile? contents) := by
  have distinct : HasDistinctKeys contents :=
    hasDistinctKeys named.distinct orderly.noCaseVariants
  have tables : ∀ setting, folded? contents key.part = some setting →
      ∃ inner, setting = .table inner ∧ HasDistinctKeys inner :=
    fun setting => orderly.eq_table named key
  have usual := hasSection_toSetting {} key
  obtain ⟨below, below_eq, means⟩ := meaning?_toSetting {} key
  rw [toSetting] at usual below_eq
  rw [fileTree, toSetting, layOver_eq_membersOver orderly.plain]
  obtain ⟨has, merged⟩ := at?_membersOver usual distinct tables
  refine ⟨has, ?_⟩
  rw [merged, below_eq, Key.inFile?]
  cases foldedAt? contents key.part key.name with
  | none => exact means
  | some value => exact key.entryOr_laidOver means value

/-- With the environment laid over it, each known setting still has its value by itself. -/
theorem at?_layers
    (orderly : IsOrderly contents)
    (named : AreNamed IsWellNamed contents)
    (clear : IsClear environment)
    (key : Key) :
    (layOver (fileTree contents) (assignments environment)).HasSection key.part ∧
      entryOr key.meaning? key.usual
          ((layOver (fileTree contents) (assignments environment)).at? key.part key.name) =
        key.loaded? contents environment := by
  obtain ⟨has, file_eq⟩ := at?_fileTree orderly named key
  obtain ⟨has, environment_eq⟩ :=
    at?_layOver has (fun member member_in => clear member member_in key) fun _ =>
      assignments_ne_table
  refine ⟨has, ?_⟩
  rw [environment_eq, Key.loaded?, Key.inForce?, Key.inEnvironment?]
  cases lastAt? (assignments environment) key.part key.name with
  | none => rwa [Option.none_or, Option.none_or]
  | some value => rfl

/-- Each known setting is loaded by itself, and loading fails when one of them does. -/
theorem load_eq_some_iff
    {file : Option SettingsFile}
    (found : contents? file = some contents)
    (orderly : IsOrderly contents)
    (clear : IsClear environment)
    {settings : Settings} :
    load file environment = some settings ↔
      ∀ key : Key, key.loaded? contents environment = some (key.of settings) := by
  have each := at?_layers orderly (contents?_areNamed found) clear
  rw [load_eq, found, Option.bind_some, ofSetting?_eq_some_iff fun key => (each key).1]
  exact forall_congr' fun key => by rw [(each key).2]

/-- Nothing is loaded for a setting when the value in force cannot be converted. -/
theorem Key.loaded?_eq_none_iff (key : Key) :
    key.loaded? contents environment = none ↔
      ∃ value, key.inForce? contents environment = some value ∧ key.meaning? value = none := by
  rw [Key.loaded?]
  cases key.inForce? contents environment with
  | none => simp [entryOr]
  | some value => simp [entryOr]

/-- Loading fails when the value in force of some setting cannot be converted. -/
theorem load_eq_none_iff
    {file : Option SettingsFile}
    (found : contents? file = some contents)
    (orderly : IsOrderly contents)
    (clear : IsClear environment) :
    load file environment = none ↔
      ∃ (key : Key) (value : Setting),
        key.inForce? contents environment = some value ∧ key.meaning? value = none := by
  simp only [← Key.loaded?_eq_none_iff]
  constructor
  · intro failed
    by_contra converted
    rw [not_exists] at converted
    choose values values_eq using fun key => Option.ne_none_iff_exists'.1 (converted key)
    have loaded : load file environment = some (ofValues values) :=
      (load_eq_some_iff found orderly clear).2 fun key => by rw [values_eq, of_ofValues]
    rw [failed] at loaded
    cases loaded
  · rintro ⟨key, key_failed⟩
    cases outcome : load file environment with
    | none => rfl
    | some settings =>
        have loaded := (load_eq_some_iff found orderly clear).1 outcome key
        rw [key_failed] at loaded
        cases loaded

/-- Sources that say the same about every known setting load the same. -/
theorem load_congr
    {file file' : Option SettingsFile}
    {contents' : List (String × Setting)}
    {environment' : List Variable}
    (found : contents? file = some contents)
    (found' : contents? file' = some contents')
    (orderly : IsOrderly contents)
    (orderly' : IsOrderly contents')
    (clear : IsClear environment)
    (clear' : IsClear environment')
    (sameFile : ∀ key : Key, key.inFile? contents' = key.inFile? contents)
    (sameEnvironment : ∀ key : Key,
      key.inEnvironment? environment' = key.inEnvironment? environment) :
    load file' environment' = load file environment := by
  refine Option.ext fun settings => ?_
  rw [load_eq_some_iff found orderly clear, load_eq_some_iff found' orderly' clear']
  simp only [Key.loaded?, Key.inForce?, sameFile, sameEnvironment]

end Layers

/-- What is loaded from a file and an environment, setting by setting. -/
structure IsLayered (file : Option SettingsFile) (environment : List Variable) : Prop where
  /-- Every setting that is loaded is the one that its own sources give. -/
  loaded : ∀ settings, load file environment = some settings →
    ∃ contents ∈ contents? file, ∀ key : Key,
      key.loaded? contents environment = some (key.of settings)
  /-- Loading fails when the file is malformed or a value in force cannot be converted. -/
  failed : load file environment = none ↔
    contents? file = none ∨
      ∃ contents ∈ contents? file, ∃ (key : Key) (value : Setting),
        key.inForce? contents environment = some value ∧ key.meaning? value = none
  /-- A file that cannot be read counts as none. -/
  unread : ∀ name (unreadable : File), unreadable.read? = none →
    load (SettingsFile.ofFile? name unreadable) environment = load none environment
  /--
  Orderly sources that say the same about the known settings load the same.  Files that are
  edited stay well-formed for this.
  -/
  unaffected : ∀ file' environment', ∀ contents ∈ contents? file, ∀ contents' ∈ contents? file',
    IsOrderly contents' → IsClear environment' →
    (∀ key : Key, key.inFile? contents' = key.inFile? contents) →
    (∀ key : Key, key.inEnvironment? environment' = key.inEnvironment? environment) →
    load file' environment' = load file environment

/--
From an orderly file and a clear environment, every setting is loaded by itself:
the environment decides, else the file, else it has its usual value.
-/
theorem load_layered
    {file : Option SettingsFile}
    {environment : List Variable}
    (orderly : ∀ contents ∈ contents? file, IsOrderly contents)
    (clear : IsClear environment) :
    IsLayered file environment where
  loaded settings outcome := by
    cases found : contents? file with
    | none =>
        rw [load_eq, found] at outcome
        cases outcome
    | some contents =>
        exact ⟨contents, rfl, (load_eq_some_iff found (orderly contents found) clear).1 outcome⟩
  failed := by
    cases found : contents? file with
    | none =>
        rw [load_eq, found]
        exact iff_of_true rfl (.inl rfl)
    | some contents =>
        rw [load_eq_none_iff found (orderly contents found) clear]
        simp
  unread name unreadable notRead := by rw [SettingsFile.ofFile?, notRead, Option.map_none]
  unaffected file' environment' contents found contents' found' orderly' clear' :=
    load_congr found found' (orderly contents found) orderly' clear clear'

/-- A file with a text for the certainty, a section in capital letters and an unknown section. -/
def wordyFile : SettingsFile where
  name := "pcdiag.json"
  text :=
    "\x7b\"engine\":\x7b\"user_certainty\":\"high\"\x7d," ++
      "\"HISTORY\":\x7b\"capacity\":3\x7d,\"more\":1\x7d"

/-- A variable for the certainty. -/
def certaintyVariable : Variable :=
  ⟨"PCDIAG_ENGINE__USER_CERTAINTY", "0.5"⟩

/-- A text that is no certainty does not matter in a file, when a variable gives the certainty. -/
theorem load_layered_losing_value :
    IsLayered (some wordyFile) [certaintyVariable] ∧
      load (some wordyFile) [certaintyVariable] =
        some { engine := { userCertainty := 0.5 }, history := { capacity := 3 } } :=
  ⟨load_layered (by decide +kernel) (by decide +kernel), by decide +kernel⟩

/-- A file with an empty table for the certainty. -/
def hollowFile : SettingsFile where
  name := "pcdiag.json"
  text := "\x7b\"engine\":\x7b\"user_certainty\":\x7b\x7d\x7d\x7d"

/-- A variable that uses a section as a list. -/
def positionVariable : Variable :=
  ⟨"PCDIAG_ENGINE[0]", "0.5"⟩

/--
Empty tables and positions are exceptions indeed.  An empty table cannot be
converted to a certainty, but in an orderly file it leaves the usual settings as
they are.  A position in a section leads neither to a known setting nor past it
nor halfway to it, but it changes the certainty.  And a directory in the place
of the file cannot be read, but it leaves the usual settings too.
-/
theorem load_not_layered_without_exceptions :
    (∃ contents ∈ contents? (some hollowFile), IsOrderly contents ∧
      ∃ value ∈ foldedAt? contents "engine" "user_certainty",
        (Key.meaning? .userCertainty value).isNone ∧ load (some hollowFile) [] = some {}) ∧
    (∀ member ∈ assignments [positionVariable], ∀ key : Key,
      ¬stepsOf member.1 <+: key.path ∧ ¬key.path <+: stepsOf member.1) ∧
    load none [positionVariable] ≠ load none [] ∧
    load (SettingsFile.ofFile? "pcdiag.toml" .directory) [] = some {} := by
  decide +kernel

end Settings
end FaultFinder
