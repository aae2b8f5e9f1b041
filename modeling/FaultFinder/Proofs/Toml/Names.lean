import FaultFinder.Proofs.Setting.Names
import FaultFinder.Toml.Document

/-!
# Distinct names in TOML texts

A value is never added under a name that a table has already, so the names in
every table of a TOML text are distinct, and so are those of the settings that
the text means.
-/

namespace FaultFinder
namespace Toml

/-- In every table of a value, the names are distinct. -/
inductive Node.IsWellNamed : Node → Prop where
  | plain {setting : Setting} : setting.IsWellNamed → IsWellNamed (.plain setting)
  | string (content : String) : IsWellNamed (.string content)
  | array {items : List Node} : (∀ item ∈ items, IsWellNamed item) → IsWellNamed (.array items)
  | braced {members : Members} :
      HasDistinctNames members → (∀ member ∈ members, IsWellNamed member.2) →
      IsWellNamed (.braced members)
  | table (origin : Origin) {members : Members} :
      HasDistinctNames members → (∀ member ∈ members, IsWellNamed member.2) →
      IsWellNamed (.table origin members)
  | tables {newest : Members} {older : List Members} :
      (∀ members ∈ newest :: older, HasDistinctNames members) →
      (∀ members ∈ newest :: older, ∀ member ∈ members, IsWellNamed member.2) →
      IsWellNamed (.tables newest older)

/-- The names of the members are distinct, and their values are well named. -/
abbrev AreWellNamed (members : Members) : Prop :=
  AreNamed Node.IsWellNamed members

/-- A table is well named when its members are. -/
theorem Node.isWellNamed_table_iff {origin : Origin} {members : Members} :
    (Node.table origin members).IsWellNamed ↔ AreWellNamed members := by
  constructor
  · rintro (_ | _ | _ | _ | ⟨_, distinct, values⟩)
    exact ⟨distinct, values⟩
  · exact fun named => .table origin named.distinct named.values

/-- A table in braces is well named when its members are. -/
theorem Node.isWellNamed_braced_iff {members : Members} :
    (Node.braced members).IsWellNamed ↔ AreWellNamed members := by
  constructor
  · rintro (_ | _ | _ | ⟨distinct, values⟩)
    exact ⟨distinct, values⟩
  · exact fun named => .braced named.distinct named.values

/-- Tables under one name are well named when the members of each are. -/
theorem Node.isWellNamed_tables_iff {newest : Members} {older : List Members} :
    (Node.tables newest older).IsWellNamed ↔
      AreWellNamed newest ∧ ∀ members ∈ older, AreWellNamed members := by
  rw [← List.forall_mem_cons]
  constructor
  · rintro (_ | _ | _ | _ | _ | ⟨distinct, values⟩)
    exact fun members has => ⟨distinct members has, values members has⟩
  · exact fun named =>
      .tables (fun members has => (named members has).distinct)
        fun members has => (named members has).values

/-! ## Tables under construction -/

section Members

variable {members result : Members} {name : String} {node : Node}

theorem put_eq_putNamed (name : String) (node : Node) (members : Members) :
    put name node members = putNamed name node members := by
  induction members with
  | nil => rfl
  | cons member rest inductionHypothesis => rw [put, putNamed, inductionHypothesis]

/-- A node may be put under any name. -/
theorem AreWellNamed.put (named : AreWellNamed members) (name : String)
    (node_named : node.IsWellNamed) : AreWellNamed (put name node members) := by
  rw [put_eq_putNamed]
  exact AreNamed.putNamed named name node_named

/-- A value that is found in a well named table is well named. -/
theorem AreWellNamed.find (named : AreWellNamed members) (found : find? members name = some node) :
    node.IsWellNamed := by
  obtain ⟨member, member_eq, rfl⟩ := Option.map_eq_some_iff.1 found
  exact named.values member (List.mem_of_find?_eq_some member_eq)

/-- A table may be changed in place. -/
theorem AreWellNamed.changeTable
    {origin : Origin}
    {inner changed : Members}
    (named : AreWellNamed members)
    (here : find? members name = some (.table origin inner))
    (keeps : AreWellNamed inner → AreWellNamed changed) :
    AreWellNamed (Toml.put name (.table origin changed) members) := by
  have inner_named := Node.isWellNamed_table_iff.1 (named.find here)
  exact named.put name (Node.isWellNamed_table_iff.2 (keeps inner_named))

/-- The newest of the tables under one name may be changed in place. -/
theorem AreWellNamed.changeNewest
    {newest changed : Members}
    {older : List Members}
    (named : AreWellNamed members)
    (here : find? members name = some (.tables newest older))
    (keeps : AreWellNamed newest → AreWellNamed changed) :
    AreWellNamed (Toml.put name (.tables changed older) members) := by
  obtain ⟨newest_named, older_named⟩ := Node.isWellNamed_tables_iff.1 (named.find here)
  exact named.put name (Node.isWellNamed_tables_iff.2 ⟨keeps newest_named, older_named⟩)

/-- A name that is not found is new. -/
theorem not_mem_of_find?_eq_none (missing : find? members name = none) :
    name ∉ members.map (·.1) := by
  rw [find?, Option.map_eq_none_iff, List.find?_eq_none] at missing
  intro has
  obtain ⟨member, has_member, same⟩ := List.mem_map.1 has
  exact missing member has_member (decide_eq_true same)

/-- A value with a new name keeps a table well named. -/
theorem AreWellNamed.addNew
    (named : AreWellNamed members)
    (node_named : node.IsWellNamed)
    (found : addNew? members name node = some result) :
    AreWellNamed result := by
  rw [addNew?] at found
  split at found
  case isTrue => cases found
  case isFalse absent =>
    cases found
    have missing : find? members name = none := by simpa using absent
    exact AreNamed.append named (not_mem_of_find?_eq_none missing) node_named

/-- A value under a key keeps a table well named. -/
theorem AreWellNamed.assign
    {value : Node}
    (value_named : value.IsWellNamed)
    {keys : List String}
    (named : AreWellNamed members)
    (found : assign value keys members = some result) :
    AreWellNamed result := by
  induction keys generalizing members result with
  | nil => simp [Toml.assign] at found
  | cons name rest inductionHypothesis =>
      by_cases last : rest = []
      · subst last
        rw [Toml.assign] at found
        exact named.addNew value_named found
      rw [Toml.assign] at found
      case x_2 => exact last
      split at found
      case h_1 missing =>
        obtain ⟨inner, inner_eq, rfl⟩ := Option.map_eq_some_iff.1 found
        exact named.put name (Node.isWellNamed_table_iff.2 (inductionHypothesis .nil inner_eq))
      case h_2 origin inner here =>
        split at found
        · cases found
        · obtain ⟨changed, changed_eq, rfl⟩ := Option.map_eq_some_iff.1 found
          exact named.changeTable here fun inner_named => inductionHypothesis inner_named changed_eq
      case h_3 newest older here =>
        split at found
        · cases found
        · obtain ⟨changed, changed_eq, rfl⟩ := Option.map_eq_some_iff.1 found
          exact named.changeNewest here fun newest_named =>
            inductionHypothesis newest_named changed_eq
      case h_4 => cases found

/-- A change within a table keeps all tables around it well named. -/
theorem AreWellNamed.within
    {change : Members → Option Members}
    (keeps : ∀ before after, AreWellNamed before → change before = some after → AreWellNamed after)
    {keys : List String}
    (named : AreWellNamed members)
    (found : within change keys members = some result) :
    AreWellNamed result := by
  induction keys generalizing members result with
  | nil => exact keeps members result named (by rwa [Toml.within] at found)
  | cons name rest inductionHypothesis =>
      rw [Toml.within] at found
      split at found
      case h_1 missing =>
        obtain ⟨inner, inner_eq, rfl⟩ := Option.map_eq_some_iff.1 found
        exact named.put name (Node.isWellNamed_table_iff.2 (inductionHypothesis .nil inner_eq))
      case h_2 origin inner here =>
        obtain ⟨changed, changed_eq, rfl⟩ := Option.map_eq_some_iff.1 found
        exact named.changeTable here fun inner_named => inductionHypothesis inner_named changed_eq
      case h_3 newest older here =>
        obtain ⟨changed, changed_eq, rfl⟩ := Option.map_eq_some_iff.1 found
        exact named.changeNewest here fun newest_named =>
          inductionHypothesis newest_named changed_eq
      case h_4 => cases found

/-- Opening a table keeps the one around it well named. -/
theorem AreWellNamed.openTable (named : AreWellNamed members)
    (found : openTable name members = some result) : AreWellNamed result := by
  rw [Toml.openTable] at found
  split at found
  case h_1 missing =>
    cases found
    exact named.put name (Node.isWellNamed_table_iff.2 .nil)
  case h_2 inner here =>
    cases found
    have absent : name ∉ (members.filter (·.1 ≠ name)).map (·.1) := by simp
    exact (AreNamed.filter named _).append absent
      (Node.isWellNamed_table_iff.2 (Node.isWellNamed_table_iff.1 (named.find here)))
  case h_3 => cases found

/-- Opening one more table keeps the one around it well named. -/
theorem AreWellNamed.openElement (named : AreWellNamed members)
    (found : openElement name members = some result) : AreWellNamed result := by
  rw [Toml.openElement] at found
  split at found
  case h_1 missing =>
    cases found
    exact named.put name (Node.isWellNamed_tables_iff.2 ⟨.nil, List.forall_mem_nil _⟩)
  case h_2 newest older here =>
    cases found
    have all_named := List.forall_mem_cons.2 (Node.isWellNamed_tables_iff.1 (named.find here))
    exact named.put name (Node.isWellNamed_tables_iff.2 ⟨.nil, all_named⟩)
  case h_3 => cases found

end Members

/-! ## Values -/

/-- The setting of a numeral has no tables. -/
theorem ofNumeral?_isWellNamed {numeral : Numeral} {setting : Setting}
    (found : ofNumeral? numeral = some setting) : setting.IsWellNamed := by
  unfold ofNumeral? at found
  grind [Setting.IsWellNamed]

/-- A decimal number has no tables. -/
theorem scanUnsigned_isWellNamed {negative : Bool} {text rest : List Char} {setting : Setting}
    (found : scanUnsigned negative text = some (setting, rest)) : setting.IsWellNamed := by
  unfold scanUnsigned at found
  split at found
  · cases found
    exact .number _
  · cases found
    exact .number _
  · simp only [Option.bind_eq_bind, Option.bind_eq_some_iff, Option.pure_def] at found
    obtain ⟨whole, -, places, -, exponent, -, value, value_eq, found⟩ := found
    cases found
    exact ofNumeral?_isWellNamed value_eq

/-- A number in another base has no tables. -/
theorem scanBase_isWellNamed {base : Nat} {text rest : List Char} {setting : Setting}
    (found : scanBase base text = some (setting, rest)) : setting.IsWellNamed := by
  unfold scanBase at found
  simp only [Option.bind_eq_bind] at found
  split at found
  · cases found
  · cases found
    exact .integer _

/-- A number has no tables. -/
theorem scanNumber_isWellNamed {text rest : List Char} {setting : Setting}
    (found : scanNumber text = some (setting, rest)) : setting.IsWellNamed := by
  unfold scanNumber at found
  split at found
  · exact scanBase_isWellNamed found
  · exact scanBase_isWellNamed found
  · exact scanBase_isWellNamed found
  · exact scanUnsigned_isWellNamed found
  · exact scanUnsigned_isWellNamed found
  · exact scanUnsigned_isWellNamed found

/-- A plain value has no tables. -/
theorem scanPlain_isWellNamed {text rest : List Char} {node : Node}
    (found : scanPlain text = some (node, rest)) : node.IsWellNamed := by
  unfold scanPlain at found
  split at found
  · obtain ⟨scanned, -, found⟩ := Option.map_eq_some_iff.1 found
    cases found
    exact .string _
  · obtain ⟨scanned, -, found⟩ := Option.map_eq_some_iff.1 found
    cases found
    exact .string _
  · obtain ⟨scanned, -, found⟩ := Option.map_eq_some_iff.1 found
    cases found
    exact .plain (.bool true)
  · obtain ⟨scanned, -, found⟩ := Option.map_eq_some_iff.1 found
    cases found
    exact .plain (.bool false)
  · split at found
    · obtain ⟨scanned, -, found⟩ := Option.map_eq_some_iff.1 found
      cases found
      exact .plain (.text _)
    · obtain ⟨⟨setting, following⟩, setting_eq, found⟩ := Option.map_eq_some_iff.1 found
      cases found
      exact .plain (scanNumber_isWellNamed setting_eq)

mutual

/-- A value that is read is well named. -/
theorem readValue_isWellNamed {limit depth : Nat} {text rest : List Char} {node : Node}
    (found : readValue limit depth text = some (node, rest)) : node.IsWellNamed := by
  unfold readValue at found
  split at found
  case h_1 limit depth following =>
    split at found
    · cases found
      exact .array (List.forall_mem_nil _)
    · obtain ⟨⟨items, rest⟩, items_eq, found⟩ := Option.map_eq_some_iff.1 found
      cases found
      exact .array (readItems_areWellNamed items_eq)
  case h_2 limit depth following =>
    split at found
    · cases found
      exact Node.isWellNamed_braced_iff.2 .nil
    · obtain ⟨⟨members, rest⟩, members_eq, found⟩ := Option.map_eq_some_iff.1 found
      cases found
      exact Node.isWellNamed_braced_iff.2 (readPairs_areWellNamed .nil members_eq)
  case h_3 => exact scanPlain_isWellNamed found

/-- The items of an array that is read are well named. -/
theorem readItems_areWellNamed {limit depth : Nat} {text rest : List Char} {items : List Node}
    (found : readItems limit depth text = some (items, rest)) :
    ∀ item ∈ items, item.IsWellNamed := by
  match limit with
  | 0 => simp [readItems] at found
  | limit + 1 =>
      simp only [readItems, Option.bind_eq_bind, Option.bind_eq_some_iff] at found
      obtain ⟨⟨item, after⟩, item_eq, found⟩ := found
      have item_named := readValue_isWellNamed item_eq
      split at found
      · cases found
        exact List.forall_mem_singleton.2 item_named
      · split at found
        · cases found
          exact List.forall_mem_singleton.2 item_named
        · obtain ⟨⟨others, remaining⟩, others_eq, found⟩ := Option.bind_eq_some_iff.1 found
          cases found
          exact List.forall_mem_cons.2 ⟨item_named, readItems_areWellNamed others_eq⟩
      · cases found

/-- The members of a table in braces that is read are well named. -/
theorem readPairs_areWellNamed {limit depth : Nat} {text rest : List Char}
    {members result : Members} (named : AreWellNamed members)
    (found : readPairs limit depth members text = some (result, rest)) : AreWellNamed result := by
  match limit with
  | 0 => simp [readPairs] at found
  | limit + 1 =>
      simp only [readPairs, Option.bind_eq_bind, Option.bind_eq_some_iff] at found
      obtain ⟨⟨keys, after⟩, -, remaining, -, ⟨value, following⟩, value_eq, changed, changed_eq,
        found⟩ := found
      have changed_named := named.assign (readValue_isWellNamed value_eq) changed_eq
      split at found
      · cases found
        exact changed_named
      · exact readPairs_areWellNamed changed_named found
      · cases found

end

/-! ## Documents -/

namespace Document

variable {document result : Document} {text rest : List Char}

/-- Opening a table by a header keeps the document well named. -/
theorem openHeader_areWellNamed
    {opening : String → Members → Option Members}
    (keeps : ∀ name before after,
      AreWellNamed before → opening name before = some after → AreWellNamed after)
    {keys : List String}
    (named : AreWellNamed document.root)
    (found : document.openHeader opening keys = some result) :
    AreWellNamed result.root := by
  simp only [openHeader, Option.bind_eq_bind, Option.bind_eq_some_iff, Option.pure_def,
    Option.some.injEq] at found
  obtain ⟨name, -, root, root_eq, rfl⟩ := found
  exact named.within (keeps name) root_eq

/-- A value for a key of the open table keeps the document well named. -/
theorem assignKey_areWellNamed
    {keys : List String}
    {value : Node}
    (named : AreWellNamed document.root)
    (value_named : value.IsWellNamed)
    (found : document.assignKey keys value = some result) :
    AreWellNamed result.root := by
  simp only [assignKey, Option.bind_eq_bind, Option.bind_eq_some_iff, Option.pure_def,
    Option.some.injEq] at found
  obtain ⟨root, root_eq, rfl⟩ := found
  refine named.within (fun before after before_named changed => ?_) root_eq
  exact before_named.assign value_named changed

/-- A line keeps the document well named. -/
theorem readLine_areWellNamed
    (named : AreWellNamed document.root)
    (found : document.readLine text = some (result, rest)) :
    AreWellNamed result.root := by
  unfold readLine at found
  split at found
  case h_1 following =>
    simp only [Option.bind_eq_bind, Option.bind_eq_some_iff, Option.pure_def] at found
    obtain ⟨⟨keys, after⟩, -, _, -, _, -, _, -, opened, opened_eq, found⟩ := found
    cases found
    exact openHeader_areWellNamed (fun _ _ _ => AreWellNamed.openElement) named opened_eq
  case h_2 following _ =>
    simp only [Option.bind_eq_bind, Option.bind_eq_some_iff, Option.pure_def] at found
    obtain ⟨⟨keys, after⟩, -, _, -, _, -, opened, opened_eq, found⟩ := found
    cases found
    exact openHeader_areWellNamed (fun _ _ _ => AreWellNamed.openTable) named opened_eq
  case h_3 =>
    split at found
    · cases found
      exact named
    · simp only [Option.bind_eq_bind, Option.bind_eq_some_iff, Option.pure_def] at found
      obtain ⟨⟨keys, after⟩, -, _, -, ⟨value, _⟩, value_eq, assigned, assigned_eq, _, -, found⟩ :=
        found
      cases found
      exact assignKey_areWellNamed named (readValue_isWellNamed value_eq) assigned_eq

/-- Reading lines keeps the document well named. -/
theorem readLines_areWellNamed
    {limit : Nat}
    (named : AreWellNamed document.root)
    (found : document.readLines limit text = some result) :
    AreWellNamed result.root := by
  induction limit generalizing document text with
  | zero =>
      unfold readLines at found
      split at found
      case h_1 =>
        cases found
        exact named
      case h_2 => cases found
      case h_3 impossible _ => cases impossible
  | succ limit inductionHypothesis =>
      unfold readLines at found
      split at found
      case h_1 =>
        cases found
        exact named
      case h_2 => cases found
      case h_3 same _ =>
        cases same
        obtain ⟨⟨document, rest⟩, line_eq, found⟩ := Option.bind_eq_some_iff.1 found
        exact inductionHypothesis (readLine_areWellNamed named line_eq) found

end Document

/-! ## Meanings -/

/-- A moment is a text. -/
theorem Node.moment?_isWellNamed {node : Node} {setting : Setting}
    (found : node.moment? = some setting) : setting.IsWellNamed := by
  unfold Node.moment? at found
  split at found
  · obtain ⟨moment, -, rfl⟩ := Option.map_eq_some_iff.1 found
    exact .text moment
  · cases found

/-- The meaning of a table is well named when the meanings of its members are. -/
theorem tableSetting?_isWellNamed
    {members : Members}
    {meaning : Option (List (String × Setting))}
    {setting : Setting}
    (named : ∀ settings, meaning = some settings → AreNamed Setting.IsWellNamed settings)
    (found : tableSetting? members meaning = some setting) :
    setting.IsWellNamed := by
  have of_meaning (found : meaning.map Setting.table = some setting) : setting.IsWellNamed := by
    obtain ⟨settings, settings_eq, rfl⟩ := Option.map_eq_some_iff.1 found
    exact Setting.isWellNamed_table_iff.2 (named settings settings_eq)
  unfold tableSetting? at found
  split at found
  · exact of_meaning found
  · split at found
    · exact Node.moment?_isWellNamed found
    · exact of_meaning found

/-- Members keep their names when they get their meaning. -/
theorem names_memberSettings? {members : Members} {settings : List (String × Setting)}
    (found : memberSettings? members = some settings) :
    settings.map (·.1) = members.map (·.1) := by
  induction members generalizing settings with
  | nil =>
      rw [memberSettings?] at found
      cases found
      rfl
  | cons member rest inductionHypothesis =>
      simp only [memberSettings?, Option.bind_eq_bind, Option.bind_eq_some_iff, Option.pure_def,
        Option.some.injEq] at found
      obtain ⟨setting, -, others, others_eq, rfl⟩ := found
      rw [List.map_cons, List.map_cons, inductionHypothesis others_eq]

mutual

/-- The meaning of a well named value is well named. -/
theorem Node.setting?_isWellNamed {node : Node} {setting : Setting}
    (named : node.IsWellNamed) (found : node.setting? = some setting) :
    setting.IsWellNamed := by
  match node with
  | .plain value =>
      rw [Node.setting?] at found
      cases found
      cases named with
      | plain named => exact named
  | .string content =>
      rw [Node.setting?] at found
      cases found
      exact .text content
  | .array items =>
      rw [Node.setting?] at found
      obtain ⟨settings, settings_eq, rfl⟩ := Option.map_eq_some_iff.1 found
      cases named with
      | array named => exact .list (itemSettings?_areWellNamed named settings_eq)
  | .braced members =>
      rw [Node.setting?] at found
      exact tableSetting?_isWellNamed
        (fun settings => memberSettings?_areNamed (Node.isWellNamed_braced_iff.1 named)) found
  | .table origin members =>
      rw [Node.setting?] at found
      exact tableSetting?_isWellNamed
        (fun settings => memberSettings?_areNamed (Node.isWellNamed_table_iff.1 named)) found
  | .tables newest older =>
      obtain ⟨newest_named, older_named⟩ := Node.isWellNamed_tables_iff.1 named
      simp only [Node.setting?, Option.bind_eq_bind, Option.bind_eq_some_iff, Option.pure_def,
        Option.some.injEq] at found
      obtain ⟨last, last_eq, others, others_eq, rfl⟩ := found
      have last_named : last.IsWellNamed := tableSetting?_isWellNamed
        (fun settings => memberSettings?_areNamed newest_named) last_eq
      have others_named := olderSettings?_areWellNamed older_named others_eq
      exact .list fun item has =>
        List.forall_mem_cons.2 ⟨last_named, others_named⟩ item (List.mem_reverse.1 has)

/-- The meanings of well named items are well named. -/
theorem itemSettings?_areWellNamed {items : List Node} {settings : List Setting}
    (named : ∀ item ∈ items, item.IsWellNamed) (found : itemSettings? items = some settings) :
    ∀ setting ∈ settings, setting.IsWellNamed := by
  match items with
  | [] =>
      rw [itemSettings?] at found
      cases found
      exact List.forall_mem_nil _
  | item :: items =>
      simp only [itemSettings?, Option.bind_eq_bind, Option.bind_eq_some_iff, Option.pure_def,
        Option.some.injEq] at found
      obtain ⟨setting, setting_eq, others, others_eq, rfl⟩ := found
      obtain ⟨item_named, items_named⟩ := List.forall_mem_cons.1 named
      exact List.forall_mem_cons.2
        ⟨Node.setting?_isWellNamed item_named setting_eq,
          itemSettings?_areWellNamed items_named others_eq⟩

/-- The meanings of well named members are well named. -/
theorem memberSettings?_areNamed {members : List (String × Node)}
    {settings : List (String × Setting)} (named : AreWellNamed members)
    (found : memberSettings? members = some settings) :
    AreNamed Setting.IsWellNamed settings := by
  refine ⟨?_, ?_⟩
  · rw [HasDistinctNames, names_memberSettings? found]
    exact named.distinct
  match members with
  | [] =>
      rw [memberSettings?] at found
      cases found
      exact List.forall_mem_nil _
  | (name, node) :: rest =>
      simp only [memberSettings?, Option.bind_eq_bind, Option.bind_eq_some_iff, Option.pure_def,
        Option.some.injEq] at found
      obtain ⟨setting, setting_eq, others, others_eq, rfl⟩ := found
      obtain ⟨node_named, rest_named⟩ := List.forall_mem_cons.1 named.values
      have rest_distinct : HasDistinctNames rest := (List.nodup_cons.1 named.distinct).2
      exact List.forall_mem_cons.2
        ⟨Node.setting?_isWellNamed node_named setting_eq,
          (memberSettings?_areNamed ⟨rest_distinct, rest_named⟩ others_eq).values⟩

/-- The meanings of well named tables are well named. -/
theorem olderSettings?_areWellNamed {tables : List (List (String × Node))}
    {settings : List Setting} (named : ∀ members ∈ tables, AreWellNamed members)
    (found : olderSettings? tables = some settings) :
    ∀ setting ∈ settings, setting.IsWellNamed := by
  match tables with
  | [] =>
      rw [olderSettings?] at found
      cases found
      exact List.forall_mem_nil _
  | members :: rest =>
      simp only [olderSettings?, Option.bind_eq_bind, Option.bind_eq_some_iff, Option.pure_def,
        Option.some.injEq] at found
      obtain ⟨setting, setting_eq, others, others_eq, rfl⟩ := found
      obtain ⟨members_named, rest_named⟩ := List.forall_mem_cons.1 named
      have setting_named : setting.IsWellNamed := tableSetting?_isWellNamed
        (fun settings => memberSettings?_areNamed members_named) setting_eq
      exact List.forall_mem_cons.2
        ⟨setting_named, olderSettings?_areWellNamed rest_named others_eq⟩

end

/-- The members that a TOML text spells are well named. -/
theorem read_areNamed {text : String} {members : List (String × Setting)}
    (found : read text = some members) : AreNamed Setting.IsWellNamed members := by
  simp only [read, Option.bind_eq_bind, Option.bind_eq_some_iff] at found
  obtain ⟨document, document_eq, setting, setting_eq, found⟩ := found
  have root_named := Document.readLines_areWellNamed .nil document_eq
  have named := tableSetting?_isWellNamed (fun settings => memberSettings?_areNamed root_named)
    setting_eq
  split at found
  · cases found
    exact Setting.isWellNamed_table_iff.1 named
  · cases found

end Toml
end FaultFinder
