import FaultFinder.Proofs.Json.Writer
import FaultFinder.Proofs.Settings.Layers
import FaultFinder.Proofs.Text.Number

/-!
# Texts from files and from variables

Some known settings are texts.  A file gives them as they are written.  A
variable does so too unless it spells a truth value or a number: such a word
stands for its value, and where a text is wanted, the value is spelled out in
its usual way.  So a word can arrive as another text, but no word with a
character besides letters, digits, signs and points can.
-/

namespace FaultFinder
namespace Settings

open Setting

/-! ## Settings that are texts -/

/-- A known setting whose value is a text, or an optional text. -/
inductive TextKey where
  /-- The address to listen at. -/
  | listenAddress
  /-- The path of a rule table. -/
  | knowledgeBasePath
  /-- The path of a file that lists the sessions. -/
  | file
  /-- The least important level that is logged. -/
  | level

namespace TextKey

/-- The known setting. -/
def key : TextKey → Key
  | listenAddress => .listenAddress
  | knowledgeBasePath => .knowledgeBasePath
  | file => .file
  | level => .level

/-- The name of the variable that sets the text. -/
def variableName : TextKey → String
  | listenAddress => "PCDIAG_SERVER__LISTEN_ADDR"
  | knowledgeBasePath => "PCDIAG_ENGINE__KNOWLEDGE_BASE_PATH"
  | file => "PCDIAG_HISTORY__FILE"
  | level => "PCDIAG_LOGGING__LEVEL"

/-- Settings with another text. -/
def withText (text : String) (settings : Settings) : TextKey → Settings
  | listenAddress => { settings with server.listenAddress := text }
  | knowledgeBasePath => { settings with engine.knowledgeBasePath := some text }
  | file => { settings with history.file := some text }
  | level => { settings with logging.level := text }

/-- A file that sets the text and nothing else. -/
def fileOf (key : TextKey) (text : String) : SettingsFile where
  name := "pcdiag.json"
  text :=
    (Json.ofMembers [(key.key.part, .ofMembers [(key.key.name, .ofString text)])]).compact

/-- The variable that sets the text to a word. -/
def variableOf (key : TextKey) (word : String) : Variable :=
  ⟨key.variableName, word⟩

end TextKey

/-- The text that a word from the environment arrives as. -/
def arrivedText (word : String) : String :=
  if lowerCase word = "true" then "true"
  else if lowerCase word = "false" then "false"
  else
    match Text.readInteger word.toList with
    | some value => toString value
    | none =>
      match Text.readBinary64 word.toList with
      | some value => Layout.messageText value
      | none => word

/-- In a word that is a truth value there are letters only. -/
theorem isNumeric_of_lowerCase
    {word name : String}
    (isName : lowerCase word = name)
    (letters : name.toList.all Char.isAlpha = true)
    (notKelvin : 'k' ∉ name.toList) :
    word.toList.all Text.isNumeric = true := by
  rw [List.all_eq_true]
  intro character member
  have inName : lowerChar character ∈ name.toList := by
    rw [← isName, lowerCase, String.toList_map]
    exact List.mem_map_of_mem member
  have isLetter := List.all_eq_true.1 letters _ inName
  unfold lowerChar at inName isLetter
  split at inName
  · exact absurd inName notKelvin
  · next other =>
      rw [if_neg other] at isLetter
      exact Text.isNumeric_of_toLower isLetter

/-- A word with a character that occurs in no number arrives as it is. -/
theorem arrivedText_of_not_isNumeric
    {word : String}
    {character : Char}
    (member : character ∈ word.toList)
    (unusual : Text.isNumeric character = false) :
    arrivedText word = word := by
  have notAll : ¬word.toList.all Text.isNumeric = true := by
    rw [List.all_eq_true]
    intro all
    rw [all character member] at unusual
    cases unusual
  have notTrue : lowerCase word ≠ "true" := fun isName =>
    notAll (isNumeric_of_lowerCase isName (by decide) (by decide))
  have notFalse : lowerCase word ≠ "false" := fun isName =>
    notAll (isNumeric_of_lowerCase isName (by decide) (by decide))
  have notInteger : Text.readInteger word.toList = none :=
    Option.eq_none_iff_forall_ne_some.2 fun _ isRead =>
      notAll (Text.isNumeric_of_readInteger isRead)
  have notNumber : Text.readBinary64 word.toList = none :=
    Option.eq_none_iff_forall_ne_some.2 fun _ isRead =>
      notAll (Text.isNumeric_of_readBinary64 isRead)
  rw [arrivedText, if_neg notTrue, if_neg notFalse, notInteger, notNumber]

theorem string?_ofWord (word : String) : string? (ofWord word) = some (arrivedText word) := by
  simp only [ofWord, arrivedText]
  split_ifs
  · rfl
  · rfl
  · cases Text.readInteger word.toList with
    | some value => rfl
    | none => cases Text.readBinary64 word.toList <;> rfl

theorem optionalString?_of_string?
    {setting : Setting}
    {text : String}
    (isText : string? setting = some text) :
    optionalString? setting = some (some text) := by
  cases setting with
  | unset => cases isText
  | _ => exact congrArg (Option.map some) isText

namespace TextKey

/-- Where a text is wanted, a word means the text that it arrives as. -/
theorem meaning?_ofWord (key : TextKey) (word : String) :
    key.key.meaning? (ofWord word) = key.key.meaning? (.text (arrivedText word)) := by
  cases key with
  | listenAddress => exact string?_ofWord word
  | knowledgeBasePath => exact optionalString?_of_string? (string?_ofWord word)
  | file => exact optionalString?_of_string? (string?_ofWord word)
  | level => exact string?_ofWord word

theorem meaning?_text (key : TextKey) (text : String) (settings : Settings) :
    key.key.meaning? (.text text) = some (key.key.of (key.withText text settings)) := by
  cases key <;> rfl

theorem of_withText_of_ne
    {key : TextKey}
    {other : Key}
    (isOther : other ≠ key.key)
    (text : String)
    (settings : Settings) :
    other.of (key.withText text settings) = other.of settings := by
  cases key <;> cases other <;> first | rfl | exact absurd rfl isOther

/-! ## The variable and the file for a text -/

/-- The key that the variable for a text spells. -/
def spelledKey (key : TextKey) : String :=
  key.key.part ++ "." ++ key.key.name

theorem setting?_variableOf (key : TextKey) (word : String) :
    (key.variableOf word).setting? = some (key.spelledKey, ofWord word) := by
  have begins :
      variableBeginning.isPrefixOf (lowerCase key.variableName).toList = true := by
    cases key <;> decide +kernel
  have spelled :
      String.ofList
          (pointed ((lowerCase key.variableName).toList.drop variableBeginning.length)) =
        key.spelledKey := by
    cases key <;> decide +kernel
  simp only [Variable.setting?, variableOf, begins, spelled, if_true]

theorem stepsOf_spelledKey (key : TextKey) : stepsOf key.spelledKey = key.key.path := by
  cases key <;> decide +kernel

end TextKey

theorem Key.eq_of_path_eq
    {key other : Key}
    (same : key.path = other.path) :
    key = other := by
  revert key other
  decide +kernel

theorem Key.lowerCase_part (key : Key) : lowerCase key.part = key.part := by
  revert key
  decide +kernel

theorem Key.lowerCase_name (key : Key) : lowerCase key.name = key.name := by
  revert key
  decide +kernel

namespace TextKey

variable
    (key : TextKey)

/-- What the file for a text holds. -/
def contentsOf (text : String) : List (String × Setting) :=
  [(key.key.part, .table [(key.key.name, .text text)])]

theorem contents?_fileOf (text : String) :
    contents? (some (key.fileOf text)) = some (key.contentsOf text) := by
  have isJson : extension? (key.fileOf text).name = some "json" := by
    change extension? "pcdiag.json" = some "json"
    decide +kernel
  have isRead :
      Json.read (Text.symbols (key.fileOf text).text) =
        some (.ofMembers [(key.key.part, .ofMembers [(key.key.name, .ofString text)])]) :=
    Json.read_layout List.mem_cons_self _
  change (key.fileOf text).read = _
  rw [SettingsFile.read, isJson]
  change readJson (key.fileOf text).text = _
  rw [readJson, isRead]
  rfl

theorem isOrderly_contentsOf (text : String) : IsOrderly (key.contentsOf text) := by
  refine
    { plain := ?plain
      noCaseVariants := ?noCaseVariants
      sections := ?sections }
  case plain =>
      intro member inContents
      rw [List.mem_singleton.1 inContents]
      change IsPlainName key.key.part
      cases key <;> decide +kernel
  case noCaseVariants =>
      intro first inContents second inContents' _
      rw [List.mem_singleton.1 inContents, List.mem_singleton.1 inContents']
  case sections =>
      intro member inContents _ _
      rw [List.mem_singleton.1 inContents]
      refine ⟨rfl, ?_⟩
      intro first inSection second inSection' _
      rw [List.mem_singleton.1 inSection, List.mem_singleton.1 inSection']

theorem inFile?_contentsOf_self (text : String) :
    key.key.inFile? (key.contentsOf text) = some (.text text) := by
  rw [Key.inFile?, foldedAt?, contentsOf, folded?_cons, if_pos key.key.lowerCase_part,
    Option.bind_some, members_table, folded?_cons, if_pos key.key.lowerCase_name]
  rfl

theorem inFile?_contentsOf_of_ne
    {other : Key}
    (isOther : other ≠ key.key)
    (text : String) :
    other.inFile? (key.contentsOf text) = none := by
  rw [Key.inFile?, foldedAt?, contentsOf, folded?_cons, key.key.lowerCase_part]
  split
  · next samePart =>
      have otherName : key.key.name ≠ other.name := by
        intro sameName
        apply isOther
        apply Key.eq_of_path_eq
        rw [Key.path, Key.path, samePart, sameName]
      rw [Option.bind_some, members_table, folded?_cons, key.key.lowerCase_name, if_neg otherName]
      rfl
  · rfl

end TextKey

/-! ## One more variable -/

theorem assignments_append (before after : List Variable) :
    assignments (before ++ after) = assignments before ++ assignments after :=
  List.filterMap_append

theorem lastAt?_append (before after : List (String × Setting)) (part name : String) :
    lastAt? (before ++ after) part name =
      (lastAt? after part name).or (lastAt? before part name) := by
  rw [lastAt?, List.reverse_append, List.findSome?_append, lastAt?, lastAt?]

namespace TextKey

variable
    (key : TextKey)
    {before after : List Variable}

theorem assignments_variableOf (word : String) (before after : List Variable) :
    assignments (before ++ key.variableOf word :: after) =
      assignments before ++ (key.spelledKey, ofWord word) :: assignments after := by
  rw [assignments_append]
  congr 1
  exact List.filterMap_cons_some (key.setting?_variableOf word)

theorem isClear_variableOf
    (clear : IsClear (before ++ after))
    (word : String) :
    IsClear (before ++ key.variableOf word :: after) := by
  have spelledClear (other : Key) :
      stepsOf key.spelledKey = other.path ∨
        IsApart other.part other.name (stepsOf key.spelledKey) := by
    rw [stepsOf_spelledKey]
    revert other
    cases key <;> decide +kernel
  intro member inAssignments other
  rw [IsClear, assignments_append] at clear
  rw [assignments_variableOf, List.mem_append, List.mem_cons] at inAssignments
  rcases inAssignments with inBefore | rfl | inAfter
  · exact clear member (List.mem_append_left _ inBefore) other
  · exact spelledClear other
  · exact clear member (List.mem_append_right _ inAfter) other

/-- A variable for a text gives it the word, if no later one does otherwise. -/
theorem inEnvironment?_variableOf_self
    (silent : key.key.inEnvironment? (before ++ after) = none)
    (word : String) :
    key.key.inEnvironment? (before ++ key.variableOf word :: after) = some (ofWord word) := by
  rw [Key.inEnvironment?, assignments_append, lastAt?_append, Option.or_eq_none_iff] at silent
  have leads : stepsOf key.spelledKey = [.key key.key.part, .key key.key.name] :=
    key.stepsOf_spelledKey
  rw [Key.inEnvironment?, assignments_variableOf, lastAt?_append, lastAt?_cons, silent.1, silent.2,
    if_pos leads]
  rfl

/-- A variable for a text says nothing about other settings. -/
theorem inEnvironment?_variableOf_of_ne
    {other : Key}
    (isOther : other ≠ key.key)
    (word : String) :
    other.inEnvironment? (before ++ key.variableOf word :: after) =
      other.inEnvironment? (before ++ after) := by
  have leadsElsewhere : stepsOf key.spelledKey ≠ [.key other.part, .key other.name] := by
    rw [stepsOf_spelledKey]
    exact fun same => isOther (Key.eq_of_path_eq same).symm
  rw [Key.inEnvironment?, Key.inEnvironment?, assignments_variableOf, assignments_append,
    lastAt?_append, lastAt?_append, lastAt?_cons, if_neg leadsElsewhere, Option.or_none]

end TextKey

/-! ## Loading a text -/

/-- Sources that can be read and say nothing about a setting. -/
structure IsSilent
    (key : Key)
    (file : Option SettingsFile)
    (contents : List (String × Setting))
    (environment : List Variable) : Prop where
  /-- The file can be read. -/
  found : contents? file = some contents
  /-- The file is orderly. -/
  orderly : IsOrderly contents
  /-- The variables are clear. -/
  clear : IsClear environment
  /-- The file has no value for the setting. -/
  notInFile : key.inFile? contents = none
  /-- No variable sets it. -/
  notInEnvironment : key.inEnvironment? environment = none

theorem IsSilent.loaded?_eq
    {key : Key}
    {file : Option SettingsFile}
    {contents : List (String × Setting)}
    {environment : List Variable}
    (silent : IsSilent key file contents environment) :
    key.loaded? contents environment = some key.usual := by
  rw [Key.loaded?, Key.inForce?, silent.notInEnvironment, silent.notInFile]
  rfl

/--
Sources that say what silent ones say about all settings but a text load the
same settings with this text.
-/
theorem load_eq_map_withText
    {key : TextKey}
    {file file' : Option SettingsFile}
    {contents contents' : List (String × Setting)}
    {environment environment' : List Variable}
    (silent : IsSilent key.key file contents environment)
    (found' : contents? file' = some contents')
    (orderly' : IsOrderly contents')
    (clear' : IsClear environment')
    {text : String}
    (sets : key.key.loaded? contents' environment' = key.key.meaning? (.text text))
    (others : ∀ other, other ≠ key.key →
      other.loaded? contents' environment' = other.loaded? contents environment) :
    load file' environment' = (load file environment).map (key.withText text) := by
  cases loaded : load file environment with
  | none =>
      obtain ⟨other, value, isInForce, notConverted⟩ :=
        (load_eq_none_iff silent.found silent.orderly silent.clear).1 loaded
      have failed : other.loaded? contents environment = none :=
        other.loaded?_eq_none_iff.2 ⟨value, isInForce, notConverted⟩
      have isOther : other ≠ key.key := by
        rintro rfl
        rw [silent.loaded?_eq] at failed
        cases failed
      rw [← others other isOther] at failed
      obtain ⟨value', failed'⟩ := other.loaded?_eq_none_iff.1 failed
      exact (load_eq_none_iff found' orderly' clear').2 ⟨other, value', failed'⟩
  | some settings =>
      have each := (load_eq_some_iff silent.found silent.orderly silent.clear).1 loaded
      apply (load_eq_some_iff found' orderly' clear').2
      intro other
      by_cases isKey : other = key.key
      · subst isKey
        rw [sets, key.meaning?_text]
      · rw [others other isKey, each, key.of_withText_of_ne isKey]

/-- What a text arrives as from a file and from a variable. -/
structure Arrives (key : TextKey) (text : String) : Prop where
  /-- A file that sets the text to a string gives exactly this string. -/
  fromFile {file contents environment} (silent : IsSilent key.key file contents environment)
      {file' contents'} (found' : contents? file' = some contents')
      (orderly' : IsOrderly contents')
      (sets : key.key.inFile? contents' = some (.text text))
      (others : ∀ other, other ≠ key.key → other.inFile? contents' = other.inFile? contents) :
    load file' environment = (load file environment).map (key.withText text)
  /-- A variable that sets the text gives what the word arrives as. -/
  fromVariable {file contents before after}
      (silent : IsSilent key.key file contents (before ++ after)) :
    load file (before ++ key.variableOf text :: after) =
      (load file (before ++ after)).map (key.withText (arrivedText text))
  /-- A file with this text alone gives the usual settings with it. -/
  fileAlone : load (some (key.fileOf text)) [] = some (key.withText text {})
  /-- So does the variable alone, with what the word arrives as. -/
  variableAlone : load none [key.variableOf text] = some (key.withText (arrivedText text) {})
  /-- The two give the same exactly when the word arrives as it is. -/
  agree : load none [key.variableOf text] = load (some (key.fileOf text)) [] ↔
    arrivedText text = text
  /-- A word with a character that occurs in no number arrives as it is. -/
  verbatim (unusual : ∃ character ∈ text.toList, Text.isNumeric character = false) :
    arrivedText text = text

theorem load_usual : load none [] = some {} := by
  decide +kernel

theorem isSilent_nothing (key : Key) : IsSilent key none [] [] :=
  { found := rfl
    orderly := by decide
    clear := by decide
    notInFile := rfl
    notInEnvironment := rfl }

namespace TextKey

theorem withText_injective
    {key : TextKey}
    {text text' : String}
    {settings : Settings}
    (same : key.withText text settings = key.withText text' settings) :
    text = text' := by
  cases key with
  | listenAddress => exact congrArg (·.server.listenAddress) same
  | knowledgeBasePath => exact Option.some_inj.1 (congrArg (·.engine.knowledgeBasePath) same)
  | file => exact Option.some_inj.1 (congrArg (·.history.file) same)
  | level => exact congrArg (·.logging.level) same

variable
    (key : TextKey)
    {file : Option SettingsFile}
    {contents : List (String × Setting)}

theorem load_of_inFile?
    {text : String}
    {environment : List Variable}
    (silent : IsSilent key.key file contents environment)
    {file' : Option SettingsFile}
    {contents' : List (String × Setting)}
    (found' : contents? file' = some contents')
    (orderly' : IsOrderly contents')
    (sets : key.key.inFile? contents' = some (.text text))
    (others : ∀ other, other ≠ key.key → other.inFile? contents' = other.inFile? contents) :
    load file' environment = (load file environment).map (key.withText text) := by
  apply load_eq_map_withText silent found' orderly' silent.clear
  · rw [Key.loaded?, Key.inForce?, silent.notInEnvironment, sets]
    rfl
  · intro other isOther
    rw [Key.loaded?, Key.loaded?, Key.inForce?, Key.inForce?, others other isOther]

theorem load_variableOf
    {before after : List Variable}
    (silent : IsSilent key.key file contents (before ++ after))
    (word : String) :
    load file (before ++ key.variableOf word :: after) =
      (load file (before ++ after)).map (key.withText (arrivedText word)) := by
  apply load_eq_map_withText silent silent.found silent.orderly
    (key.isClear_variableOf silent.clear word)
  · rw [Key.loaded?, Key.inForce?, key.inEnvironment?_variableOf_self silent.notInEnvironment]
    exact key.meaning?_ofWord word
  · intro other isOther
    rw [Key.loaded?, Key.loaded?, Key.inForce?, Key.inForce?,
      key.inEnvironment?_variableOf_of_ne isOther]

theorem load_fileOf (text : String) :
    load (some (key.fileOf text)) [] = some (key.withText text {}) := by
  have loaded := key.load_of_inFile? (isSilent_nothing key.key) (key.contents?_fileOf text)
    (key.isOrderly_contentsOf text) (key.inFile?_contentsOf_self text)
    fun _ isOther => key.inFile?_contentsOf_of_ne isOther text
  rw [load_usual] at loaded
  exact loaded

theorem load_variableOf_alone (word : String) :
    load none [key.variableOf word] = some (key.withText (arrivedText word) {}) := by
  have silent : IsSilent key.key none [] ([] ++ []) := isSilent_nothing key.key
  have loaded := key.load_variableOf silent word
  rw [List.append_nil, load_usual] at loaded
  exact loaded

end TextKey

/--
A text from a file arrives as it is.  A word from the environment arrives as the
text of the truth value or number that it spells, and as it is if it spells none.
-/
theorem texts_arrive (key : TextKey) (text : String) : Arrives key text := by
  refine
    { fromFile := key.load_of_inFile?
      fromVariable := fun silent => key.load_variableOf silent text
      fileAlone := key.load_fileOf text
      variableAlone := key.load_variableOf_alone text
      agree := ?agree
      verbatim := fun ⟨_, member, unusual⟩ => arrivedText_of_not_isNumeric member unusual }
  rw [key.load_fileOf, key.load_variableOf_alone, Option.some_inj]
  constructor
  · exact TextKey.withText_injective
  · intro same
    rw [same]

/-- A text that spells a number arrives from a file as it is, but not from a variable. -/
theorem texts_arrive_differently :
    load (some (TextKey.level.fileOf "1.50")) [] = some { logging := { level := "1.50" } } ∧
      load none [TextKey.level.variableOf "1.50"] = some { logging := { level := "1.5" } } ∧
      load none [TextKey.level.variableOf "1.50"] ≠
        load (some (TextKey.level.fileOf "1.50")) [] := by
  decide +kernel

end Settings
end FaultFinder
