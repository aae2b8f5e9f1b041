import FaultFinder.Proofs.Setting.Section
import FaultFinder.Settings.Section

/-!
# The known settings, one by one

Every known setting has a section, a name in it, a type and a meaning.  Settings
are nothing but a value for each of them, and a tree of sections means settings
exactly when each known name in it has a meaning or is missing.
-/

namespace FaultFinder
namespace Settings

/-- A known setting. -/
inductive Key where
  /-- The address to listen at. -/
  | listenAddress
  /-- Whether pages from anywhere may use the service. -/
  | enableCors
  /-- The certainty of every reported symptom. -/
  | userCertainty
  /-- The path of a rule table. -/
  | knowledgeBasePath
  /-- How many sessions are kept. -/
  | capacity
  /-- The path of a file that lists the sessions. -/
  | file
  /-- Whether there is a limit of requests. -/
  | enabled
  /-- The seconds after which one more request is allowed. -/
  | perSecond
  /-- How many requests may come at once. -/
  | burstSize
  /-- The least important level that is logged. -/
  | level
  /-- Whether the log consists of JSON texts. -/
  | json
  deriving DecidableEq

namespace Key

/-- The section of a setting. -/
def part : Key → String
  | listenAddress | enableCors => "server"
  | userCertainty | knowledgeBasePath => "engine"
  | capacity | file => "history"
  | enabled | perSecond | burstSize => "rate_limit"
  | level | json => "logging"

/-- The name of a setting in its section. -/
def name : Key → String
  | listenAddress => "listen_addr"
  | enableCors => "enable_cors"
  | userCertainty => "user_certainty"
  | knowledgeBasePath => "knowledge_base_path"
  | capacity => "capacity"
  | file => "file"
  | enabled => "enabled"
  | perSecond => "per_second"
  | burstSize => "burst_size"
  | level => "level"
  | json => "json"

/-- The type of a setting. -/
def Value : Key → Type
  | listenAddress | level => String
  | enableCors | enabled | json => Bool
  | userCertainty => Binary64
  | knowledgeBasePath | file => Option String
  | capacity | perSecond => Nat
  | burstSize => UInt32

/-- The value that a setting in a tree is converted to, if it can be. -/
def meaning? : (key : Key) → Setting → Option key.Value
  | listenAddress | level => Setting.string?
  | enableCors | enabled | json => Setting.bool?
  | userCertainty => Setting.binary64?
  | knowledgeBasePath | file => Setting.optionalString?
  | capacity | perSecond => Setting.count?
  | burstSize => Setting.uint32?

/-- The value of a setting. -/
def of (settings : Settings) : (key : Key) → key.Value
  | listenAddress => settings.server.listenAddress
  | enableCors => settings.server.enableCors
  | userCertainty => settings.engine.userCertainty
  | knowledgeBasePath => settings.engine.knowledgeBasePath
  | capacity => settings.history.capacity
  | file => settings.history.file
  | enabled => settings.rateLimit.enabled
  | perSecond => settings.rateLimit.perSecond
  | burstSize => settings.rateLimit.burstSize
  | level => settings.logging.level
  | json => settings.logging.json

/-- The usual value of a setting. -/
def usual (key : Key) : key.Value :=
  of {} key

end Key

/-- The settings with the given values. -/
def ofValues (values : (key : Key) → key.Value) : Settings where
  server := { listenAddress := values .listenAddress, enableCors := values .enableCors }
  engine :=
    { userCertainty := values .userCertainty, knowledgeBasePath := values .knowledgeBasePath }
  history := { capacity := values .capacity, file := values .file }
  rateLimit :=
    { enabled := values .enabled, perSecond := values .perSecond, burstSize := values .burstSize }
  logging := { level := values .level, json := values .json }

@[simp] theorem of_ofValues (values : (key : Key) → key.Value) (key : Key) :
    key.of (ofValues values) = values key := by
  cases key <;> rfl

end Settings

open Setting

/-! ## A section means settings when each of its values means one of them -/

variable {inner : List (String × Setting)}

theorem ServerSettings.ofSetting?_table_iff {settings : ServerSettings} :
    ofSetting? (.table inner) = some settings ↔
      entryOr string? ({} : ServerSettings).listenAddress (member? inner "listen_addr") =
        some settings.listenAddress ∧
      entryOr bool? ({} : ServerSettings).enableCors (member? inner "enable_cors") =
        some settings.enableCors := by
  cases settings
  simp only [ofSetting?, entries?, List.map_cons, List.map_nil, Option.bind_eq_bind,
    Option.bind_some, Option.bind_eq_some_iff, Option.pure_def, Option.some.injEq, mk.injEq,
    exists_eq_right_right]

theorem EngineSettings.ofSetting?_table_iff {settings : EngineSettings} :
    ofSetting? (.table inner) = some settings ↔
      entryOr binary64? ({} : EngineSettings).userCertainty (member? inner "user_certainty") =
        some settings.userCertainty ∧
      entryOr optionalString? ({} : EngineSettings).knowledgeBasePath
          (member? inner "knowledge_base_path") =
        some settings.knowledgeBasePath := by
  cases settings
  simp only [ofSetting?, entries?, List.map_cons, List.map_nil, Option.bind_eq_bind,
    Option.bind_some, Option.bind_eq_some_iff, Option.pure_def, Option.some.injEq, mk.injEq,
    exists_eq_right_right]

theorem HistorySettings.ofSetting?_table_iff {settings : HistorySettings} :
    ofSetting? (.table inner) = some settings ↔
      entryOr count? ({} : HistorySettings).capacity (member? inner "capacity") =
        some settings.capacity ∧
      entryOr optionalString? ({} : HistorySettings).file (member? inner "file") =
        some settings.file := by
  cases settings
  simp only [ofSetting?, entries?, List.map_cons, List.map_nil, Option.bind_eq_bind,
    Option.bind_some, Option.bind_eq_some_iff, Option.pure_def, Option.some.injEq, mk.injEq,
    exists_eq_right_right]

theorem RateLimitSettings.ofSetting?_table_iff {settings : RateLimitSettings} :
    ofSetting? (.table inner) = some settings ↔
      entryOr bool? ({} : RateLimitSettings).enabled (member? inner "enabled") =
        some settings.enabled ∧
      entryOr count? ({} : RateLimitSettings).perSecond (member? inner "per_second") =
        some settings.perSecond ∧
      entryOr uint32? ({} : RateLimitSettings).burstSize (member? inner "burst_size") =
        some settings.burstSize := by
  cases settings
  simp only [ofSetting?, entries?, List.map_cons, List.map_nil, Option.bind_eq_bind,
    Option.bind_some, Option.bind_eq_some_iff, Option.pure_def, Option.some.injEq, mk.injEq]
  grind

theorem LoggingSettings.ofSetting?_table_iff {settings : LoggingSettings} :
    ofSetting? (.table inner) = some settings ↔
      entryOr string? ({} : LoggingSettings).level (member? inner "level") =
        some settings.level ∧
      entryOr bool? ({} : LoggingSettings).json (member? inner "json") =
        some settings.json := by
  cases settings
  simp only [ofSetting?, entries?, List.map_cons, List.map_nil, Option.bind_eq_bind,
    Option.bind_some, Option.bind_eq_some_iff, Option.pure_def, Option.some.injEq, mk.injEq,
    exists_eq_right_right]

/-! ## Trees of sections -/

namespace Setting

theorem count?_integer (count : Nat) : count? (.integer count) = some count := by
  simp [count?]

theorem uint32?_integer (number : UInt32) : uint32? (.integer number.toNat) = some number := by
  have bound : number.toNat < UInt32.size := number.toNat_lt
  simp [uint32?, count?_integer, bound]

theorem optionalString?_ofOption (value : Option String) :
    optionalString? (.ofOption value) = some value := by
  cases value <;> rfl

end Setting

namespace Settings

theorem forall_key_iff {holds : Key → Prop} :
    (∀ key, holds key) ↔
      (holds .listenAddress ∧ holds .enableCors) ∧
      (holds .userCertainty ∧ holds .knowledgeBasePath) ∧
      (holds .capacity ∧ holds .file) ∧
      (holds .enabled ∧ holds .perSecond ∧ holds .burstSize) ∧
      holds .level ∧ holds .json := by
  constructor
  · intro all
    simp only [all, and_self]
  · rintro ⟨⟨_, _⟩, ⟨_, _⟩, ⟨_, _⟩, ⟨_, _, _⟩, _, _⟩ key
    cases key <;> assumption

instance {holds : Key → Prop} [DecidablePred holds] : Decidable (∀ key, holds key) :=
  decidable_of_iff _ forall_key_iff.symm

/-- A tree of sections means settings when every known setting in it means its value. -/
theorem ofSetting?_eq_some_iff
    {setting : Setting}
    (sections : ∀ key : Key, setting.HasSection key.part)
    {settings : Settings} :
    ofSetting? setting = some settings ↔
      ∀ key : Key,
        entryOr key.meaning? key.usual (setting.at? key.part key.name) =
          some (key.of settings) := by
  obtain ⟨members, rfl⟩ := (sections .level).eq_table
  obtain ⟨server, server_eq : member? members "server" = _⟩ := sections .listenAddress
  obtain ⟨engine, engine_eq : member? members "engine" = _⟩ := sections .userCertainty
  obtain ⟨history, history_eq : member? members "history" = _⟩ := sections .capacity
  obtain ⟨rateLimit, rateLimit_eq : member? members "rate_limit" = _⟩ := sections .enabled
  obtain ⟨logging, logging_eq : member? members "logging" = _⟩ := sections .level
  simp only [forall_key_iff, Key.part, Key.name, at?, members_table, server_eq, engine_eq,
    history_eq, rateLimit_eq, logging_eq, Option.bind_some]
  cases settings
  simp only [ofSetting?, entries?, List.map_cons, List.map_nil, server_eq, engine_eq, history_eq,
    rateLimit_eq, logging_eq, entryOr, Option.bind_eq_bind, Option.bind_some,
    Option.bind_eq_some_iff, Option.pure_def, Option.some.injEq, mk.injEq,
    ServerSettings.ofSetting?_table_iff, EngineSettings.ofSetting?_table_iff,
    HistorySettings.ofSetting?_table_iff, RateLimitSettings.ofSetting?_table_iff,
    LoggingSettings.ofSetting?_table_iff]
  constructor
  · rintro ⟨server, server_eq, engine, engine_eq, history, history_eq, rateLimit, rateLimit_eq,
      logging, logging_eq, rfl, rfl, rfl, rfl, rfl⟩
    exact ⟨server_eq, engine_eq, history_eq, rateLimit_eq, logging_eq⟩
  · rintro ⟨server_eq, engine_eq, history_eq, rateLimit_eq, logging_eq⟩
    exact ⟨_, server_eq, _, engine_eq, _, history_eq, _, rateLimit_eq, _, logging_eq,
      rfl, rfl, rfl, rfl, rfl⟩

/-- The tree of any settings has all sections. -/
theorem hasSection_toSetting (settings : Settings) (key : Key) :
    settings.toSetting.HasSection key.part := by
  cases key <;> exact ⟨_, rfl⟩

/-- In the tree of any settings, every known setting means its value. -/
theorem meaning?_toSetting (settings : Settings) (key : Key) :
    ∃ setting, settings.toSetting.at? key.part key.name = some setting ∧
      key.meaning? setting = some (key.of settings) := by
  cases key with
  | capacity | perSecond => exact ⟨_, rfl, count?_integer _⟩
  | burstSize => exact ⟨_, rfl, uint32?_integer _⟩
  | knowledgeBasePath | file => exact ⟨_, rfl, optionalString?_ofOption _⟩
  | _ => exact ⟨_, rfl, rfl⟩

/-- A table is no value of a known setting. -/
theorem Key.meaning?_table (key : Key) (members : List (String × Setting)) :
    key.meaning? (.table members) = none := by
  cases key <;> rfl

end Settings
end FaultFinder
