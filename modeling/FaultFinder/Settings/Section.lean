import FaultFinder.Setting.Word
import FaultFinder.Settings

/-!
# Sections of settings

Each section is a table, or the list of its values in order.  A value that is
missing has its usual setting, and unknown keys have no meaning.
-/

namespace FaultFinder

namespace Setting

/-- The entries of a section with the given keys; a section is a table or a list. -/
def entries? (keys : List String) : Setting → Option (List (Option Setting))
  | .table members => some (keys.map (member? members))
  | .list items => some (keys.mapIdx fun index _ => items[index]?)
  | _ => none

/-- What an entry means; a missing entry has its usual meaning. -/
def entryOr
    {α : Type}
    (meaning? : Setting → Option α)
    (usual : α) :
    Option Setting → Option α
  | none => some usual
  | some setting => meaning? setting

/-- An optional text as a setting. -/
def ofOption : Option String → Setting
  | none => .unset
  | some value => .text value

end Setting

namespace ServerSettings

/-- The settings that a section means. -/
def ofSetting? (part : Setting) : Option ServerSettings := do
  match ← part.entries? ["listen_addr", "enable_cors"] with
  | [listenAddress, enableCors] =>
    let usual : ServerSettings := {}
    return {
      listenAddress := ← Setting.entryOr Setting.string? usual.listenAddress listenAddress
      enableCors := ← Setting.entryOr Setting.bool? usual.enableCors enableCors }
  | _ => none

/-- The section of these settings. -/
def toSetting (settings : ServerSettings) : Setting :=
  .table
    [ ("listen_addr", .text settings.listenAddress),
      ("enable_cors", .bool settings.enableCors) ]

end ServerSettings

namespace EngineSettings

/-- The settings that a section means. -/
def ofSetting? (part : Setting) : Option EngineSettings := do
  match ← part.entries? ["user_certainty", "knowledge_base_path"] with
  | [userCertainty, knowledgeBasePath] =>
    let usual : EngineSettings := {}
    return {
      userCertainty := ← Setting.entryOr Setting.binary64? usual.userCertainty userCertainty
      knowledgeBasePath :=
        ← Setting.entryOr Setting.optionalString? usual.knowledgeBasePath knowledgeBasePath }
  | _ => none

/-- The section of these settings. -/
def toSetting (settings : EngineSettings) : Setting :=
  .table
    [ ("user_certainty", .number settings.userCertainty),
      ("knowledge_base_path", .ofOption settings.knowledgeBasePath) ]

end EngineSettings

namespace HistorySettings

/-- The settings that a section means. -/
def ofSetting? (part : Setting) : Option HistorySettings := do
  match ← part.entries? ["capacity", "file"] with
  | [capacity, file] =>
    let usual : HistorySettings := {}
    return {
      capacity := ← Setting.entryOr Setting.count? usual.capacity capacity
      file := ← Setting.entryOr Setting.optionalString? usual.file file }
  | _ => none

/-- The section of these settings. -/
def toSetting (settings : HistorySettings) : Setting :=
  .table [("capacity", .integer settings.capacity), ("file", .ofOption settings.file)]

end HistorySettings

namespace RateLimitSettings

/-- The settings that a section means. -/
def ofSetting? (part : Setting) : Option RateLimitSettings := do
  match ← part.entries? ["enabled", "per_second", "burst_size"] with
  | [enabled, perSecond, burstSize] =>
    let usual : RateLimitSettings := {}
    return {
      enabled := ← Setting.entryOr Setting.bool? usual.enabled enabled
      perSecond := ← Setting.entryOr Setting.count? usual.perSecond perSecond
      burstSize := ← Setting.entryOr Setting.uint32? usual.burstSize burstSize }
  | _ => none

/-- The section of these settings. -/
def toSetting (settings : RateLimitSettings) : Setting :=
  .table
    [ ("enabled", .bool settings.enabled), ("per_second", .integer settings.perSecond),
      ("burst_size", .integer settings.burstSize.toNat) ]

end RateLimitSettings

namespace LoggingSettings

/-- The settings that a section means. -/
def ofSetting? (part : Setting) : Option LoggingSettings := do
  match ← part.entries? ["level", "json"] with
  | [level, json] =>
    let usual : LoggingSettings := {}
    return {
      level := ← Setting.entryOr Setting.string? usual.level level
      json := ← Setting.entryOr Setting.bool? usual.json json }
  | _ => none

/-- The section of these settings. -/
def toSetting (settings : LoggingSettings) : Setting :=
  .table [("level", .text settings.level), ("json", .bool settings.json)]

end LoggingSettings

namespace Settings

/-- The settings that a table of sections means. -/
def ofSetting? (setting : Setting) : Option Settings := do
  match ← setting.entries? ["server", "engine", "history", "rate_limit", "logging"] with
  | [server, engine, history, rateLimit, logging] =>
    return {
      server := ← Setting.entryOr ServerSettings.ofSetting? {} server
      engine := ← Setting.entryOr EngineSettings.ofSetting? {} engine
      history := ← Setting.entryOr HistorySettings.ofSetting? {} history
      rateLimit := ← Setting.entryOr RateLimitSettings.ofSetting? {} rateLimit
      logging := ← Setting.entryOr LoggingSettings.ofSetting? {} logging }
  | _ => none

/-- The table of sections of settings. -/
def toSetting (settings : Settings) : Setting :=
  .table
    [ ("server", settings.server.toSetting), ("engine", settings.engine.toSetting),
      ("history", settings.history.toSetting), ("rate_limit", settings.rateLimit.toSetting),
      ("logging", settings.logging.toSetting) ]

end Settings
end FaultFinder
