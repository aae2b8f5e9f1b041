import FaultFinder.Setting.Json
import FaultFinder.Setting.Path
import FaultFinder.Settings.Section
import FaultFinder.Toml.Document

/-!
# Sources of settings

Settings come from a file and from variables of the environment.  Both are laid
over the usual settings, the variables last.

A file is a TOML or JSON text, as its name says.  A variable sets the value that
its name leads to: after the beginning that all of them share, two underscores
stand between the parts of a path.
-/

namespace FaultFinder
namespace Settings

/-- A file of settings. -/
structure SettingsFile where
  /-- The name of the file. -/
  name : String
  /-- The text of the file. -/
  text : String

/-- A variable of the environment. -/
structure Variable where
  /-- The name of the variable. -/
  name : String
  /-- The value of the variable. -/
  value : String

/-- The part of a path after its last slash. -/
def baseName (path : List Char) : List Char :=
  (path.reverse.takeWhile (· ≠ '/')).reverse

/-- The part of a name after its last point, unless nothing stands before that point. -/
def extension? (name : String) : Option String :=
  let base := baseName name.toList
  let extension := (base.reverse.takeWhile (· ≠ '.')).reverse
  if extension.length + 1 < base.length then some (String.ofList extension) else none

/-- The settings file with a name; a file that cannot be read counts as none. -/
def SettingsFile.ofFile? (name : String) (file : File) : Option SettingsFile :=
  file.read?.map fun bytes => { name, text := String.ofList (Text.lossyText bytes) }

/--
The settings in a file.  Formats other than TOML and JSON are left out here: a
file whose name ends in `.yaml`, `.yml`, `.ini`, `.ron` or `.json5` says nothing,
like one whose name ends in no known format at all.
-/
def SettingsFile.read (file : SettingsFile) : Option (List (String × Setting)) :=
  match extension? file.name with
  | some "toml" => Toml.read file.text
  | some "json" => Setting.readJson file.text
  | _ => some []

/-- The beginning of the names of variables that set values. -/
def variableBeginning : List Char :=
  "pcdiag_".toList

/-- The variable that an entry of the environment spells, with its value after an equals sign. -/
def Variable.ofEntry? (entry : List Char) : Option Variable :=
  match entry.dropWhile (· ≠ '=') with
  | _ :: value => some ⟨String.ofList (entry.takeWhile (· ≠ '=')), String.ofList value⟩
  | [] => none

/-- The names of the variables that set the known values, in capitals. -/
def variableNames : List String :=
  [ "PCDIAG_SERVER__LISTEN_ADDR", "PCDIAG_SERVER__ENABLE_CORS",
    "PCDIAG_ENGINE__USER_CERTAINTY", "PCDIAG_ENGINE__KNOWLEDGE_BASE_PATH",
    "PCDIAG_HISTORY__CAPACITY", "PCDIAG_HISTORY__FILE",
    "PCDIAG_RATE_LIMIT__ENABLED", "PCDIAG_RATE_LIMIT__PER_SECOND",
    "PCDIAG_RATE_LIMIT__BURST_SIZE", "PCDIAG_LOGGING__LEVEL", "PCDIAG_LOGGING__JSON" ]

/-- A text with points for pairs of underscores. -/
def pointed : List Char → List Char
  | '_' :: '_' :: rest => '.' :: pointed rest
  | first :: rest => first :: pointed rest
  | [] => []

/-- The key and the value that a variable sets, if its name has the right beginning. -/
def Variable.setting? (entry : Variable) : Option (String × Setting) :=
  let name := (Setting.lowerCase entry.name).toList
  if variableBeginning.isPrefixOf name then
    some (String.ofList (pointed (name.drop variableBeginning.length)),
      Setting.ofWord entry.value)
  else none

/-- The settings from a file, if there is one, and from the environment. -/
def load (file : Option SettingsFile) (environment : List Variable) : Option Settings := do
  let usual : Settings := {}
  let fromFile ← (file.map SettingsFile.read).getD (some [])
  let fromEnvironment := environment.filterMap Variable.setting?
  ofSetting? (Setting.layOver (Setting.layOver usual.toSetting fromFile) fromEnvironment)

end Settings
end FaultFinder
