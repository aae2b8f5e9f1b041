import FaultFinder.Settings.Source
import FaultFinder.Startup

/-!
# The command line

The program takes the path of a settings file as its only argument, which may
be missing.  It starts the service with these settings and those of the
environment, and tells what has been started or why nothing can be.
-/

namespace FaultFinder
namespace CommandLine

/--
What is reported about a path now.  No directories are made for that: where
nothing exists they are expected to be possible.
-/
def fileAt (path : String) : IO File := do
  try
    discard (IO.FS.realPath path)
  catch _ =>
    return .missing
  try
    return .content (← IO.FS.readBinFile path)
  catch _ =>
    return .directory

/-- The settings file that an argument names, perhaps without the end that tells its format. -/
def settingsFile (arguments : List String) : IO (Option Settings.SettingsFile) := do
  match arguments with
  | [] => return none
  | name :: _ =>
    for candidate in [name, name ++ ".toml", name ++ ".json"] do
      if let some file := Settings.SettingsFile.ofFile? candidate (← fileAt candidate) then
        return some file
    return none

/--
The variables of the environment.  A system that does not list them is asked for
those that set known values, with their names in capitals.
-/
def environment : IO (List Settings.Variable) := do
  try
    let entries := Text.lossyText (← IO.FS.readBinFile "/proc/self/environ")
    return (entries.splitOn '\x00').filterMap Settings.Variable.ofEntry?
  catch _ =>
    Settings.variableNames.filterMapM fun name => do
      return (← IO.getEnv name).map fun value => { name, value }

/-- What the files named by the settings are now. -/
def filesOf (settings : Settings) : IO (String → File) := do
  let paths := settings.engine.knowledgeBasePath.toList ++ settings.history.file.toList
  let files ← paths.mapM fun path => return (path, ← fileAt path)
  return fun path => ((files.find? (·.1 = path)).map (·.2)).getD .missing

/-- The report about a service that has been started. -/
def report (settings : Settings) (service : Service) : String :=
  s!"Fault diagnosis {Service.version}: {service.engine.knowledgeBase.size} rules, " ++
    s!"{service.history.size} sessions, for {settings.server.listenAddress}"

/-- Start the service, and give the exit code. -/
def run (arguments : List String) : IO UInt32 := do
  match Settings.load (← settingsFile arguments) (← environment) with
  | none =>
    IO.eprintln "The settings cannot be used."
    return 1
  | some settings =>
    match (Startup.listen settings (← filesOf settings) fun _ => true).outcome with
    | .error error =>
      IO.eprintln error.message
      return 1
    | .ok service =>
      IO.println (report settings service)
      return 0

end CommandLine
end FaultFinder

/-- Start the service with the settings that the arguments and the environment name. -/
def main (arguments : List String) : IO UInt32 :=
  FaultFinder.CommandLine.run arguments
