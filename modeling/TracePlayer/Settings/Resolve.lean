import TracePlayer.Session
import TracePlayer.Settings.CommandLine
import TracePlayer.Settings.Properties

/-!
# The settings of a run

`CommandLine.resolve` finds them: what the command line gives wins over what the properties file gives, and that over the
default. The properties file may be missing only under its default name.
-/

namespace TracePlayer

/-- The settings of a run. -/
structure Settings where
  interpreter : String
  bytecode : String
  envFile : String
  tickMs : Nat
  debugLevel : Nat
  deriving DecidableEq, Repr

namespace Settings

/-- The name of the properties file when none is given. -/
def defaultProperties : String := "properties.json"

/-- The name of the snapshot file when none is given. -/
def defaultEnvFile : String := "env.json"

/-- The name of the log when none is given. -/
def defaultLogFile : String := "cpuviz.log"

/-- The milliseconds between two steps of the animation when none are given. -/
def defaultTickMs : Nat := 1000

/-- The level of detail of the trace when none is given. -/
def defaultDebugLevel : Nat := 2

/-- How the interpreter is started. -/
def launch (s : Settings) : Launch := .interactive s.interpreter s.debugLevel s.bytecode

/-- The settings from a command line and a properties file. -/
def ofSources (line : CommandLine) (properties : Properties) : Except SettingsFault Settings :=
  match line.interpreter.or properties.interpreter with
  | none => .error .noInterpreter
  | some interpreter => .ok {
      interpreter := interpreter
      bytecode := line.bytecode
      envFile := (line.envFile.or properties.envFile).getD defaultEnvFile
      tickMs := (line.tickMs.or properties.tickMs).getD defaultTickMs
      debugLevel := (line.debugLevel.or properties.debugLevel).getD defaultDebugLevel }

end Settings

namespace CommandLine

/-- The path of the properties file. -/
def propertiesPath (line : CommandLine) : String := line.properties.getD Settings.defaultProperties

/-- The path of the log. -/
def logPath (line : CommandLine) : String := line.logFile.getD Settings.defaultLogFile

/-- Whether a path is the default name of the properties file. Further slashes at its end, and names there that mean the
same directory, do not count. -/
def isDefaultProperties (path : String) : Bool :=
  match Text.splitAt '/' path.toList with
  | [] => false
  | name :: rest => name == Settings.defaultProperties.toList && rest.all (fun n => n == [] || n == ['.'])

/-- The properties that go with a command line: those of the file, or none when a file of the default name is missing. -/
def findProperties (line : CommandLine) (folder : Host.Folder) : Except SettingsFault Properties :=
  if folder.hasPath line.propertiesPath || !isDefaultProperties line.propertiesPath then
    Properties.load folder line.propertiesPath
  else .ok .empty

/-- The settings that go with a command line. -/
def resolve (line : CommandLine) (folder : Host.Folder) : Except SettingsFault Settings :=
  (line.findProperties folder).bind (Settings.ofSources line)

end CommandLine

end TracePlayer
