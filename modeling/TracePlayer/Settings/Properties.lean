import TracePlayer.Host.Folder
import TracePlayer.Json.Record

/-!
# The properties file

A JSON record of settings, each of which may be absent or null.
-/

namespace TracePlayer

/-- What keeps the settings from being found. -/
inductive SettingsFault where
  | unreadable (path : String) (fault : Host.Fault)
  | unparsable (path : String) (fault : Json.Fault)
  | noInterpreter
  deriving DecidableEq, Repr

/-- The message of a fault, given the wording for what is wrong with a JSON text. -/
def SettingsFault.message (wording : Json.Fault → String) : SettingsFault → String
  | unreadable path fault => s!"failed to read '{path}': {fault.message}"
  | unparsable path fault => s!"invalid JSON in '{path}': {wording fault}"
  | noInterpreter => "no interpreter executable configured"

/-- The settings of a properties file. -/
structure Properties where
  interpreter : Option String
  envFile : Option String
  tickMs : Option Nat
  debugLevel : Option Nat
  deriving DecidableEq, Repr

namespace Properties

/-- The properties of a file that sets nothing. -/
def empty : Properties := ⟨none, none, none, none⟩

/-- Properties that are being read: a field that has been read as null differs from one that has not been read. -/
structure Draft where
  interpreter : Option (Option String)
  envFile : Option (Option String)
  tickMs : Option (Option Nat)
  debugLevel : Option (Option Nat)

/-- The properties; a field that has not been read is absent. -/
def Draft.complete (d : Draft) : Properties :=
  ⟨d.interpreter.join, d.envFile.join, d.tickMs.join, d.debugLevel.join⟩

/-- The fields of a properties file. -/
def slots : List (Json.Slot Draft) :=
  [⟨"interpreter", fun d => d.interpreter.isSome, fun d s =>
      (Json.readOptional Json.readText s).map (fun r => ({ d with interpreter := some r.1 }, r.2))⟩,
    ⟨"env_file", fun d => d.envFile.isSome, fun d s =>
      (Json.readOptional Json.readText s).map (fun r => ({ d with envFile := some r.1 }, r.2))⟩,
    ⟨"tick_ms", fun d => d.tickMs.isSome, fun d s =>
      (Json.readOptional (Json.readBelow wordBound) s).map (fun r => ({ d with tickMs := some r.1 }, r.2))⟩,
    ⟨"debug_level", fun d => d.debugLevel.isSome, fun d s =>
      (Json.readOptional (Json.readBelow 256) s).map (fun r => ({ d with debugLevel := some r.1 }, r.2))⟩]

/-- Reads the text of a properties file. -/
def parse (text : String) : Except Json.Fault Properties :=
  Json.readAll
    (fun rounds => Json.readRecord rounds Json.nestingLimit slots ⟨none, none, none, none⟩ (fun d => some d.complete))
    text.toList

/-- Reads a properties file. -/
def load (folder : Host.Folder) (path : String) : Except SettingsFault Properties :=
  match folder.readText path with
  | .error fault => .error (.unreadable path fault)
  | .ok text =>
    match parse text with
    | .ok properties => .ok properties
    | .error fault => .error (.unparsable path fault)

end Properties

end TracePlayer
