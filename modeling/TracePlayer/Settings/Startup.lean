import TracePlayer.Settings.LogFilter
import TracePlayer.Settings.Resolve

/-!
# Starting up

What happens before the player takes the screen: the command line is read, the bytecode file is looked for, the log is
opened and its filter read, the settings are found, and the interpreter is started. The first of these that fails ends the program.
-/

namespace TracePlayer

/-- What ends the program before the player takes the screen. -/
inductive StartupFault where
  | refused (refusal : CommandLine.Refusal)
  | bytecodeMissing (path : String)
  | logClosed (fault : Host.Fault)
  | logUnfiltered (fault : LogFilter.Fault)
  | unsettled (fault : SettingsFault)
  | notStarted (fault : SessionFault)
  deriving DecidableEq, Repr

namespace StartupFault

/-- The exit status of the program. -/
def exitStatus : StartupFault → Nat
  | refused .helpAsked => 0
  | refused .versionAsked => 0
  | refused _ => 2
  | logUnfiltered .insideCharacter => 101
  | _ => 1

/-- What is printed as an error, given the wording for what is wrong with a JSON text. A refused command line has no part in
it, nor has a part of a log filter that cannot be cut out. -/
def report? (wording : Json.Fault → String) : StartupFault → Option String
  | refused _ => none
  | bytecodeMissing path => some s!"Error: File '{path}' not found\n"
  | logClosed fault => some s!"Error: {fault.detail}\n"
  | logUnfiltered fault => fault.detail?.map (fun detail => s!"Error: {detail}\n")
  | unsettled fault => some s!"Configuration error: {fault.message wording}\n"
  | notStarted fault => some s!"Error: {fault.message}\n"

end StartupFault

/-- How far the program has come before it takes the screen, or fails to. -/
structure Startup where
  /-- The files as they are then: the log may be a new one. -/
  folder : Host.Folder
  ready : Except StartupFault (Settings × Session)

namespace Startup

/-- Starts the interpreter that a command line asks for, once the log is open. A log without a filter of its own has one that
is never at fault. -/
def launch (folder : Host.Folder) (host : Launch → Except Host.Fault Unit) (line : CommandLine) :
    Except StartupFault (Settings × Session) :=
  match (line.logLevel.map LogFilter.judge).getD (.ok ()) with
  | .error fault => .error (.logUnfiltered fault)
  | .ok () =>
    match line.resolve folder with
    | .error fault => .error (.unsettled fault)
    | .ok settings =>
      match Session.initial.start settings.interpreter (host settings.launch) with
      | .error fault => .error (.notStarted fault)
      | .ok session => .ok (settings, session)

/-- Starts up from the words of the command line, given how the host answers an attempt to start a program among files. -/
def run (folder : Host.Folder) (host : Host.Folder → Launch → Except Host.Fault Unit) (words : List String) : Startup :=
  match CommandLine.parse words with
  | .error refusal => ⟨folder, .error (.refused refusal)⟩
  | .ok line =>
    if !folder.hasPath line.bytecode then ⟨folder, .error (.bytecodeMissing line.bytecode)⟩
    else
      match folder.openLog line.logPath with
      | .error fault => ⟨folder, .error (.logClosed fault)⟩
      | .ok find =>
        let folder := { folder with find := find }
        ⟨folder, launch folder (host folder) line⟩

end Startup

end TracePlayer
