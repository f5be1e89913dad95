import TracePlayer.Console.Run
import TracePlayer.Settings.Startup

/-!
# The command line program

The player as a program. The interpreter is at the other end of the standard streams: its trace is read from standard input,
commands to it go to standard output, and frames to standard error. The animation plays by itself until the trace has ended
and every step has been played. All decisions are made in the library; here files are read, lines taken in, and texts
printed.
-/

namespace TracePlayer.Program

/-- The host's fault behind an error. -/
def faultOf : IO.Error → Host.Fault
  | .permissionDenied .. => .permissionDenied
  | .inappropriateType _ 20 _ => .notDirectory
  | .inappropriateType .. => .isDirectory
  | .resourceVanished .. => .brokenPipe
  | _ => .notFound

/-- What is found at a path. -/
def look (path : String) : IO (Except Host.Fault Host.Node) := do
  try
    return .ok (.file (← IO.FS.readBinFile path))
  catch error =>
    match faultOf error with
    | .isDirectory => return .ok .directory
    | fault => return .error fault

/-- Opens a log at its end, or tells why it cannot be opened. -/
def openLog (path : String) : IO (Except Host.Fault Unit) := do
  try
    discard (IO.FS.Handle.mk path .append)
    return .ok ()
  catch error => return .error (faultOf error)

/-- The files that a command line names. The log is opened only when the bytecode file is there. -/
def folderFor (line : CommandLine) : IO Host.Folder := do
  let bytecode ← look line.bytecode
  let properties ← look line.propertiesPath
  let log ← match bytecode with
    | .ok _ => openLog line.logPath
    | .error fault => pure (.error fault)
  let find (path : String) : Except Host.Fault Host.Node :=
    if path = line.bytecode then bytecode
    else if path = line.propertiesPath then properties
    else .error .notFound
  return { find := find, openLog := fun _ => log.map (fun _ => find) }

/-- What is wrong with a JSON text. -/
def wording : Json.Fault → String
  | .ended => "the text ends too early"
  | .malformed => "the text is malformed"
  | .mismatched => "a value does not fit"

/-- How the program is called. -/
def usage : String :=
  "Usage: traceplayer [options] <bytecode>\n\nOptions, each with a value:\n" ++
    String.join (Setting.all.map (fun s => s!"  --{s.name}\n"))

/-- What a refused command line is answered with. -/
def answer : CommandLine.Refusal → String
  | .helpAsked => usage
  | .versionAsked => "traceplayer 0.1.0\n"
  | .unknownWord word => s!"error: unexpected argument '{word}'\n\n{usage}"
  | .noValue what => s!"error: '{what}' has no value\n\n{usage}"
  | .badValue option value => s!"error: invalid value '{value}' for '--{option.name}'\n"
  | .givenTwice option => s!"error: '--{option.name}' cannot be used twice\n\n{usage}"
  | .needlessValue word => s!"error: unexpected value in '{word}'\n\n{usage}"
  | .noBytecode => s!"error: no bytecode file is named\n\n{usage}"

/-- The text of a picture. -/
def textOf (picture : Picture) : String :=
  String.join (picture.map (fun row => String.ofList (row.map Cell.glyph) ++ "\n"))

/-- The width and height of a frame. -/
def frameSize : Nat × Nat := (100, 30)

/-- What arrives next when the console waits for it: a line of the trace, or the end. -/
def nextArrival : IO Arrival := do
  let line ← (← IO.getStdin).getLine
  if line.isEmpty then return .closed
  return .message (.trace (String.ofList ((Text.lines line.toList).headD [])))

/-- Plays the trace on standard input. -/
def play (settings : Settings) (session : Session) : IO Unit := do
  let mut console := Console.initial .initial session settings.tickMs (← IO.monoMsNow)
  let mut channel := Channel.empty
  while !(console.player.prompter.readiness == .stopped && console.player.backlog.isEmpty) do
    let mut arrivals := []
    if console.player.prompter.readiness == .awaiting && console.player.backlog.isEmpty then
      arrivals := [← nextArrival]
    let snapshot ← look settings.envFile
    let around : Surroundings :=
      ⟨fun _ => Snapshot.fetch ⟨fun _ => snapshot, fun _ => .error .notFound⟩ settings.envFile, .ok ()⟩
    let turn : Console.Turn := ⟨arrivals, frameSize.1, frameSize.2, ← IO.monoMsNow, .right⟩
    let (frames, next) := console.run around channel [turn]
    channel := (arrivals.foldl Channel.take channel).drained
    for frame in frames do
      IO.eprint (textOf frame)
    for sent in next.session.delivered.drop console.session.delivered.length do
      IO.println sent.2.text
    (← IO.getStdout).flush
    console := next
    if arrivals.isEmpty then
      IO.sleep (UInt32.ofNat (min settings.tickMs 4294967295))
  IO.eprint (textOf ((console.settle frameSize.1 frameSize.2).draw frameSize.1 frameSize.2))

/-- Runs the program and gives its exit status. -/
def run (words : List String) : IO UInt32 := do
  let folder ← match CommandLine.parse words with
    | .ok line => folderFor line
    | .error _ => pure (Host.Folder.ofFiles [])
  match (Startup.run folder (fun _ _ => .ok ()) words).ready with
  | .ok (settings, session) =>
    play settings session
    return 0
  | .error fault =>
    match fault with
    | .refused refusal =>
      if fault.exitStatus = 0 then IO.print (answer refusal) else IO.eprint (answer refusal)
    | _ => IO.eprint ((fault.report? wording).getD "")
    return UInt32.ofNat fault.exitStatus

end TracePlayer.Program

/-- Runs the player on the words of its command line. -/
def main (words : List String) : IO UInt32 := TracePlayer.Program.run words
