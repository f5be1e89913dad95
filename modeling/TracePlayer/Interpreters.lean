import TracePlayer.Host.Program
import TracePlayer.Host.Stream
import TracePlayer.Session

/-!
# The processes of a session

The processes that a session has started, by their number. A process reads the commands that it was sent, prints its trace
and its diagnostics, and ends; the messages of the last one that was started can be collected once.
-/

namespace TracePlayer

/-- The bytes of commands as they are written, each on a line of its own. -/
def Command.bytes (commands : List Command) : List UInt8 :=
  commands.flatMap (fun c => (c.text ++ "\n").toUTF8.toList)

/-- What a process sends: the lines of its two streams, and how it ended. -/
structure Transcript where
  trace : List String
  diagnostics : List String
  exits : List (Option Int)
  deriving DecidableEq, Repr

/-- The transcript of what is left of a process. -/
def Transcript.ofRemains (r : Host.Remains) : Transcript :=
  ⟨Host.streamLines r.output.bytes, Host.streamLines r.errors.bytes, [r.status]⟩

/-- A process as it was started, and the program that it runs. -/
structure Process where
  launch : Launch
  program : String
  deriving DecidableEq, Repr

/-- A session with the processes that it has started. -/
structure Interpreters where
  session : Session
  /-- The processes in the order in which they were started. -/
  processes : List Process
  /-- The process whose messages have not been collected. -/
  uncollected : Option Nat
  /-- The processes that have ended. -/
  finished : List Nat
  deriving DecidableEq, Repr

namespace Interpreters

/-- Nothing has been started. -/
def initial : Interpreters := ⟨.initial, [], none, []⟩

/-- Starts a process among the files of a tree. -/
def start (i : Interpreters) (tree : Host.Tree) (launch : Launch) : Except SessionFault Interpreters :=
  let answer := Host.tryLaunch (.ofTree tree) launch.program launch.arguments
  (i.session.start launch.program (answer.map (fun _ => ()))).map fun session =>
    { i with
      session := session
      processes := i.processes ++ answer.toOption.toList.map (Process.mk launch)
      uncollected := some i.session.started }

/-- The answer to writing to the process that is running now: one that has finished reads nothing. -/
def pipe (i : Interpreters) : Except Host.Fault Unit :=
  match i.session.target? with
  | some process => if i.finished.contains process then .error .brokenPipe else .ok ()
  | none => .ok ()

/-- Sends a command. -/
def send (i : Interpreters) (command : Command) : Except SessionFault Interpreters :=
  (i.session.send i.pipe command).map (fun session => { i with session := session })

/-- What a process sends until its streams close. -/
def transcript (i : Interpreters) (tree : Host.Tree) (process : Nat) : Option Transcript := do
  let p ← i.processes[process]?
  return .ofRemains (Host.runProgram tree p.program p.launch.program p.launch.arguments
    (.ofBytes (Command.bytes (i.session.received process))))

/-- Collects the messages of the last process that was started; it has finished then. -/
def collect (i : Interpreters) (tree : Host.Tree) : Interpreters × Option Transcript :=
  match i.uncollected with
  | none => (i, none)
  | some process => ({ i with uncollected := none, finished := process :: i.finished }, i.transcript tree process)

/-- Notes that the process has ended. -/
def markExited (i : Interpreters) : Interpreters := { i with session := i.session.markExited }

end Interpreters

end TracePlayer
