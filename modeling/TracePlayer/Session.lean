import TracePlayer.Host.Fault
import TracePlayer.Text.Blank

/-!
# The interpreter session

The interpreter runs as a process of its own. The session says whether one is running, holds the standard input of the one
it started last until that one ends, and records which command went to which process. What the process prints arrives as
messages.
-/

namespace TracePlayer

/-- A command to the interpreter: write a snapshot, or carry out the next instruction. -/
inductive Command where
  | env
  | step
  deriving DecidableEq, Repr

/-- A command as it is written to the interpreter. -/
def Command.text : Command → String
  | env => "env"
  | step => "step"

/-- What the process of the interpreter sends. -/
inductive Message where
  | trace (line : String)
  | diagnostic (line : String)
  | exited (code : Option Int)
  deriving DecidableEq, Repr

/-- What goes wrong between the player and the interpreter. -/
inductive SessionFault where
  | notLaunched (program : String) (fault : Host.Fault)
  | notWritten (command : Command) (fault : Host.Fault)
  | exited
  | alreadyRunning
  deriving DecidableEq, Repr

/-- The message of a fault. -/
def SessionFault.message : SessionFault → String
  | notLaunched program fault => s!"failed to launch interpreter '{program}': {fault.message}"
  | notWritten command fault => s!"failed to send '{command.text}' to interpreter: {fault.message}"
  | exited => "interpreter has exited"
  | alreadyRunning => "an interpreter session is already running"

/-- How to start the interpreter: the program and its arguments. -/
structure Launch where
  program : String
  arguments : List String
  deriving DecidableEq, Repr

/-- The interpreter started interactively on a bytecode file. -/
def Launch.interactive (program : String) (debugLevel : Nat) (bytecode : String) : Launch :=
  ⟨program, ["-i", "-d", toString debugLevel, "-f", bytecode]⟩

/-- Whether an interpreter was ever started, runs, or has ended. -/
inductive SessionState where
  | notStarted
  | running
  | stopped
  deriving DecidableEq, Repr

/-- The session. Processes are numbered in the order in which they were started. -/
structure Session where
  state : SessionState
  /-- The process whose standard input is held open. -/
  input : Option Nat
  /-- How many processes have been started. -/
  started : Nat
  /-- The commands that were written, each with the process that it went to. -/
  delivered : List (Nat × Command)
  deriving DecidableEq, Repr

namespace Session

/-- Nothing has been started. -/
def initial : Session := ⟨.notStarted, none, 0, []⟩

/-- Whether an interpreter is running. -/
def isRunning (s : Session) : Bool := s.state == .running

/-- Starts a process, given the host's answer to the attempt. While one is running, none is attempted. -/
def start (s : Session) (program : String) (answer : Except Host.Fault Unit) : Except SessionFault Session :=
  if s.isRunning then .error .alreadyRunning
  else
    match answer with
    | .error fault => .error (.notLaunched program fault)
    | .ok () => .ok { s with state := .running, input := some s.started, started := s.started + 1 }

/-- Notes that the process has ended, and closes its standard input. -/
def markExited (s : Session) : Session := { s with state := .stopped, input := none }

/-- The process that a command would be written to now. -/
def target? (s : Session) : Option Nat := if s.isRunning then s.input else none

/-- Whether a command can be sent now, given the host's answer to writing on a pipe. -/
def accepts (s : Session) (pipe : Except Host.Fault Unit) (command : Command) : Except SessionFault Unit :=
  match s.target? with
  | none => .error .exited
  | some _ =>
    match pipe with
    | .ok () => .ok ()
    | .error fault => .error (.notWritten command fault)

/-- The session once commands that it accepts have been written. -/
def deliver (s : Session) (commands : List Command) : Session :=
  match s.target? with
  | none => s
  | some process => { s with delivered := s.delivered ++ commands.map (fun c => (process, c)) }

/-- Sends a command. -/
def send (s : Session) (pipe : Except Host.Fault Unit) (command : Command) : Except SessionFault Session :=
  (s.accepts pipe command).map (fun _ => s.deliver [command])

/-- The commands that a process has received, in order. -/
def received (s : Session) (process : Nat) : List Command :=
  (s.delivered.filter (fun d => d.1 == process)).map Prod.snd

end Session

end TracePlayer
