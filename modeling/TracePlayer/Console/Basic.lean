import TracePlayer.Player
import TracePlayer.Screen.MemoryPane

/-!
# The console

The player behind its screen and keyboard. All that the console learns from outside is an argument of its functions: what
arrives from the interpreter, the keys, the time, the size of the screen, and the answers to its requests. Here is its state,
and how it takes in what arrives.
-/

namespace TracePlayer

/-- The panes that can have the focus. -/
inductive Focus where
  | registers
  | memory
  | commentary
  deriving DecidableEq, Repr

/-- The pane that has the focus next. -/
def Focus.next : Focus → Focus
  | registers => memory
  | memory => commentary
  | commentary => registers

/-- The console. -/
structure Console where
  player : Player
  session : Session
  focus : Focus
  window : MemoryPane.Window
  /-- The first entry of the commentary to be shown. -/
  entry : Nat
  quitting : Bool
  status : String
  playing : Bool
  /-- Milliseconds between two steps of the animation. -/
  tickMs : Nat
  /-- When the animation last played a step, in milliseconds. It may lie before the start of the clock. -/
  lastPlay : Int

/-- The host's answers to writing the commands of one tick to the interpreter. -/
abbrev Pipe := Command → Except Host.Fault Unit

/-- What the console is surrounded by when nothing around it changes: the snapshots it may ask for, and the answer to writing
to the interpreter. -/
structure Surroundings where
  snapshots : SnapshotSource
  pipe : Except Host.Fault Unit

/-- What the sending side of a channel does. -/
inductive Arrival where
  | message (m : Message)
  | closed
  deriving DecidableEq, Repr

/-- The messages that wait for the console, and whether the sending side has closed. -/
structure Channel where
  waiting : List Message
  isClosed : Bool
  deriving DecidableEq, Repr

namespace Channel

/-- A channel on which nothing has been sent. -/
def empty : Channel := ⟨[], false⟩

/-- A message is sent, or the sending side closes. No message goes through a closed channel. -/
def take (ch : Channel) : Arrival → Channel
  | .message m => if ch.isClosed then ch else { ch with waiting := ch.waiting ++ [m] }
  | .closed => { ch with isClosed := true }

/-- The channel when all that waited has been taken out. -/
def drained (ch : Channel) : Channel := { ch with waiting := [] }

end Channel

namespace Console

/-- The greatest position in the commentary, which always is that of its end. -/
def lastEntry : Nat := wordBound - 1

/-- The console when the player starts. -/
def initial (player : Player) (session : Session) (tickMs : Nat) (now : Int) : Console where
  player := player
  session := session
  focus := .memory
  window := .initial
  entry := lastEntry
  quitting := false
  status := "Ready! Press → to step or space to play"
  playing := false
  tickMs := tickMs
  lastPlay := now

/-- The interpreter has ended. -/
def ended (c : Console) (code : Option Int) : Console :=
  { c with session := c.session.markExited, player := c.player.sessionEnded code }

/-- Takes in a message of the interpreter. A diagnostic is not shown. -/
def receive (source : SnapshotSource) (c : Console) : Message → Console
  | .trace line => { c with player := c.player.ingest source line }
  | .diagnostic _ => c
  | .exited code => c.ended code

/-- Finds the channel closed: an interpreter that still counts as running has ended. -/
def lose (c : Console) : Console := if c.session.isRunning then c.ended none else c

/-- Takes in all messages that wait, and finds that the channel is closed if it is. -/
def pump (source : SnapshotSource) (c : Console) (channel : Channel) : Console :=
  let c := channel.waiting.foldl (receive source) c
  if channel.isClosed then c.lose else c

end Console

end TracePlayer
