import TracePlayer.Console.Frame
import TracePlayer.Console.Press

/-!
# Turns

In each turn the console takes in what has arrived, draws one frame, plays a step if one is due, and lets one key take
effect. A run is the fold of its turns, and ends early with the frame that is drawn once the console is quitting.
-/

namespace TracePlayer.Console

/-- What happens outside during a turn: what arrives before it, the size of the screen, the time, and the key that is read at
its end. -/
structure Turn where
  arrivals : List Arrival
  width : Nat
  height : Nat
  now : Int
  key : Key

/-- A turn, and the host's answers to the commands that are written in it: by the step that is due, and by the one that the
key asks for. -/
structure Round extends Turn where
  duePipe : Pipe
  keyPipe : Pipe

/-- A turn in which every command gets the same answer. -/
def Round.steady (pipe : Except Host.Fault Unit) (t : Turn) : Round := ⟨t, fun _ => pipe, fun _ => pipe⟩

/-- The part of a turn up to its frame. -/
def look (source : SnapshotSource) (c : Console) (channel : Channel) (width height : Nat) : Console :=
  (c.pump source channel).settle width height

/-- The part of a turn behind its frame. -/
def act (c : Console) (r : Round) : Console :=
  (c.autoplay r.duePipe r.now).press r.keyPipe r.now r.key

/-- The frames of the rounds that happen, and the console behind them. -/
def loop (source : SnapshotSource) (c : Console) (channel : Channel) : List Round → List Picture × Console
  | [] => ([], c)
  | r :: rounds =>
    let channel := r.arrivals.foldl Channel.take channel
    let c := c.look source channel r.width r.height
    let frame := c.draw r.width r.height
    if c.quitting then ([frame], c)
    else
      let (frames, c) := (c.act r).loop source channel.drained rounds
      (frame :: frames, c)

/-- The frames of the turns that happen, and the console behind them, when nothing around it changes. -/
def run (around : Surroundings) (c : Console) (channel : Channel) (turns : List Turn) : List Picture × Console :=
  c.loop around.snapshots channel (turns.map (Round.steady around.pipe))

end TracePlayer.Console
