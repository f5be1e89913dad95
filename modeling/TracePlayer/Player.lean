import TracePlayer.Playback.Prompter
import TracePlayer.Playback.Storyboard
import TracePlayer.Snapshot
import TracePlayer.Trace.Decoder

/-!
# The player

The state of one run: what has been counted of the trace, the steps that wait, the prompter, and the stage. Trace text goes
in through `Player.ingest`, every tick of the animation is a `Player.tick`, and `Player.sessionEnded` tells that the
interpreter has ended. Sizes, dumps and snapshots go straight to the stage, ahead of the steps that wait; all else becomes
steps.
-/

namespace TracePlayer

/-- Where snapshots come from: the answer to each request, by the number of requests before it. -/
abbrev SnapshotSource := Nat → Except Snapshot.Fault Snapshot

/-- The state of one run. -/
structure Player where
  tally : Trace.Tally
  /-- How many events could not be shown. -/
  unshown : Nat
  /-- How many snapshots have been requested. -/
  fetches : Nat
  backlog : Backlog
  prompter : Prompter
  stage : Stage

namespace Player

/-- Before anything has happened. -/
def initial : Player := ⟨.zero, 0, 0, .empty, .initial, .initial⟩

/-- Loads the next snapshot onto the stage; one that cannot be fetched changes nothing there. -/
def loadSnapshot (source : SnapshotSource) (p : Player) : Player :=
  let stage := match source p.fetches with
    | .ok snapshot => p.stage.present snapshot
    | .error _ => p.stage
  { p with stage := stage, fetches := p.fetches + 1 }

/-- Enqueues the steps of an event, or counts it when it has no storyboard. -/
def enqueue (p : Player) (event : Event) : Player :=
  match event.storyboard with
  | .ok steps => { p with backlog := p.backlog.extend steps }
  | .error _ => { p with unshown := p.unshown + 1 }

/-- Lets an event take effect. -/
def apply (source : SnapshotSource) (p : Player) : Event → Player
  | .memorySize kilobytes => { p with stage := p.stage.resize kilobytes }
  | .memoryDump bytes => { p with stage := p.stage.load bytes }
  | .snapshotReady => p.loadSnapshot source
  | event => p.enqueue event

/-- Takes in a chunk of the trace. -/
def ingest (source : SnapshotSource) (p : Player) (chunk : String) : Player :=
  let (events, tally) := Trace.decode p.tally chunk
  events.foldl (apply source) { p with tally := tally }

/-- How many steps joined the backlog between two states of a run. -/
def enqueuedSince (before after : Player) : Nat :=
  after.backlog.totalEnqueued - before.backlog.totalEnqueued

/-- What a tick leaves behind: the player, what the tick did, and the commands that were accepted. -/
structure Tick where
  player : Player
  outcome : Except SessionFault Outcome
  sent : List Command

/-- One tick of the animation. -/
def tick (p : Player) (sink : Sink) : Tick :=
  let d := p.prompter.drive p.backlog p.stage sink
  ⟨{ p with prompter := d.prompter, backlog := d.backlog, stage := d.stage }, d.outcome, d.sent⟩

/-- The line that tells how the interpreter ended. -/
def exitNotice : Option Int → String
  | some code => s!"Interpreter exited (code {code})"
  | none => "Interpreter was terminated"

/-- The interpreter has ended: nothing more is asked of it, and a notice joins the backlog. -/
def sessionEnded (p : Player) (code : Option Int) : Player :=
  { p with prompter := p.prompter.stop, backlog := p.backlog.push (.notify (exitNotice code)) }

end Player

end TracePlayer
