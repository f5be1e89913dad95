import TracePlayer.Console.Basic

/-!
# Keys and time

A key, or the clock while the animation runs, lets the console play a step; the other keys move windows and the focus, start
and stop the animation, or quit.
-/

namespace TracePlayer

/-- A key that is read. -/
inductive Key where
  | char (c : Char)
  | right
  | up
  | down
  | pageUp
  | pageDown
  | tab
  | escape
  /-- A key without a meaning here, or no press of a key. -/
  | other
  deriving DecidableEq, Repr

/-- The key that a character from the keyboard stands for. A key that is pressed together with Control arrives as a control
character and counts as the key alone; some control characters are keys of their own. -/
def Key.ofChar (c : Char) : Key :=
  let n := c.toNat
  if n = 0 then .char ' '
  else if n = 9 then .tab
  else if n = 13 ∨ n = 127 then .other
  else if n = 27 then .escape
  else if n < 27 then .char (Char.ofNat (n + 96))
  else if n < 32 then .char (Char.ofNat (n + 24))
  else .char c

namespace Console

/-- What the status line says after a tick. -/
def tickStatus : Except SessionFault Outcome → String
  | .ok (.stepped step) => step.text
  | .ok .requested => "Requested next instruction"
  | .ok .waiting => "Waiting for the interpreter..."
  | .ok .finished => "Program finished"
  | .error fault => s!"Interpreter error: {fault.message}"

/-- Whether the animation goes on after a tick. -/
def goesOn : Except SessionFault Outcome → Bool
  | .ok .finished => false
  | .ok _ => true
  | .error _ => false

/-- Whether a tick played a step. -/
def hasStepped : Except SessionFault Outcome → Bool
  | .ok (.stepped _) => true
  | _ => false

/-- Whether the session takes a command of one tick, given the host's answers to writing them. -/
def sink (pipe : Pipe) (c : Console) : Sink := fun command => c.session.accepts (pipe command) command

/-- One tick of the animation. A step that is played brings the end of the commentary into view. -/
def step (pipe : Pipe) (c : Console) : Console :=
  let t := c.player.tick (c.sink pipe)
  { c with
    player := t.player
    session := c.session.deliver t.sent
    status := tickStatus t.outcome
    playing := c.playing && goesOn t.outcome
    entry := if hasStepped t.outcome then lastEntry else c.entry }

/-- Whether the animation runs and its next step is due. By a clock that has gone back no time has passed. -/
def isDue (now : Int) (c : Console) : Bool := c.playing && decide (c.tickMs ≤ (now - c.lastPlay).toNat)

/-- Plays a step when one is due. -/
def autoplay (pipe : Pipe) (now : Int) (c : Console) : Console :=
  if c.isDue now then { c.step pipe with lastPlay := now } else c

/-- Starts or stops the animation. When it starts, a step is due at once. -/
def togglePlay (now : Int) (c : Console) : Console :=
  if c.playing then { c with playing := false, status := "Paused" }
  else { c with playing := true, status := "Playing...", lastPlay := now - c.tickMs }

/-- Moves the window of the pane that has the focus towards the start. -/
def scrollUp (rows : Nat) (c : Console) : Console :=
  match c.focus with
  | .registers => c
  | .memory => { c with window := { c.window with offset := c.window.offset - rows } }
  | .commentary => { c with entry := c.entry - rows }

/-- Moves the window of the pane that has the focus towards the end. -/
def scrollDown (rows : Nat) (c : Console) : Console :=
  match c.focus with
  | .registers => c
  | .memory => { c with window := { c.window with offset := min (c.window.offset + rows) (wordBound - 1) } }
  | .commentary => { c with entry := min (c.entry + rows) lastEntry }

/-- The rows of a page of the memory. -/
def pageRows : Nat := 10

/-- Lets a key take effect. Only the memory is turned over by pages. -/
def press (pipe : Pipe) (now : Int) (c : Console) : Key → Console
  | .char 'q' => { c with quitting := true }
  | .char 'Q' => { c with quitting := true }
  | .escape => { c with quitting := true }
  | .right => { c with playing := false }.step pipe
  | .char 'n' => { c with playing := false }.step pipe
  | .char ' ' => c.togglePlay now
  | .tab => { c with focus := c.focus.next }
  | .up => c.scrollUp 1
  | .down => c.scrollDown 1
  | .pageUp => if c.focus = .memory then c.scrollUp pageRows else c
  | .pageDown => if c.focus = .memory then c.scrollDown pageRows else c
  | .char _ => c
  | .other => c

end Console

end TracePlayer
