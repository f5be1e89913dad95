import TracePlayer.Console.Basic
import TracePlayer.Screen.CommentaryPane
import TracePlayer.Screen.RegisterPane
import TracePlayer.Screen.StatusLine

/-!
# Frames

What the console shows on a screen of some size. `Console.settle` fits the two windows to the screen and to what is in them,
and changes nothing else; `Console.draw` only looks.
-/

namespace TracePlayer

/-- The sizes of the parts of a screen. -/
structure Layout where
  /-- The height of the panes together. -/
  panes : Nat
  registersWidth : Nat
  restWidth : Nat
  memoryHeight : Nat
  commentaryHeight : Nat
  statusHeight : Nat
  deriving DecidableEq, Repr

namespace Layout

/-- The columns that the registers take. -/
def registerColumns : Nat := 32

/-- The rows that the memory takes of every hundred that it shares with the commentary. -/
def memoryPercentage : Nat := 65

/-- The status line has the last row. To the left are the registers, to the right the memory above the commentary; a half
row goes to the memory. -/
def ofSize (width height : Nat) : Layout :=
  let panes := height - 1
  let memory := (memoryPercentage * panes + 50) / 100
  ⟨panes, min registerColumns width, width - min registerColumns width, memory, panes - memory, height - panes⟩

end Layout

namespace Console

/-- The console with its windows settled for a screen. -/
def settle (c : Console) (width height : Nat) : Console :=
  let l := Layout.ofSize width height
  { c with
    window := c.window.settle c.player.stage l.memoryHeight
    entry := CommentaryPane.settle c.entry c.player.stage.commentary.length l.commentaryHeight }

/-- What the status line shows. -/
def statusLine (c : Console) : StatusLine :=
  ⟨c.status, c.player.stage.stepsPlayed, c.player.backlog.size, c.player.prompter.readiness, c.playing⟩

/-- The screen of a settled console. -/
def draw (c : Console) (width height : Nat) : Picture :=
  let l := Layout.ofSize width height
  let stage := c.player.stage
  Picture.beside (RegisterPane.draw stage (c.focus == .registers) l.registersWidth l.panes)
      (MemoryPane.draw stage (c.focus == .memory) c.window l.restWidth l.memoryHeight ++
        CommentaryPane.draw stage.commentary (c.focus == .commentary) c.entry l.restWidth l.commentaryHeight) ++
    c.statusLine.draw width l.statusHeight

end Console

end TracePlayer
