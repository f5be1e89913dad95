import TracePlayer.Display.Stage
import TracePlayer.Playback.Step

/-!
# Playing a step

`Stage.play` is what a step does to the stage. Only what the step touches flashes afterwards. A transfer stops at the end of
the grid: of a read the cells before it count, of a write the bytes before it are written.
-/

namespace TracePlayer.Stage

/-- Makes the cells of an interval flash, as far as the grid reaches. -/
def flashCells (s : Stage) (address size : Nat) : Stage :=
  { s with flashing := (s.sliceAddresses address size).map Element.cell ++ s.flashing }

/-- Raises a flag and lowers the others. -/
def raise (s : Stage) (raised : Flag) : Stage :=
  Flag.all.foldl (fun s f => s.setText (.flag f) (if f = raised then "1" else "0")) s

/-- The cells of an interval as a register shows them. -/
def cellsText (cells : List UInt8) : String :=
  ",".intercalate (cells.map Machine.cellText)

/-- Reads an interval of the grid into MDR. -/
def readToMdr (s : Stage) (address size : Nat) : Stage :=
  ((s.flashCells address size).emphasize (.register .mdr) .flash).setText (.register .mdr)
    (cellsText (s.slice address size))

/-- Writes bytes to the grid. -/
def writeCells (s : Stage) (address : Nat) (bytes : List UInt8) : Stage :=
  { s.flashCells address bytes.length with memory := writeBytes s.memory address bytes }

/-- The change that a step makes, apart from its being counted. -/
def change (s : Stage) : Step → Stage
  | .notify text => s.notify text
  | .set r value => s.setText (.register r) value
  | .move source target value =>
    ((s.emphasize (.register source) .flash).emphasize (.register target) .flash).setText (.register target)
      (value.getD (s.register source))
  | .read address size => s.readToMdr address size
  | .write address bytes => s.writeCells address bytes
  | .raise f => s.raise f
  | .emphasize r on => s.emphasize (.register r) (if on then .bold else .normal)

/-- Plays a step. -/
def play (s : Stage) (step : Step) : Stage := s.beginStep.change step

end TracePlayer.Stage
