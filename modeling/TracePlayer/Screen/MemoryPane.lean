import TracePlayer.Screen.Palette

/-!
# The pane of the memory

A window on the rows of the memory grid, below a line that numbers the columns. `Window.settle` moves the window to the row
that the last step touched, once each time that row changes, and keeps it inside the grid; `draw` shows what is in it.
-/

namespace TracePlayer.MemoryPane

/-- The window on the grid. -/
structure Window where
  /-- The first row that is shown. -/
  offset : Nat
  /-- The row that was followed when the pane was last drawn. -/
  followed : Option Nat
  deriving DecidableEq, Repr

/-- The window before anything is drawn. -/
def Window.initial : Window := ⟨0, none⟩

/-- How many rows of the grid a pane of some height shows, its frame and the numbers of the columns taken off. It counts as
one row at least. -/
def visibleRows (height : Nat) : Nat := max (height - 3) 1

/-- How many rows the grid has. -/
def rowCount (stage : Stage) : Nat := (stage.memory.size + (Machine.rowWidth - 1)) / Machine.rowWidth

/-- The row that the last step touched first. -/
def touchedRow? (stage : Stage) : Option Nat := stage.firstFlashing?.map (· / Machine.rowWidth)

/-- The first row to show for a row to be seen: the same if it is seen already, else one that puts it in the middle. -/
def reveal (offset visible row : Nat) : Nat :=
  if row < offset ∨ offset + visible ≤ row then row - visible / 2 else offset

/-- The window from which a pane is drawn. -/
def Window.settle (w : Window) (stage : Stage) (height : Nat) : Window :=
  let visible := visibleRows height
  let touched := touchedRow? stage
  let offset := match touched with
    | some row => if touched = w.followed then w.offset else reveal w.offset visible row
    | none => w.offset
  ⟨min offset (rowCount stage - visible), touched⟩

/-- The style of row and column numbers. -/
def numberStyle : Style := (Style.ofColor Palette.address).inBold

/-- The line that numbers the columns. -/
def header : Row :=
  Row.ofText .plain "     " ++
    (List.range Machine.rowWidth).flatMap (fun c => Row.ofText numberStyle (Text.padLeft 3 (toString c) ++ " "))

/-- A cell of the grid. -/
def cell (stage : Stage) (address : Nat) (value : UInt8) : Row :=
  Row.ofText (Palette.value stage (.cell address)) (Machine.cellText value) ++ Row.ofText .plain " "

/-- A row of the grid: its number and its cells. -/
def gridRow (stage : Stage) (row : Nat) : Row :=
  let start := row * Machine.rowWidth
  let addresses := List.range' start (min (start + Machine.rowWidth) stage.memory.size - start)
  Row.ofText numberStyle (Text.zeroPadded 3 row ++ "  ") ++
    addresses.flatMap (fun a => match stage.readByte a with
      | some value => cell stage a value
      | none => [])

/-- The rows of the grid that a window shows. -/
def shownRows (stage : Stage) (w : Window) (height : Nat) : List Nat :=
  List.range' w.offset (min (visibleRows height) (rowCount stage - w.offset))

/-- Draws the pane through a settled window. -/
def draw (stage : Stage) (focused : Bool) (w : Window) (width height : Nat) : Picture :=
  .framed (Palette.frame focused) s!" Memory ({stage.memory.size} bytes) " width height
    (.fit .plain (width - 2) (height - 2) (header :: (shownRows stage w height).map (gridRow stage)))

end TracePlayer.MemoryPane
