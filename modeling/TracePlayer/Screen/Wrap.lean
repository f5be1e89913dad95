import TracePlayer.Screen.Picture
import TracePlayer.Text.Blank

/-!
# Breaking a row that is too long

A row is broken where white space stands between two words, and inside a word only when it is longer than a whole row. White
space that would stand at a break is dropped as far as the row before the break has room for it; no other is.
-/

namespace TracePlayer.Row

/-- Whether a row may be broken at a character: white space, a no-break space apart, or a zero-width space. -/
def isGap (c : Char) : Bool :=
  (Text.isBlank c && c != '\u00a0') || c == '\u200b'

/-- Where the breaking of a row stands. -/
structure Wrap where
  /-- The rows that are finished. -/
  rows : List Row
  /-- The words that are on the current row for certain. -/
  line : Row
  /-- The white space behind them. -/
  space : Row
  /-- The word behind the white space. -/
  word : Row
  /-- Whether the cell before was part of a word. -/
  afterWord : Bool

namespace Wrap

/-- Nothing has been read. -/
def start : Wrap := ⟨[], [], [], [], false⟩

/-- Moves the white space and the word to the current row. -/
def join (w : Wrap) : Wrap := { w with line := w.line ++ w.space ++ w.word, space := [], word := [] }

/-- Whether the white space and the word are to be moved to the current row before a cell is added. -/
def joins (limit : Nat) (w : Wrap) (c : Cell) : Bool :=
  (isGap c.glyph && w.afterWord) || (w.line.isEmpty && decide (limit < w.word.length + w.space.length + 1))

/-- Whether the current row is finished before a cell is added. -/
def isFull (limit : Nat) (w : Wrap) : Bool :=
  decide (limit ≤ w.line.length + w.space.length + w.word.length)

/-- Finishes the current row. White space goes as far as the row has room for it. -/
def cut (limit : Nat) (w : Wrap) : Wrap :=
  { w with rows := w.rows ++ [w.line], line := [], space := w.space.drop (limit - w.line.length) }

/-- Adds a cell to the white space or to the word. -/
def add (w : Wrap) (c : Cell) : Wrap :=
  if isGap c.glyph then { w with space := w.space ++ [c], afterWord := false }
  else { w with word := w.word ++ [c], afterWord := true }

/-- Takes in a cell. -/
def take (limit : Nat) (w : Wrap) (c : Cell) : Wrap :=
  let w := if w.joins limit c then w.join else w
  if w.isFull limit then
    let w := w.cut limit
    if isGap c.glyph && w.space.isEmpty then w else w.add c
  else w.add c

/-- All rows, when no cell is left. -/
def finish (w : Wrap) : List Row :=
  let gap : List Row := if w.line.isEmpty && w.word.isEmpty && !w.space.isEmpty then [[]] else []
  let last := w.line ++ w.space ++ w.word
  let rows := w.rows ++ gap ++ (if last.isEmpty then [] else [last])
  if rows.isEmpty then [[]] else rows

end Wrap

/-- A row broken into rows that are at most as long as the limit; there is at least one. -/
def wrap (limit : Nat) (row : Row) : List Row :=
  if limit = 0 then [[]] else (row.foldl (Wrap.take limit) Wrap.start).finish

end TracePlayer.Row
