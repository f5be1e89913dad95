/-!
# Pictures

A picture is a list of rows of cells, and a cell is one character in one style. Pictures of fixed size are put together beside
and above each other; everything that does not fit is cut off, and what is left open is filled with blank cells.
-/

namespace TracePlayer

/-- A colour. -/
inductive Color where
  | black
  | rgb (red green blue : UInt8)
  deriving DecidableEq, Repr

/-- How a cell is drawn. A colour that is not given is the terminal's own. -/
structure Style where
  foreground : Option Color
  background : Option Color
  bold : Bool
  italic : Bool
  deriving DecidableEq, Repr

namespace Style

/-- The terminal's own style. -/
def plain : Style := ⟨none, none, false, false⟩

/-- Text in a colour. -/
def ofColor (color : Color) : Style := { plain with foreground := some color }

/-- Text in a colour upon another. -/
def on (color background : Color) : Style := { ofColor color with background := some background }

/-- The style in bold. -/
def inBold (s : Style) : Style := { s with bold := true }

/-- The style in italics. -/
def inItalic (s : Style) : Style := { s with italic := true }

end Style

/-- One place of the screen. -/
structure Cell where
  glyph : Char
  style : Style
  deriving DecidableEq, Repr

/-- A blank in a style. -/
def Cell.blank (style : Style) : Cell := ⟨' ', style⟩

/-- A row of cells. -/
abbrev Row := List Cell

namespace Row

/-- The characters of a text in one style. Line feeds take no place. -/
def ofText (style : Style) (text : String) : Row :=
  (text.toList.filter (· != '\n')).map (fun c => ⟨c, style⟩)

/-- A row of blanks. -/
def blank (style : Style) (width : Nat) : Row := List.replicate width (Cell.blank style)

/-- The row made exactly as wide as wanted: cut off, or filled with blanks of a style. -/
def fit (style : Style) (width : Nat) (row : Row) : Row :=
  row.take width ++ blank style (width - row.length)

@[simp]
theorem length_fit (style : Style) (width : Nat) (row : Row) : (fit style width row).length = width := by
  simp only [fit, blank, List.length_append, List.length_take, List.length_replicate]
  omega

/-- The row at the right end of a width, with blanks in front; a row that is too long loses its end. -/
def fitRight (style : Style) (width : Nat) (row : Row) : Row :=
  fit style width (blank style (width - row.length) ++ row)

@[simp]
theorem length_fitRight (style : Style) (width : Nat) (row : Row) : (fitRight style width row).length = width :=
  length_fit ..

end Row

/-- Rows from the top of the screen downwards. -/
abbrev Picture := List Row

namespace Picture

/-- The picture made exactly as wide and as high as wanted. -/
def fit (style : Style) (width height : Nat) (picture : Picture) : Picture :=
  (picture.take height).map (Row.fit style width) ++
    List.replicate (height - picture.length) (Row.blank style width)

@[simp]
theorem length_fit (style : Style) (width height : Nat) (picture : Picture) :
    (fit style width height picture).length = height := by
  simp only [fit, List.length_append, List.length_map, List.length_take, List.length_replicate]
  omega

theorem length_of_mem_fit {style : Style} {width height : Nat} {picture : Picture} {row : Row}
    (h : row ∈ fit style width height picture) : row.length = width := by
  rcases List.mem_append.mp h with h | h
  · obtain ⟨r, -, rfl⟩ := List.mem_map.mp h
    exact Row.length_fit ..
  · rw [(List.mem_replicate.mp h).2]
    exact List.length_replicate ..

/-- Two pictures of the same height side by side. -/
def beside (left right : Picture) : Picture := List.zipWith (· ++ ·) left right

/-- The line of a frame from one corner to the other, cut off at the width. -/
def frameLine (style : Style) (width : Nat) (left right : Char) (middle : Row) : Row :=
  (Cell.mk left style :: middle ++ [Cell.mk right style]).take width

/-- The top line of a frame: the title stands right behind the corner. -/
def topLine (style : Style) (title : String) (width : Nat) : Row :=
  let room := width - 2
  let title := (Row.ofText style title).take room
  frameLine style width '┌' '┐' (title ++ List.replicate (room - title.length) (Cell.mk '─' style))

/-- The bottom line of a frame. -/
def bottomLine (style : Style) (width : Nat) : Row :=
  frameLine style width '└' '┘' (List.replicate (width - 2) (Cell.mk '─' style))

/-- A frame around a picture that is two cells narrower and two rows lower. A frame of one row has only its top, and one of
one column only its left side. -/
def framed (style : Style) (title : String) (width height : Nat) (inside : Picture) : Picture :=
  (topLine style title width :: (inside.map (frameLine style width '│' '│') ++
    [bottomLine style width])).take height

end Picture

end TracePlayer
