import Mathlib.Logic.ExistsUnique
import TracePlayer.Proofs.Footprint
import TracePlayer.Screen.MemoryPane

/-!
# The lines of the grid

What the pane of the memory shows, place by place. A line that shows a row of the grid (`ShowsRow`) has the number of the row and
then, four places each, the cells of the row in order. The rows together have every address of the grid once. The main statement is
`draw_shows_grid`: the lines below the numbers of the columns show the rows of the window, cut off at the width of the pane, and
nothing stands below them.
-/

namespace TracePlayer

/-! ## What stands inside a frame -/

/-- What stands at a place of a picture, counted from the left and from the top. -/
def Picture.at? (picture : Picture) (x y : Nat) : Option Cell := picture[y]?.bind (·[x]?)

/-- A list that is cut off or filled up to a length shows what it has, and the filling behind that. -/
theorem Picture.getElem?_filled {α : Type} (items : List α) (filling : α) {length i : Nat} (hi : i < length) :
    (items.take length ++ List.replicate (length - items.length) filling)[i]? = some (items[i]?.getD filling) := by
  by_cases hitem : i < items.length
  · have htake : i < (items.take length).length := by
      rw [List.length_take]
      omega
    rw [List.getElem?_append_left htake, List.getElem?_take_of_lt hi, List.getElem?_eq_getElem hitem]
    rfl
  · have htake : (items.take length).length ≤ i := by
      rw [List.length_take]
      omega
    rw [List.getElem?_append_right htake, List.length_take, List.getElem?_replicate, if_pos (by omega),
      List.getElem?_eq_none (Nat.le_of_not_lt hitem)]
    rfl

namespace Row

/-- A text without line feeds takes a place for each of its characters. -/
theorem ofText_eq_map {style : Style} {text : String} (h : '\n' ∉ text.toList) :
    ofText style text = text.toList.map fun c => ⟨c, style⟩ := by
  have hall : text.toList.filter (· != '\n') = text.toList := by
    rw [List.filter_eq_self]
    intro c hc
    have hne : c ≠ '\n' := by
      rintro rfl
      exact h hc
    simpa using hne
  rw [ofText, hall]

/-- A row that is made as wide as wanted shows what it has, and blanks behind that. -/
theorem getElem?_fit {style : Style} {width x : Nat} (row : Row) (hx : x < width) :
    (fit style width row)[x]? = some (row[x]?.getD (Cell.blank style)) := Picture.getElem?_filled row _ hx

end Row

namespace Picture

variable {style border : Style} {width height x y : Nat}

/-- A picture that is made as large as wanted shows its rows, and blanks besides. -/
theorem at?_fit (picture : Picture) (hx : x < width) (hy : y < height) :
    (fit style width height picture).at? x y = some ((picture[y]?.getD [])[x]?.getD (Cell.blank style)) := by
  have hrow := getElem?_filled (picture.map (Row.fit style width)) (Row.blank style width) hy
  rw [← List.map_take, List.length_map, List.getElem?_map] at hrow
  rw [at?, fit, hrow, Option.bind_some]
  cases picture[y]? with
  | none => simp [Row.blank, hx]
  | some row => exact Row.getElem?_fit row hx

/-- Between the sides of a frame stands the picture that is inside. -/
theorem at?_framed (title : String) {inside : Picture} (hheight : inside.length = height - 2)
    (hwidth : ∀ row ∈ inside, row.length = width - 2) (hx : x < width - 2) (hy : y < height - 2) :
    (framed border title width height inside).at? (x + 1) (y + 1) = inside.at? x y := by
  have hrow : y < inside.length := by omega
  have hlength : inside[y].length = width - 2 := hwidth _ (List.getElem_mem hrow)
  unfold at? framed
  rw [List.getElem?_take_of_lt (by omega), List.getElem?_cons_succ,
    List.getElem?_append_left (by rwa [List.length_map]), List.getElem?_map, List.getElem?_eq_getElem hrow]
  simp only [Option.map_some, Option.bind_some, frameLine]
  rw [List.getElem?_take_of_lt (by omega), List.cons_append, List.getElem?_cons_succ, List.getElem?_append_left (by omega)]

/-- A frame is as high as wanted, if there is room for it. -/
theorem length_framed (title : String) {inside : Picture} (hheight : inside.length = height - 2) (htwo : 2 ≤ height) :
    (framed border title width height inside).length = height := by
  unfold framed
  rw [List.length_take, List.length_cons, List.length_append, List.length_map, List.length_singleton, hheight]
  omega

/-- The last row of a frame is its bottom line. -/
theorem getElem?_framed_last (title : String) {inside : Picture} (hheight : inside.length = height - 2) (htwo : 2 ≤ height) :
    (framed border title width height inside)[height - 1]? = some (bottomLine border width) := by
  have hlast : height - 1 = (inside.map (frameLine border width '│' '│')).length + 1 := by
    rw [List.length_map]
    omega
  unfold framed
  rw [List.getElem?_take_of_lt (by omega), hlast, List.getElem?_cons_succ, List.getElem?_concat_length]

end Picture

namespace MemoryPane

/-! ## The lines of rows -/

/-- The digits of the number of a row, three at least. -/
def rowDigits (r : Nat) : List Char := List.replicate (3 - (Nat.toDigits 10 r).length) '0' ++ Nat.toDigits 10 r

/-- The place behind the number of a row and the two blanks that follow it. -/
def firstPlace (r : Nat) : Nat := (rowDigits r).length + 2

/-- The addresses of the cells of a row: ten from its start on, as far as the grid reaches. -/
def rowAddresses (s : Stage) (r : Nat) : List Nat := List.range' (10 * r) (min (10 * r + 10) s.memory.size - 10 * r)

/-- The style of a cell: flashing counts before bold. -/
def cellStyle (s : Stage) (a : Nat) : Style :=
  if s.isFlashing (.cell a) then (Style.ofColor Palette.flash).inBold
  else if s.isBold (.cell a) then (Style.ofColor Palette.bold).inBold
  else .ofColor Palette.text

/-- A line shows a row of the grid: its number, and of each cell in order three digits in the style of the cell, and a blank. -/
structure ShowsRow (s : Stage) (r : Nat) (line : Row) : Prop where
  number : line.take (firstPlace r) = (rowDigits r ++ [' ', ' ']).map fun c => ⟨c, numberStyle⟩
  length : line.length = firstPlace r + 4 * (rowAddresses s r).length
  cell : ∀ j a, (rowAddresses s r)[j]? = some a → ∃ value, s.readByte a = some value ∧
    (line.drop (firstPlace r + 4 * j)).take 4 =
      ((threeDigits value).toList.map fun c => ⟨c, cellStyle s a⟩) ++ [Cell.blank .plain]

namespace GridLinesAux

variable {s : Stage} {r a : Nat}

/-- A block of a list that is made of blocks of the same length. -/
theorem take_drop_flatMap {α β : Type} {f : α → List β} {n j : Nat} {items : List α} {i : α} (hf : ∀ i ∈ items, (f i).length = n)
    (hi : items[j]? = some i) : ((items.flatMap f).drop (n * j)).take n = f i := by
  induction items generalizing j with
  | nil => cases hi
  | cons first rest ih =>
    obtain ⟨hfirst, hrest⟩ := List.forall_mem_cons.1 hf
    rw [List.flatMap_cons]
    cases j with
    | zero =>
      obtain rfl := Option.some.inj hi
      rw [Nat.mul_zero, List.drop_zero, List.take_append_of_le_length (Nat.le_of_eq hfirst.symm), ← hfirst, List.take_length]
    | succ j =>
      have hlength : n * (j + 1) = (f first).length + n * j := by rw [hfirst, Nat.mul_succ, Nat.add_comm]
      rw [hlength, List.drop_append]
      simp only [Nat.add_sub_cancel_left, List.drop_eq_nil_of_le (Nat.le_add_right _ _), List.nil_append]
      exact ih hrest hi

theorem length_flatMap_of_length {α β : Type} {f : α → List β} {n : Nat} {items : List α}
    (hf : ∀ i ∈ items, (f i).length = n) : (items.flatMap f).length = n * items.length := by
  rw [List.length_flatMap, List.map_congr_left hf, List.map_const', List.sum_replicate_nat, Nat.mul_comm]

/-- A number has no line feed in it. -/
theorem not_mem_zeroPadded (width n : Nat) : '\n' ∉ (Text.zeroPadded width n).toList := by
  intro hmem
  rw [Text.toList_zeroPadded, List.mem_append] at hmem
  rcases hmem with hmem | hmem
  · exact absurd (List.eq_of_mem_replicate hmem) (by decide)
  · exact absurd (Text.isDigit_of_mem_toDigits hmem) (by decide)

/-- A cell takes four places. -/
theorem cell_eq (value : UInt8) :
    MemoryPane.cell s a value = ((threeDigits value).toList.map fun c => ⟨c, cellStyle s a⟩) ++ [Cell.blank .plain] := by
  have hdigits : '\n' ∉ (Machine.cellText value).toList := not_mem_zeroPadded 3 value.toNat
  rw [MemoryPane.cell, Row.ofText_eq_map hdigits, FootprintAux.cellText_eq]
  rfl

theorem length_cell (value : UInt8) : (MemoryPane.cell s a value).length = 4 := by
  rw [cell_eq]
  simp [threeDigits]

/-- What is drawn of an address. -/
def cellAt (s : Stage) (a : Nat) : Row :=
  match s.readByte a with
  | some value => MemoryPane.cell s a value
  | none => []

/-- An address of a row has a cell, which is drawn in four places. -/
theorem cellAt_of_mem (h : a ∈ rowAddresses s r) :
    ∃ value, s.readByte a = some value ∧ cellAt s a = MemoryPane.cell s a value := by
  rw [rowAddresses, List.mem_range'_1] at h
  have hinside : a < s.memory.size := by omega
  have hvalue : s.readByte a = some s.memory[a] := Array.getElem?_eq_getElem hinside
  refine ⟨s.memory[a], hvalue, ?_⟩
  rw [cellAt, hvalue]

/-- The line of a row is its number, two blanks and its cells. -/
theorem gridRow_eq (s : Stage) (r : Nat) :
    gridRow s r = ((rowDigits r ++ [' ', ' ']).map fun c => ⟨c, numberStyle⟩) ++ (rowAddresses s r).flatMap (cellAt s) := by
  have hfeed : '\n' ∉ (Text.zeroPadded 3 r ++ "  ").toList := by
    rw [String.toList_append, List.mem_append]
    rintro (hmem | hmem)
    · exact not_mem_zeroPadded 3 r hmem
    · exact absurd hmem (by decide)
  have hlabel : Row.ofText numberStyle (Text.zeroPadded 3 r ++ "  ") =
      (rowDigits r ++ [' ', ' ']).map fun c => ⟨c, numberStyle⟩ := by
    rw [Row.ofText_eq_map hfeed, String.toList_append, Text.toList_zeroPadded]
    rfl
  rw [gridRow, hlabel, Machine.rowWidth, Nat.mul_comm r 10]
  rfl

end GridLinesAux

open GridLinesAux

/-- The line that is drawn for a row shows the row. -/
theorem showsRow_gridRow (s : Stage) (r : Nat) : ShowsRow s r (gridRow s r) := by
  have hlabel : ((rowDigits r ++ [' ', ' ']).map fun c => (⟨c, numberStyle⟩ : Cell)).length = firstPlace r := by
    rw [List.length_map, List.length_append]
    rfl
  have hcells : ∀ a ∈ rowAddresses s r, (cellAt s a).length = 4 := by
    intro a ha
    obtain ⟨value, -, hcell⟩ := cellAt_of_mem ha
    rw [hcell, length_cell]
  rw [gridRow_eq]
  refine ⟨?number, ?length, fun j a ha => ?cell⟩
  case number => rw [← hlabel, List.take_left]
  case length => rw [List.length_append, hlabel, length_flatMap_of_length hcells]
  case cell =>
    obtain ⟨value, hvalue, hcell⟩ := cellAt_of_mem (List.mem_of_getElem? ha)
    refine ⟨value, hvalue, ?_⟩
    rw [← hlabel, List.drop_append, Nat.add_sub_cancel_left, List.drop_eq_nil_of_le (Nat.le_add_right _ _), List.nil_append,
      take_drop_flatMap hcells ha, hcell, cell_eq]

/-! ## The rows together -/

/-- The cells of a row are those whose addresses have its number in front of their last digit. -/
theorem getElem?_rowAddresses (s : Stage) {r j a : Nat} :
    (rowAddresses s r)[j]? = some a ↔ a < s.memory.size ∧ r = a / 10 ∧ j = a % 10 := by
  unfold rowAddresses
  by_cases hj : j < min (10 * r + 10) s.memory.size - 10 * r
  · have hplace : (List.range' (10 * r) (min (10 * r + 10) s.memory.size - 10 * r))[j]? = some (10 * r + j) := by
      rw [List.getElem?_range' hj, Nat.one_mul]
    rw [hplace, Option.some_inj]
    omega
  · rw [List.getElem?_eq_none (by rw [List.length_range']; omega)]
    constructor
    · intro h
      cases h
    · omega

/-- The row of an address of the grid is a row of the grid. -/
theorem row_lt_rowCount {s : Stage} {a : Nat} (ha : a < s.memory.size) : a / Machine.rowWidth < rowCount s := by
  unfold rowCount Machine.rowWidth
  omega

/-- Every address of the grid is in one row, at one place of it. -/
theorem existsUnique_place (s : Stage) {a : Nat} (ha : a < s.memory.size) :
    ∃! place : Nat × Nat, place.1 < (s.memory.size + 9) / 10 ∧ (rowAddresses s place.1)[place.2]? = some a := by
  refine ⟨(a / 10, a % 10), ⟨by omega, ?_⟩, ?_⟩
  · rw [getElem?_rowAddresses]
    exact ⟨ha, rfl, rfl⟩
  · rintro ⟨r, j⟩ ⟨-, hplace⟩
    obtain ⟨-, rfl, rfl⟩ := (getElem?_rowAddresses s).1 hplace
    rfl

/-! ## The picture -/

theorem mem_shownRows {s : Stage} {w : Window} {height row : Nat} :
    row ∈ shownRows s w height ↔ w.offset ≤ row ∧ row < w.offset + visibleRows height ∧ row < rowCount s := by
  rw [shownRows, List.mem_range'_1]
  omega

theorem length_shownRows (s : Stage) (w : Window) (height : Nat) :
    (shownRows s w height).length = min (visibleRows height) (rowCount s - w.offset) := List.length_range' ..

theorem getElem?_shownRows {s : Stage} {w : Window} {height k : Nat} (hk : k < min (visibleRows height) (rowCount s - w.offset)) :
    (shownRows s w height)[k]? = some (w.offset + k) := by
  rw [shownRows, List.getElem?_range' hk, Nat.one_mul]

/-- Inside its frame the pane shows the numbers of the columns, and the lines of its rows below them. -/
theorem at?_draw (s : Stage) (focused : Bool) (w : Window) {width height x y : Nat} (hx : x < width - 2) (hy : y < height - 2) :
    (draw s focused w width height).at? (x + 1) (y + 1) =
      some (((header :: (shownRows s w height).map (gridRow s))[y]?.getD [])[x]?.getD (Cell.blank .plain)) := by
  unfold draw
  rw [Picture.at?_framed _ (Picture.length_fit ..) (fun row hrow => Picture.length_of_mem_fit hrow) hx hy]
  exact Picture.at?_fit _ hx hy

/-- The pane of the memory tells the truth about every cell, in five parts, whatever the grid, the window and the width.
1. The picture is as high as the pane. In its second row stand the numbers of the columns, and the last is that of the frame.
2. Each line below these numbers, as many as the pane has room for and the grid has rows from the window on, shows its row of the
   grid, cut off at the width of the pane.
3. Below these lines stands nothing, down to the frame.
4. The rows hold no addresses but those of the grid.
5. Each address of the grid is in one row, at one place of it. -/
theorem draw_shows_grid (s : Stage) (focused : Bool) (w : Window) (width : Nat) {height : Nat} (hheight : 4 ≤ height) :
    let window := w.settle s height
    let picture := draw s focused window width height
    let total := (s.memory.size + 9) / 10
    let shown := min (max (height - 3) 1) (total - window.offset)
    (picture.length = height ∧ (∀ x < width - 2, picture.at? (x + 1) 1 = some (header[x]?.getD (Cell.blank .plain))) ∧
      picture[height - 1]? = some (Picture.bottomLine (Palette.frame focused) width)) ∧
    (∀ k < shown, ∃ row, ShowsRow s (window.offset + k) row ∧
      ∀ x < width - 2, picture.at? (x + 1) (k + 2) = some (row[x]?.getD (Cell.blank .plain))) ∧
    (∀ k, shown ≤ k → k < height - 3 → ∀ x < width - 2, picture.at? (x + 1) (k + 2) = some (Cell.blank .plain)) ∧
    (∀ r, ∀ a ∈ rowAddresses s r, a < s.memory.size) ∧
    ∀ a < s.memory.size, ∃! place : Nat × Nat, place.1 < total ∧ (rowAddresses s place.1)[place.2]? = some a := by
  intro window picture total shown
  have hcount : (shownRows s window height).length = shown := length_shownRows s window height
  refine ⟨⟨?height, fun x hx => ?header, ?bottom⟩, fun k hk => ?lines, fun k hk hroom x hx => ?nothing, fun r a ha => ?inside,
    fun a ha => existsUnique_place s ha⟩
  case height => exact Picture.length_framed _ (Picture.length_fit ..) (by omega)
  case header => exact at?_draw s focused window hx (by omega)
  case bottom => exact Picture.getElem?_framed_last _ (Picture.length_fit ..) (by omega)
  case lines =>
    refine ⟨gridRow s (window.offset + k), showsRow_gridRow s _, fun x hx => ?_⟩
    have hplace := at?_draw s focused window hx (by omega : k + 1 < height - 2)
    rwa [List.getElem?_cons_succ, List.getElem?_map, getElem?_shownRows hk] at hplace
  case nothing =>
    have hplace := at?_draw s focused window hx (by omega : k + 1 < height - 2)
    have hnone : (shownRows s window height)[k]? = none := List.getElem?_eq_none (by omega)
    rwa [List.getElem?_cons_succ, List.getElem?_map, hnone] at hplace
  case inside =>
    obtain ⟨j, hj⟩ := List.mem_iff_getElem?.1 ha
    exact ((getElem?_rowAddresses s).1 hj).1

/-- A grid of 23 cells in a pane with room for one row, whose window stood behind the grid: the last row is shown, of which a cell
flashes, and it has three cells. -/
theorem draw_shows_grid_short_row :
    let s : Stage := { Stage.initial with
      memory := Array.replicate 23 7, flashing := [.cell 21, .register .mdr], bold := [.cell 20, .cell 21] }
    let picture := draw s true (Window.settle ⟨9, none⟩ s 4) 16 4
    (∃ row, ShowsRow s 2 row ∧ ∀ x < 14, picture.at? (x + 1) 2 = some (row[x]?.getD (Cell.blank .plain))) ∧
      rowAddresses s 2 = [20, 21, 22] ∧ cellStyle s 20 = (Style.ofColor Palette.bold).inBold ∧
      cellStyle s 21 = (Style.ofColor Palette.flash).inBold ∧ cellStyle s 22 = .ofColor Palette.text := by
  intro s picture
  have hoffset : (Window.settle ⟨9, none⟩ s 4).offset = 2 := by decide
  obtain ⟨-, hlines, -⟩ := draw_shows_grid s true ⟨9, none⟩ 16 (Nat.le_refl 4)
  have hline := hlines 0 (by decide)
  rw [hoffset] at hline
  exact ⟨hline, by decide, by decide, by decide, by decide⟩

end MemoryPane

end TracePlayer
