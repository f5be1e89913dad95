import Mathlib.Tactic.SplitIfs
import TracePlayer.Proofs.GridLines

/-!
# The columns of the grid

The numbers of the columns stand once above all rows, at places that fit rows whose own numbers have three digits. But the number
of a row has as many digits as it needs, and the cells of the row stand behind it. So the cells of the first thousand rows stand
below the numbers of their columns, and those of a later row as many places to the right of them as the number of the row has digits
beyond three. The main statement is `cell_below_number_iff`; `thousandth_row_beside_columns` draws such a row.
-/

namespace TracePlayer

/-- Some cells stand in a picture, from a place on to the right. -/
def Picture.Shows (picture : Picture) (x y : Nat) (cells : Row) : Prop :=
  ∀ i cell, cells[i]? = some cell → picture.at? (x + i) y = some cell

namespace MemoryPane

/-- The number of a column, at the right end of three places. -/
def columnNumber (c : Nat) : Row := (Text.padLeft 3 (toString c)).toList.map fun char => ⟨char, numberStyle⟩

/-- The three digits of a cell, in the style of the cell. -/
def cellDigits (s : Stage) (a : Nat) (value : UInt8) : Row :=
  (threeDigits value).toList.map fun char => ⟨char, cellStyle s a⟩

/-- How many digits the number of a row has beyond three. -/
def excess (r : Nat) : Nat := (Nat.toDigits 10 r).length - 3

namespace ColumnsAux

variable {s : Stage} {w : Window} {width height k c a : Nat}

/-! ## The digits of the number of a row -/

/-- The number of a row takes three places, and one more for each further digit. -/
theorem firstPlace_eq (r : Nat) : firstPlace r = 5 + excess r := by
  simp only [firstPlace, rowDigits, excess, List.length_append, List.length_replicate]
  omega

/-- In the greatest grid the numbers of rows have six digits at most. -/
theorem excess_eq {r : Nat} (hr : r < 1000000) :
    excess r = if r < 1000 then 0 else if r < 10000 then 1 else if r < 100000 then 2 else 3 := by
  have hthree : (Nat.toDigits 10 r).length ≤ 3 ↔ r < 1000 := Nat.length_toDigits_le_iff (by decide) (by decide)
  have hfour : (Nat.toDigits 10 r).length ≤ 4 ↔ r < 10000 := Nat.length_toDigits_le_iff (by decide) (by decide)
  have hfive : (Nat.toDigits 10 r).length ≤ 5 ↔ r < 100000 := Nat.length_toDigits_le_iff (by decide) (by decide)
  have hsix : (Nat.toDigits 10 r).length ≤ 6 ↔ r < 1000000 := Nat.length_toDigits_le_iff (by decide) (by decide)
  unfold excess
  split_ifs <;> omega

theorem lt_of_grid (hsize : s.memory.size ≤ Machine.greatestKilobytes * 1024) {r : Nat} (h : (rowAddresses s r)[c]? = some a) :
    r < 1000000 := by
  obtain ⟨hinside, rfl, -⟩ := (getElem?_rowAddresses s).1 h
  unfold Machine.greatestKilobytes at hsize
  omega

/-- A row that has a cell is a row of the grid. -/
theorem row_lt_rowCount_of_cell {r : Nat} (h : (rowAddresses s r)[c]? = some a) : r < rowCount s := by
  obtain ⟨hinside, rfl, -⟩ := (getElem?_rowAddresses s).1 h
  exact row_lt_rowCount hinside

/-! ## What stands in a line -/

/-- Part of a line of a picture stands in the picture. -/
theorem shows_of_line {picture : Picture} {row cells rest : Row} {y place n : Nat}
    (hline : ∀ x < width, picture.at? (x + 1) y = some (row[x]?.getD (Cell.blank .plain)))
    (hcells : (row.drop place).take n = cells ++ rest) (hwide : place + cells.length ≤ width) :
    picture.Shows (place + 1) y cells := by
  intro i cell hcell
  obtain ⟨hi, -⟩ := List.getElem?_eq_some_iff.1 hcell
  have hpart : ((row.drop place).take n)[i]? = some cell := by
    rw [hcells, List.getElem?_append_left hi]
    exact hcell
  have hplace : row[place + i]? = some cell := by
    rw [List.getElem?_take] at hpart
    split at hpart
    · rwa [List.getElem?_drop] at hpart
    · cases hpart
  have hat := hline (place + i) (by omega)
  rw [hplace] at hat
  rw [show place + 1 + i = place + i + 1 by omega]
  exact hat

theorem at?_header (s : Stage) (focused : Bool) (w : Window) (hheight : 2 < height) :
    ∀ x < width - 2, (draw s focused w width height).at? (x + 1) 1 = some (header[x]?.getD (Cell.blank .plain)) := by
  intro x hx
  have hy : 0 < height - 2 := by omega
  exact at?_draw s focused w hx hy

theorem at?_row (focused : Bool) (hline : k < height - 3) (hrow : w.offset + k < rowCount s) :
    ∀ x < width - 2, (draw s focused w width height).at? (x + 1) (k + 2) =
      some ((gridRow s (w.offset + k))[x]?.getD (Cell.blank .plain)) := by
  intro x hx
  have hshown : k < min (visibleRows height) (rowCount s - w.offset) := by
    unfold visibleRows
    omega
  have hy : k + 1 < height - 2 := by omega
  have hat := at?_draw s focused w hx hy
  rw [List.getElem?_cons_succ, List.getElem?_map, getElem?_shownRows hshown] at hat
  exact hat

/-- The numbers of the columns stand four places apart. -/
theorem take_drop_header : ∀ c < 10, (header.drop (5 + 4 * c)).take 3 = columnNumber c ++ [] := by decide +kernel

/-- The number of a column stands above the rows. -/
theorem shows_columnNumber (s : Stage) (focused : Bool) (w : Window) (hheight : 2 < height) (hc : c < 10)
    (hwide : 5 + 4 * c + 3 ≤ width - 2) : (draw s focused w width height).Shows (6 + 4 * c) 1 (columnNumber c) := by
  have hlength : (columnNumber c).length = 3 := by
    have hall : ∀ c < 10, (columnNumber c).length = 3 := by decide +kernel
    exact hall c hc
  have hshows := shows_of_line (at?_header s focused w hheight) (take_drop_header c hc)
    (by rw [hlength]; exact hwide)
  rw [show 6 + 4 * c = 5 + 4 * c + 1 by omega]
  exact hshows

/-- The digits of a cell stand behind the number of its row, four places for each cell before it. -/
theorem shows_cellDigits (focused : Bool) (hline : k < height - 3) (hcell : (rowAddresses s (w.offset + k))[c]? = some a)
    (hwide : firstPlace (w.offset + k) + 4 * c + 3 ≤ width - 2) :
    ∃ value, s.readByte a = some value ∧
      (draw s focused w width height).Shows (6 + 4 * c + excess (w.offset + k)) (k + 2) (cellDigits s a value) := by
  have hrow := row_lt_rowCount_of_cell hcell
  obtain ⟨-, -, hcells⟩ := showsRow_gridRow s (w.offset + k)
  obtain ⟨value, hvalue, hdigits⟩ := hcells c a hcell
  refine ⟨value, hvalue, ?_⟩
  have hlength : (cellDigits s a value).length = 3 := by simp [cellDigits, threeDigits]
  have hshows : (draw s focused w width height).Shows (firstPlace (w.offset + k) + 4 * c + 1) (k + 2) (cellDigits s a value) :=
    shows_of_line (at?_row focused hline hrow) hdigits (by rw [hlength]; exact hwide)
  rw [show 6 + 4 * c + excess (w.offset + k) = firstPlace (w.offset + k) + 4 * c + 1 by rw [firstPlace_eq]; omega]
  exact hshows

/-- In front of a cell stands a blank: behind the number of the row, or behind the cell before. -/
theorem blank_before_cell {r : Nat} {row : Row} (hrow : ShowsRow s r row) (hcell : (rowAddresses s r)[c]? = some a) :
    ∃ style, row[firstPlace r + 4 * c - 1]? = some (Cell.blank style) := by
  cases c with
  | zero =>
    refine ⟨numberStyle, ?_⟩
    have hlast : (row.take (firstPlace r))[(rowDigits r).length + 1]? = some (Cell.blank numberStyle) := by
      rw [hrow.number, List.getElem?_map, List.getElem?_append_right (Nat.le_add_right _ 1), Nat.add_sub_cancel_left]
      rfl
    rw [List.getElem?_take_of_lt (show (rowDigits r).length + 1 < firstPlace r from Nat.lt_succ_self _)] at hlast
    exact hlast
  | succ c =>
    obtain ⟨hinside, hr, hc⟩ := (getElem?_rowAddresses s).1 hcell
    have hbefore : (rowAddresses s r)[c]? = some (a - 1) := (getElem?_rowAddresses s).2 (by omega)
    obtain ⟨value, -, hdigits⟩ := hrow.cell c (a - 1) hbefore
    refine ⟨.plain, ?_⟩
    have hlast : ((row.drop (firstPlace r + 4 * c)).take 4)[3]? = some (Cell.blank .plain) := by
      rw [hdigits]
      simp [threeDigits]
    rw [List.getElem?_take_of_lt (by decide), List.getElem?_drop] at hlast
    rw [show firstPlace r + 4 * (c + 1) - 1 = firstPlace r + 4 * c + 3 by omega]
    exact hlast

theorem digitChar_ne_blank : ∀ d < 10, Nat.digitChar d ≠ ' ' := by decide

/-- The digits of a cell leave no blank. -/
theorem glyph_ne_blank {value : UInt8} {cell : Cell} (h : cell ∈ cellDigits s a value) : cell.glyph ≠ ' ' := by
  have hvalue : value.toNat < 256 := value.toNat_lt
  simp only [cellDigits, threeDigits, String.toList_ofList, List.map_cons, List.map_nil, List.mem_cons, List.not_mem_nil,
    or_false] at h
  rcases h with rfl | rfl | rfl
  · exact digitChar_ne_blank _ (by omega)
  · exact digitChar_ne_blank _ (by omega)
  · exact digitChar_ne_blank _ (by omega)

/-- A cell that stands one to three places to the right of the number of its column does not stand below it: below one of the places
of the number is the blank in front of the cell. -/
theorem not_shows_of_excess (focused : Bool) (hline : k < height - 3) (hcell : (rowAddresses s (w.offset + k))[c]? = some a)
    (hwide : firstPlace (w.offset + k) + 4 * c + 3 ≤ width - 2) (hexcess : 0 < excess (w.offset + k))
    (hthree : excess (w.offset + k) ≤ 3) (value : UInt8) :
    ¬(draw s focused w width height).Shows (6 + 4 * c) (k + 2) (cellDigits s a value) := by
  intro hshows
  obtain ⟨style, hblank⟩ := blank_before_cell (showsRow_gridRow s (w.offset + k)) hcell
  have hplace := firstPlace_eq (w.offset + k)
  have hx : firstPlace (w.offset + k) + 4 * c - 1 < width - 2 := by omega
  have hat := at?_row focused hline (row_lt_rowCount_of_cell hcell) _ hx
  have hsame : firstPlace (w.offset + k) + 4 * c - 1 + 1 = 6 + 4 * c + (excess (w.offset + k) - 1) := by omega
  rw [hblank, hsame] at hat
  have hlength : (cellDigits s a value).length = 3 := by simp [cellDigits, threeDigits]
  obtain ⟨cell, hcell⟩ : ∃ cell, (cellDigits s a value)[excess (w.offset + k) - 1]? = some cell :=
    ⟨_, List.getElem?_eq_getElem (by omega)⟩
  have hglyph := glyph_ne_blank (List.mem_of_getElem? hcell)
  rw [hshows _ cell hcell, Option.some_inj] at hat
  rw [hat] at hglyph
  exact hglyph rfl

/-- A grid that has just been given its size has as many cells, all of them zero. -/
theorem readByte_resize (s : Stage) {kilobytes : Nat} (hsize : kilobytes ≤ Machine.greatestKilobytes) (h : a < kilobytes * 1024) :
    (s.resize kilobytes).memory.size = kilobytes * 1024 ∧ (s.resize kilobytes).readByte a = some 0 := by
  have hcells : min kilobytes Machine.greatestKilobytes * 1024 = kilobytes * 1024 := by rw [Nat.min_eq_left hsize]
  have hmemory : (s.resize kilobytes).memory = Array.replicate (kilobytes * 1024) 0 := by rw [← hcells]; rfl
  refine ⟨?_, ?_⟩
  · rw [hmemory, Array.size_replicate]
  · rw [Stage.readByte, hmemory, Array.getElem?_replicate, if_pos h]

end ColumnsAux

open ColumnsAux

/-- A cell stands below the number of its column exactly in the first thousand rows, in three parts, for every cell that is drawn:
whatever the grid, the window, and the width, if only the digits of the cell are not cut off.
1. The number of the column stands above the rows in three places of its own.
2. The three digits of the cell stand as many places to the right of them as the number of the row has digits beyond three.
3. That is in the three places of the number of the column for rows before the thousandth, and for no later one. -/
theorem cell_below_number_iff (s : Stage) (focused : Bool) (w : Window) {width height k c a : Nat}
    (hsize : s.memory.size ≤ Machine.greatestKilobytes * 1024) (hline : k < height - 3)
    (hcell : (rowAddresses s (w.offset + k))[c]? = some a) (hwide : firstPlace (w.offset + k) + 4 * c + 3 ≤ width - 2) :
    let r := w.offset + k
    let picture := draw s focused w width height
    picture.Shows (6 + 4 * c) 1 (columnNumber c) ∧
    ∃ value, s.readByte a = some value ∧
      (excess r = (if r < 1000 then 0 else if r < 10000 then 1 else if r < 100000 then 2 else 3) ∧
        picture.Shows (6 + 4 * c + excess r) (k + 2) (cellDigits s a value)) ∧
      (picture.Shows (6 + 4 * c) (k + 2) (cellDigits s a value) ↔ r < 1000) := by
  intro r picture
  have hexcess := excess_eq (lt_of_grid hsize hcell)
  have hplace := firstPlace_eq (w.offset + k)
  obtain ⟨value, hvalue, hshows⟩ := shows_cellDigits focused hline hcell hwide
  have hten : c < 10 := by
    obtain ⟨-, -, rfl⟩ := (getElem?_rowAddresses s).1 hcell
    omega
  refine ⟨shows_columnNumber s focused w (by omega) hten (by omega), value, hvalue, ⟨hexcess, hshows⟩, fun hbelow => ?_, fun hr => ?_⟩
  · refine Decidable.byContradiction fun hr => ?_
    have hlater : 0 < excess r ∧ excess r ≤ 3 := by
      rw [hexcess, if_neg hr]
      split_ifs <;> decide
    exact not_shows_of_excess focused hline hcell hwide hlater.1 hlater.2 value hbelow
  · have hzero : excess r = 0 := by rw [hexcess, if_pos hr]
    rw [hzero] at hshows
    exact hshows

/-- The last cell of the greatest grid stands three places to the right of the number of its column, which is the fifth. -/
theorem cell_below_number_iff_last_cell :
    let s := Stage.initial.resize 1024
    let w : Window := ⟨104851, none⟩
    let picture := draw s false w 60 10
    (s.memory.size ≤ Machine.greatestKilobytes * 1024 ∧ (rowAddresses s (w.offset + 6))[5]? = some 1048575 ∧
      firstPlace (w.offset + 6) + 4 * 5 + 3 ≤ 60 - 2) ∧
    picture.Shows 26 1 (columnNumber 5) ∧
    ∃ value, picture.Shows 29 8 (cellDigits s 1048575 value) ∧ ¬picture.Shows 26 8 (cellDigits s 1048575 value) := by
  intro s w picture
  obtain ⟨hmemory, -⟩ := readByte_resize Stage.initial (by decide : 1024 ≤ _) (by decide : 0 < _)
  have hsize : s.memory.size ≤ Machine.greatestKilobytes * 1024 := Nat.le_of_eq hmemory
  have hcell : (rowAddresses s (w.offset + 6))[5]? = some 1048575 := by
    rw [getElem?_rowAddresses, hmemory]
    decide
  have hwide : firstPlace (w.offset + 6) + 4 * 5 + 3 ≤ 60 - 2 := by decide +kernel
  obtain ⟨hnumber, value, -, ⟨hexcess, hshows⟩, hbelow⟩ :=
    cell_below_number_iff s false w hsize (by decide : 6 < 10 - 3) hcell hwide
  rw [hexcess] at hshows
  exact ⟨⟨hsize, hcell, hwide⟩, hnumber, value, hshows, fun h => absurd (hbelow.1 h) (by decide)⟩

/-- A grid of ten kilobytes, drawn from its row 1000 on: the first cell of the row stands one place to the right of the number of its
column, and not below it. -/
theorem thousandth_row_beside_columns :
    let s := Stage.initial.resize 10
    let w : Window := ⟨1000, none⟩
    let picture := draw s false (w.settle s 10) 60 10
    (w.settle s 10 = w ∧ s.readByte 10000 = some 0) ∧ picture.Shows 6 1 (columnNumber 0) ∧
      picture.Shows 7 2 (cellDigits s 10000 0) ∧ ¬picture.Shows 6 2 (cellDigits s 10000 0) := by
  intro s w picture
  obtain ⟨hmemory, hzero⟩ := readByte_resize Stage.initial (by decide : 10 ≤ _) (by decide : 10000 < _)
  have hsettle : w.settle s 10 = w := by
    have hcount : rowCount s = 1024 := by rw [rowCount, hmemory]; rfl
    rw [Window.settle, hcount]
    rfl
  have hcell : (rowAddresses s (w.offset + 0))[0]? = some 10000 := by
    rw [getElem?_rowAddresses, hmemory]
    decide
  have hwide : firstPlace (w.offset + 0) + 4 * 0 + 3 ≤ 60 - 2 := by decide +kernel
  have hexcess : excess (w.offset + 0) = 1 := excess_eq (by decide)
  obtain ⟨value, hvalue, hshows⟩ := shows_cellDigits false (by decide : 0 < 10 - 3) hcell hwide
  obtain rfl : (0 : UInt8) = value := Option.some.inj (hzero.symm.trans hvalue)
  have hpicture : picture = draw s false w 60 10 := by rw [← hsettle]
  rw [hpicture]
  rw [hexcess] at hshows
  exact ⟨⟨hsettle, hzero⟩, shows_columnNumber s false w (by decide) (by decide) (by decide), hshows,
    not_shows_of_excess false (by decide) hcell hwide (by omega) (by omega) 0⟩

end MemoryPane

end TracePlayer
