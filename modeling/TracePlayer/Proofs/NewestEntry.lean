import TracePlayer.Console.Press
import TracePlayer.Proofs.Account
import TracePlayer.Proofs.GridLines
import TracePlayer.Screen.CommentaryPane

/-!
# The newest entry of the commentary

The pane of the commentary counts entries: of a height it takes the last entries, as many as there are rows inside the frame. But it
draws rows, and an entry takes one for each of its lines. So the newest entry is drawn when the rows of the entries that were taken
all fit, and when they do not, no row of it is. The main statement is `newest_entry_drawn_iff`; `long_entries_hide_newest` shows a
pane without its newest entry.
-/

namespace TracePlayer.CommentaryPane

/-- The style of the newest entry. -/
def newestStyle : Style := (Style.ofColor Palette.primary).inBold

/-- The style of all other entries. -/
def olderStyle : Style := .ofColor Palette.text

/-- The lines of an entry. An entry without any is drawn as one that is empty. -/
def entryLines (entry : String) : List (List Char) :=
  if (Text.lines entry.toList).isEmpty then [[]] else Text.lines entry.toList

/-- How many rows some entries take. -/
def rowsOf (entries : List String) : Nat := (entries.flatMap entryLines).length

namespace NewestAux

variable {style : Style} {width room height : Nat} {older : List String} {newest entry : String}

/-! ## The rows of entries -/

@[simp]
theorem rowsOf_cons (entry : String) (rest : List String) : rowsOf (entry :: rest) = (entryLines entry).length + rowsOf rest := by
  rw [rowsOf, List.flatMap_cons, List.length_append]
  rfl

theorem rowsOf_append (front back : List String) : rowsOf (front ++ back) = rowsOf front + rowsOf back := by
  rw [rowsOf, List.flatMap_append, List.length_append]
  rfl

theorem rowsOf_singleton (entry : String) : rowsOf [entry] = (entryLines entry).length := by
  rw [rowsOf, List.flatMap_singleton]

theorem entryLines_ne_nil (entry : String) : entryLines entry ≠ [] := by
  unfold entryLines
  split
  · exact List.cons_ne_nil _ _
  · intro hnil
    simp_all

theorem rowsOf_of_single {entries : List String} (h : ∀ entry ∈ entries, (entryLines entry).length = 1) :
    rowsOf entries = entries.length := by
  induction entries with
  | nil => rfl
  | cons entry rest ih =>
    obtain ⟨hentry, hrest⟩ := List.forall_mem_cons.1 h
    rw [rowsOf_cons, hentry, ih hrest, List.length_cons, Nat.add_comm]

theorem entryRows_eq (style : Style) (width : Nat) (entry : String) :
    entryRows style width entry = (entryLines entry).map fun line => Row.fit style width (.ofText style (String.ofList line)) := rfl

theorem length_entryRows (style : Style) (width : Nat) (entry : String) :
    (entryRows style width entry).length = (entryLines entry).length := by
  rw [entryRows_eq, List.length_map]

/-- A cell of a row that has been made as wide as wanted is of the row, or a blank. -/
theorem mem_rowFit {row : Row} {cell : Cell} (hcell : cell ∈ Row.fit style width row) :
    cell = Cell.blank style ∨ cell ∈ row := by
  rcases List.mem_append.1 hcell with hcell | hcell
  · exact Or.inr (List.mem_of_mem_take hcell)
  · exact Or.inl (List.eq_of_mem_replicate hcell)

theorem style_of_mem_ofText {text : String} {cell : Cell} (h : cell ∈ Row.ofText style text) : cell.style = style := by
  obtain ⟨char, -, rfl⟩ := List.mem_map.1 h
  rfl

/-- An entry is drawn in one style over the whole width. -/
theorem style_of_mem_entryRows {row : Row} {cell : Cell} (hrow : row ∈ entryRows style width entry) (hcell : cell ∈ row) :
    cell.style = style := by
  rw [entryRows_eq] at hrow
  obtain ⟨line, -, rfl⟩ := List.mem_map.1 hrow
  rcases mem_rowFit hcell with rfl | hcell
  · rfl
  · exact style_of_mem_ofText hcell

/-! ## The stack of entries -/

theorem stack_cons (width room : Nat) (entry : String) (rest : List String) :
    stack width room (entry :: rest) =
      if (entryLines entry).length ≤ room then
        entryRows (entryStyle rest.length) width entry ++ stack width (room - (entryLines entry).length) rest
      else [] := by
  rw [stack]
  simp only [length_entryRows]

/-- An entry with others behind it is not the newest. -/
theorem entryStyle_of_older (rest : List String) (newest : String) : entryStyle (rest ++ [newest]).length = olderStyle := by
  simp [entryStyle, olderStyle]

/-- The rows of a stack are as wide as it is. -/
theorem length_of_mem_stack {row : Row} {entries : List String} (hrow : row ∈ stack width room entries) : row.length = width := by
  induction entries generalizing room with
  | nil => cases hrow
  | cons entry rest ih =>
    rw [stack_cons] at hrow
    split at hrow
    · rcases List.mem_append.1 hrow with hrow | hrow
      · rw [entryRows_eq] at hrow
        obtain ⟨line, -, rfl⟩ := List.mem_map.1 hrow
        exact Row.length_fit ..
      · exact ih hrow
    · cases hrow

/-- Entries that fit are drawn one below the other, the newest of them last and in a style of its own. -/
theorem stack_of_fits (width : Nat) (h : rowsOf (older ++ [newest]) ≤ room) :
    stack width room (older ++ [newest]) = older.flatMap (entryRows olderStyle width) ++ entryRows newestStyle width newest := by
  induction older generalizing room with
  | nil =>
    rw [List.nil_append, rowsOf_singleton] at h
    rw [List.nil_append, stack_cons, if_pos h, stack, List.append_nil]
    rfl
  | cons entry rest ih =>
    rw [List.cons_append, rowsOf_cons] at h
    have hfits : (entryLines entry).length ≤ room := by omega
    have hrest : rowsOf (rest ++ [newest]) ≤ room - (entryLines entry).length := by omega
    rw [List.cons_append, stack_cons, if_pos hfits, ih hrest, entryStyle_of_older, List.flatMap_cons, List.append_assoc]

/-- Of entries that do not all fit the newest is not drawn. -/
theorem style_of_mem_stack {row : Row} {cell : Cell} (h : room < rowsOf (older ++ [newest]))
    (hrow : row ∈ stack width room (older ++ [newest])) (hcell : cell ∈ row) : cell.style = olderStyle := by
  induction older generalizing room with
  | nil =>
    rw [List.nil_append, rowsOf_singleton] at h
    rw [List.nil_append, stack_cons, if_neg (Nat.not_le_of_lt h)] at hrow
    cases hrow
  | cons entry rest ih =>
    rw [List.cons_append, stack_cons, entryStyle_of_older] at hrow
    rw [List.cons_append, rowsOf_cons] at h
    split at hrow
    · rcases List.mem_append.1 hrow with hrow | hrow
      · exact style_of_mem_entryRows hrow hcell
      · have hrest : room - (entryLines entry).length < rowsOf (rest ++ [newest]) := by omega
        exact ih hrest hrow
    · cases hrow

/-! ## The pane -/

/-- A cell of a frame is in the style of the frame, or is of what it frames. -/
theorem mem_framed {border : Style} {title : String} {inside : Picture} {row : Row} {cell : Cell}
    (hrow : row ∈ Picture.framed border title width height inside) (hcell : cell ∈ row) :
    cell.style = border ∨ ∃ r ∈ inside, cell ∈ r := by
  have hline : ∀ (left right : Char) (middle : Row), cell ∈ Picture.frameLine border width left right middle →
      cell.style = border ∨ cell ∈ middle := by
    intro left right middle hmem
    have hmem := List.mem_of_mem_take hmem
    rw [List.cons_append, List.mem_cons, List.mem_append, List.mem_singleton] at hmem
    rcases hmem with rfl | hmem | rfl
    · exact Or.inl rfl
    · exact Or.inr hmem
    · exact Or.inl rfl
  have hrow := List.mem_of_mem_take hrow
  rw [List.mem_cons, List.mem_append, List.mem_singleton] at hrow
  rcases hrow with rfl | hrow | rfl
  · rcases hline _ _ _ hcell with hborder | htitle
    · exact Or.inl hborder
    · rcases List.mem_append.1 htitle with htitle | hrule
      · exact Or.inl (style_of_mem_ofText (List.mem_of_mem_take htitle))
      · rw [List.eq_of_mem_replicate hrule]
        exact Or.inl rfl
  · obtain ⟨r, hr, rfl⟩ := List.mem_map.1 hrow
    rcases hline _ _ _ hcell with hborder | hinside
    · exact Or.inl hborder
    · exact Or.inr ⟨r, hr, hinside⟩
  · rcases hline _ _ _ hcell with hborder | hrule
    · exact Or.inl hborder
    · rw [List.eq_of_mem_replicate hrule]
      exact Or.inl rfl

/-- A cell inside the pane is of the stack of the entries from the first on, or a blank. -/
theorem mem_inside {entries : List String} {first : Nat} {row : Row} {cell : Cell}
    (hrow : row ∈ inside entries first width height) (hcell : cell ∈ row) :
    cell = Cell.blank .plain ∨ ∃ r ∈ stack (width - 1) height (entries.drop first), cell ∈ r := by
  rcases List.mem_append.1 hrow with hrow | hrow
  · obtain ⟨padded, hpadded, rfl⟩ := List.mem_map.1 hrow
    obtain ⟨r, hr, rfl⟩ := List.mem_map.1 (List.mem_of_mem_take hpadded)
    rcases mem_rowFit hcell with hblank | hcell
    · exact Or.inl hblank
    · rcases List.mem_append.1 hcell with hcell | hcell
      · rcases mem_rowFit hcell with hblank | hnone
        · exact Or.inl hblank
        · cases hnone
      · exact Or.inr ⟨r, hr, hcell⟩
  · rw [List.eq_of_mem_replicate hrow] at hcell
    exact Or.inl (List.eq_of_mem_replicate hcell)

/-- Only the newest entry is drawn in the style of the newest. -/
theorem mem_stack_of_newestStyle {entries : List String} (hne : entries ≠ []) {focused : Bool} {first : Nat} {row : Row}
    {cell : Cell} (hrow : row ∈ draw entries focused first width height) (hcell : cell ∈ row) (hstyle : cell.style = newestStyle) :
    ∃ r ∈ stack (width - 3) (height - 2) (entries.drop first), cell ∈ r := by
  have hsome : entries.isEmpty = false := List.isEmpty_eq_false_iff.2 hne
  unfold draw at hrow
  rw [hsome, if_neg Bool.false_ne_true] at hrow
  rcases mem_framed hrow hcell with hborder | ⟨r, hr, hinside⟩
  · rw [hborder] at hstyle
    cases focused <;> exact absurd hstyle (by decide)
  · rcases mem_inside hr hinside with rfl | hstack
    · exact absurd hstyle (by decide)
    · exact hstack

/-- Behind the frame and a blank column the pane shows the stack of the entries from the first on. -/
theorem at?_draw_entries {entries : List String} (hne : entries ≠ []) (focused : Bool) (first : Nat) {x y : Nat}
    (hx : x < width - 3) (hy : y < height - 2) :
    (draw entries focused first width height).at? (x + 2) (y + 1) =
      some (((stack (width - 3) (height - 2) (entries.drop first))[y]?.getD [])[x]?.getD (Cell.blank .plain)) := by
  have hsome : entries.isEmpty = false := List.isEmpty_eq_false_iff.2 hne
  have hpadding : Row.fit .plain (min (width - 2) 1) [] = [Cell.blank .plain] := by
    rw [show min (width - 2) 1 = 1 by omega]
    rfl
  have hplace : x + 1 < width - 2 := by omega
  unfold draw inside
  rw [hsome, if_neg Bool.false_ne_true, show x + 2 = x + 1 + 1 from rfl,
    Picture.at?_framed _ (Picture.length_fit ..) (fun row hrow => Picture.length_of_mem_fit hrow) hplace hy,
    Picture.at?_fit _ hplace hy, List.getElem?_map, hpadding]
  cases (stack (width - 2 - 1) (height - 2) (entries.drop first))[y]? with
  | none => rfl
  | some row => rfl

/-- From the greatest position on the pane takes the last entries, as many as it counts on. -/
theorem settle_lastEntry {count : Nat} (hpos : 0 < count) (hcount : count < wordBound) :
    settle Console.lastEntry count height = count - visibleEntries height := by
  unfold settle Console.lastEntry
  rw [if_neg (Nat.ne_of_gt hpos)]
  split <;> omega

/-- The entries that are taken always have the newest among them. -/
theorem keepLast_concat (older : List String) (newest : String) (height : Nat) :
    ∃ rest, Stage.keepLast (visibleEntries height) (older ++ [newest]) = rest ++ [newest] := by
  refine ⟨older.drop (older.length + 1 - visibleEntries height), ?_⟩
  have hone : 1 ≤ visibleEntries height := Nat.le_max_right _ 1
  rw [Stage.keepLast, List.length_append, List.length_singleton, List.drop_append_of_le_length (by omega)]

/-- A text that is drawn in a style, and what is blank behind it, is in that style. -/
theorem style_getD_ofText (style : Style) (text : String) (x : Nat) :
    ((Row.ofText style text)[x]?.getD (Cell.blank style)).style = style := by
  cases hcell : (Row.ofText style text)[x]? with
  | none => rfl
  | some cell => exact style_of_mem_ofText (List.mem_of_getElem? hcell)

end NewestAux

open NewestAux

/-- The newest entry of a commentary is drawn if the rows of the entries with which the pane is filled all fit, in four parts, for
every commentary in memory that is not empty, every size of the pane, and the position at the end of the commentary. The pane is
filled with the last entries, as many as there are rows inside its frame.
1. Some place of the pane has the style of the newest entry exactly when there is a column for text beside the frame and the
   blank column, and the entries of the pane together have no more lines than there are rows.
2. Then the newest entry stands behind the lines of the others, line by line, cut off at the width of the pane.
3. Entries of one line each always fit.
4. The position is the one to which a console moves with every step that it plays. -/
theorem newest_entry_drawn_iff (older : List String) (newest : String) (focused : Bool) (width height : Nat)
    (hcount : older.length + 1 < wordBound) :
    let entries := older ++ [newest]
    let picture := draw entries focused (settle Console.lastEntry entries.length height) width height
    let taken := Stage.keepLast (max (height - 2) 1) entries
    ((∃ x y cell, picture.at? x y = some cell ∧ cell.style = newestStyle) ↔ 4 ≤ width ∧ rowsOf taken ≤ height - 2) ∧
    (rowsOf taken ≤ height - 2 → ∀ j line, (entryLines newest)[j]? = some line → ∀ x < width - 3,
      picture.at? (x + 2) (rowsOf taken - (entryLines newest).length + j + 1) =
        some ((Row.ofText newestStyle (String.ofList line))[x]?.getD (Cell.blank newestStyle))) ∧
    (3 ≤ height → (∀ entry ∈ taken, (entryLines entry).length = 1) → rowsOf taken ≤ height - 2) ∧
    (∀ (pipe : Pipe) (c : Console) (step : Step), (c.player.tick (c.sink pipe)).outcome = .ok (.stepped step) →
      (c.step pipe).entry = Console.lastEntry) := by
  intro entries picture taken
  have hne : entries ≠ [] := by simp [entries]
  have hlength : entries.length = older.length + 1 := by simp [entries]
  have hdrop : entries.drop (settle Console.lastEntry entries.length height) = taken := by
    rw [settle_lastEntry (by omega) (by omega)]
    rfl
  obtain ⟨rest, htaken⟩ : ∃ rest, taken = rest ++ [newest] := keepLast_concat older newest height
  have hlines : rowsOf taken ≤ height - 2 → ∀ j line, (entryLines newest)[j]? = some line → ∀ x < width - 3,
      picture.at? (x + 2) (rowsOf taken - (entryLines newest).length + j + 1) =
        some ((Row.ofText newestStyle (String.ofList line))[x]?.getD (Cell.blank newestStyle)) := by
    intro hfits j line hline x hx
    obtain ⟨hj, -⟩ := List.getElem?_eq_some_iff.1 hline
    have hrows : rowsOf taken = rowsOf rest + (entryLines newest).length := by rw [htaken, rowsOf_append, rowsOf_singleton]
    have hbefore : (rest.flatMap (entryRows olderStyle (width - 3))).length = rowsOf rest := by
      simp [List.length_flatMap, length_entryRows, rowsOf]
    have hy : rowsOf taken - (entryLines newest).length + j < height - 2 := by omega
    have hrow : (stack (width - 3) (height - 2) taken)[rowsOf taken - (entryLines newest).length + j]? =
        some (Row.fit newestStyle (width - 3) (.ofText newestStyle (String.ofList line))) := by
      rw [htaken] at hfits
      have hplace : rowsOf taken - (entryLines newest).length + j = (rest.flatMap (entryRows olderStyle (width - 3))).length + j := by
        omega
      rw [hplace, htaken, stack_of_fits (width - 3) hfits, List.getElem?_append_right (Nat.le_add_right _ j),
        Nat.add_sub_cancel_left, entryRows_eq, List.getElem?_map, hline]
      rfl
    rw [at?_draw_entries hne focused _ hx hy, hdrop, hrow, Option.getD_some, Row.getElem?_fit _ hx, Option.getD_some]
  refine ⟨⟨?drawn, ?fits⟩, hlines, ?single, ?stepped⟩
  case drawn =>
    rintro ⟨x, y, cell, hat, hstyle⟩
    obtain ⟨row, hrow, hcell⟩ := Option.bind_eq_some_iff.1 hat
    obtain ⟨r, hr, hmem⟩ :=
      mem_stack_of_newestStyle hne (List.mem_of_getElem? hrow) (List.mem_of_getElem? hcell) hstyle
    rw [hdrop] at hr
    constructor
    · have hwidth : r.length = width - 3 := length_of_mem_stack hr
      have hpos : 0 < r.length := List.length_pos_of_mem hmem
      omega
    · refine Nat.le_of_not_lt fun hover => ?_
      rw [htaken] at hr hover
      exact absurd (hstyle.symm.trans (style_of_mem_stack hover hr hmem)) (by decide)
  case fits =>
    rintro ⟨hwidth, hfits⟩
    obtain ⟨line, hline⟩ : ∃ line, (entryLines newest)[0]? = some line :=
      ⟨_, List.getElem?_eq_getElem (List.length_pos_iff.2 (entryLines_ne_nil newest))⟩
    exact ⟨_, _, _, hlines hfits 0 line hline 0 (by omega), style_getD_ofText newestStyle (String.ofList line) 0⟩
  case single =>
    intro hheight hsingle
    have htook : taken.length ≤ max (height - 2) 1 := by
      rw [AccountAux.length_keepLast]
      exact Nat.min_le_left _ _
    rw [rowsOf_of_single hsingle]
    omega
  case stepped =>
    intro pipe c step houtcome
    change (if Console.hasStepped (c.player.tick (c.sink pipe)).outcome then Console.lastEntry else c.entry) = _
    rw [houtcome]
    rfl

/-- Four entries with six lines fill the six rows of a pane, and the two lines of the newest stand in the last of them. -/
theorem newest_entry_drawn_iff_full_pane :
    let older := ["Decoded as MOV", "Found global variable a\nb of type int, initial 1", "Decoded as ADD"]
    let newest := "Found global variable c\nd of type int, initial 2"
    let entries := older ++ [newest]
    let picture := draw entries false (settle Console.lastEntry entries.length 8) 48 8
    older.length + 1 < wordBound ∧ rowsOf (Stage.keepLast (max (8 - 2) 1) entries) = 6 ∧
      (∃ x y cell, picture.at? x y = some cell ∧ cell.style = newestStyle) ∧ picture.at? 2 6 = some ⟨'d', newestStyle⟩ := by
  intro older newest entries picture
  have hcount : older.length + 1 < wordBound := by decide
  have hrows : rowsOf (Stage.keepLast (max (8 - 2) 1) entries) = 6 := by decide +kernel
  have hline : (entryLines newest)[1]? = some "d of type int, initial 2".toList := by decide +kernel
  obtain ⟨hdrawn, hlines, -⟩ := newest_entry_drawn_iff older newest false 48 8 hcount
  have hlast := hlines (Nat.le_of_eq hrows) 1 _ hline 0 (by decide)
  have hlength : (entryLines newest).length = 2 := by decide +kernel
  rw [hrows, hlength] at hlast
  exact ⟨hcount, hrows, hdrawn.2 ⟨by decide, Nat.le_of_eq hrows⟩, hlast⟩

/-- Four entries of two lines each do not fit into six rows: the pane starts with the first of them, shows three, and has the newest
nowhere. -/
theorem long_entries_hide_newest :
    let entries := ["Found global variable g1\nx of type int, initial 1", "Found global variable g2\nx of type int, initial 1",
      "Found global variable g3\nx of type int, initial 1", "Found global variable g4\nx of type int, initial 1"]
    let first := settle Console.lastEntry entries.length 8
    first = 0 ∧ ∀ row ∈ draw entries false first 48 8, ∀ cell ∈ row, cell.style ≠ newestStyle := by
  decide +kernel

end TracePlayer.CommentaryPane
