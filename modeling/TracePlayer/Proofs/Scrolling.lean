import TracePlayer.Proofs.GridLines

/-!
# The window of the memory

When the pane of the memory is drawn, its window goes to the row that the last step touched first, unless it was there already when
the pane was drawn before, and it is kept inside the grid. All sums that this takes are of 64 bits: `layout?` is what is computed for
a drawing in such numbers, and fails where a sum is none of them. A window may start anywhere, so the place behind its end is looked
for only when the row does not lie before its start. The main statement is `window_follows_touched_row`.
-/

namespace TracePlayer.MemoryPane

/-! ## In numbers of 64 bits -/

/-- The sum of two numbers, if it is a number of 64 bits. -/
def sum? (m n : Nat) : Option Nat := if m + n < wordBound then some (m + n) else none

/-- The product of two numbers, if it is a number of 64 bits. -/
def product? (m n : Nat) : Option Nat := if m * n < wordBound then some (m * n) else none

/-- How many rows the grid has: one more than the whole rows, if there are cells left. -/
def rowCount? (s : Stage) : Option Nat :=
  if s.memory.size % Machine.rowWidth = 0 then some (s.memory.size / Machine.rowWidth)
  else sum? (s.memory.size / Machine.rowWidth) 1

/-- The first row to show for a row to be seen. -/
def reveal? (offset visible row : Nat) : Option Nat :=
  if row < offset then some (row - visible / 2)
  else (sum? offset visible).map fun stop => if stop ≤ row then row - visible / 2 else offset

/-- The window from which a pane is drawn. -/
def Window.settle? (w : Window) (s : Stage) (height : Nat) : Option Window := do
  let total ← rowCount? s
  let visible := visibleRows height
  let touched := touchedRow? s
  let offset ← match touched with
    | some row => if touched = w.followed then some w.offset else reveal? w.offset visible row
    | none => some w.offset
  return ⟨min offset (total - visible), touched⟩

/-- The addresses of the cells of a row. -/
def rowAddresses? (s : Stage) (r : Nat) : Option (List Nat) := do
  let start ← product? r Machine.rowWidth
  let stop ← sum? start Machine.rowWidth
  return List.range' start (min stop s.memory.size - start)

/-- What is computed for a drawing: the window, room for its lines and the numbers of the columns, and the addresses of each row. -/
def layout? (w : Window) (s : Stage) (height : Nat) : Option (Window × List (List Nat)) := do
  let window ← w.settle? s height
  let _ ← sum? (visibleRows height) 1
  let rows ← (shownRows s window height).mapM (rowAddresses? s)
  return (window, rows)

namespace ScrollingAux

variable {s : Stage} {w : Window} {height offset visible row : Nat}

/-! ## Where the window goes -/

/-- A row that has been revealed is in the window. -/
theorem reveal_bounds (offset row : Nat) (hvisible : 0 < visible) :
    reveal offset visible row ≤ row ∧ row < reveal offset visible row + visible := by
  unfold reveal
  split <;> omega

/-- A row that is in the window is left there. -/
theorem reveal_of_seen (hfrom : offset ≤ row) (hto : row < offset + visible) : reveal offset visible row = offset :=
  if_neg (by omega)

/-- A row of the grid that is in a window stays in it when the window is moved back into the grid. -/
theorem clamp_bounds {total : Nat} (hrow : row < total) (hfrom : offset ≤ row) (hto : row < offset + visible) :
    min offset (total - visible) ≤ row ∧ row < min offset (total - visible) + visible := by
  omega

theorem visibleRows_pos (height : Nat) : 0 < visibleRows height := Nat.lt_of_lt_of_le Nat.zero_lt_one (Nat.le_max_right _ _)

/-- The window starts at a row from which the grid fills the pane, if there is one. -/
theorem settle_offset_le (w : Window) (s : Stage) (height : Nat) :
    (w.settle s height).offset ≤ rowCount s - visibleRows height := Nat.min_le_right _ _

theorem settle_followed (w : Window) (s : Stage) (height : Nat) : (w.settle s height).followed = touchedRow? s := rfl

/-- When a row is followed that was not followed before, it is revealed. -/
theorem settle_offset_of_new (hrow : touchedRow? s = some row) (hnew : touchedRow? s ≠ w.followed) :
    (w.settle s height).offset = min (reveal w.offset (visibleRows height) row) (rowCount s - visibleRows height) := by
  unfold Window.settle
  simp only [hrow] at hnew ⊢
  rw [if_neg hnew]

/-- When there is no row to follow, or it was followed before, the window stays where it is, inside the grid. -/
theorem settle_offset_of_old (hold : touchedRow? s = none ∨ touchedRow? s = w.followed) :
    (w.settle s height).offset = min w.offset (rowCount s - visibleRows height) := by
  unfold Window.settle
  cases hrow : touchedRow? s with
  | none => rfl
  | some row =>
    rw [hrow] at hold
    rcases hold with hold | hold
    · cases hold
    · simp only [if_pos hold]

/-- A new row of the grid to follow is in the window. -/
theorem settle_shows_new (height : Nat) (hrow : touchedRow? s = some row) (hinside : row < rowCount s)
    (hnew : touchedRow? s ≠ w.followed) :
    (w.settle s height).offset ≤ row ∧ row < (w.settle s height).offset + visibleRows height := by
  obtain ⟨hfrom, hto⟩ := reveal_bounds w.offset row (visibleRows_pos height)
  rw [settle_offset_of_new hrow hnew]
  exact clamp_bounds hinside hfrom hto

/-- A row that is seen already does not move the window. -/
theorem settle_offset_of_seen (hrow : touchedRow? s = some row) (hfrom : w.offset ≤ row)
    (hto : row < w.offset + visibleRows height) :
    (w.settle s height).offset = min w.offset (rowCount s - visibleRows height) := by
  by_cases hold : touchedRow? s = w.followed
  · exact settle_offset_of_old (Or.inr hold)
  · rw [settle_offset_of_new hrow hold, reveal_of_seen hfrom hto]

/-! ## No sum is too large -/

theorem sum?_of_lt {m n : Nat} (h : m + n < wordBound) : sum? m n = some (m + n) := if_pos h

theorem product?_of_lt {m n : Nat} (h : m * n < wordBound) : product? m n = some (m * n) := if_pos h

theorem rowCount?_eq (hsize : s.memory.size < signedBound) : rowCount? s = some (rowCount s) := by
  unfold signedBound at hsize
  unfold rowCount? rowCount Machine.rowWidth
  split
  · rw [Option.some_inj]
    omega
  · rw [sum?_of_lt (by unfold wordBound; omega), Option.some_inj]
    omega

/-- The end of the window is a number of 64 bits whenever it is looked for: the window then starts no later than the row. -/
theorem reveal?_eq (hend : row + visible < wordBound) : reveal? offset visible row = some (reveal offset visible row) := by
  unfold reveal? reveal
  by_cases hbefore : row < offset
  · rw [if_pos hbefore, if_pos (Or.inl hbefore)]
  · rw [if_neg hbefore, sum?_of_lt (by omega), Option.map_some]
    simp only [hbefore, false_or]

theorem settle?_eq (hsize : s.memory.size < signedBound) (hheight : height < 65536)
    (hinside : ∀ row, touchedRow? s = some row → row < rowCount s) :
    w.settle? s height = some (w.settle s height) := by
  unfold Window.settle? Window.settle
  rw [rowCount?_eq hsize]
  cases hrow : touchedRow? s with
  | none => rfl
  | some row =>
    -- The end of the window is looked for when it starts no later than `row`, and `row` is in the grid.
    have hend : row + visibleRows height < wordBound := by
      have hlt := hinside row hrow
      unfold rowCount Machine.rowWidth at hlt
      unfold signedBound at hsize
      unfold visibleRows wordBound
      omega
    by_cases hold : some row = w.followed
    · simp only [if_pos hold]
      rfl
    · simp only [if_neg hold, reveal?_eq hend]
      rfl

theorem rowAddresses?_eq (hsize : s.memory.size < signedBound) (hrow : row < rowCount s) :
    rowAddresses? s row = some (rowAddresses s row) := by
  unfold rowCount at hrow
  unfold signedBound at hsize
  unfold rowAddresses? rowAddresses
  unfold Machine.rowWidth at hrow ⊢
  rw [product?_of_lt (by unfold wordBound; omega), Option.bind_eq_bind, Option.bind_some,
    sum?_of_lt (by unfold wordBound; omega), Nat.mul_comm row 10]
  rfl

theorem mapM_eq_some {α β : Type} {f : α → Option β} {g : α → β} {items : List α} (h : ∀ i ∈ items, f i = some (g i)) :
    items.mapM f = some (items.map g) := by
  induction items with
  | nil => rfl
  | cons first rest ih =>
    obtain ⟨hfirst, hrest⟩ := List.forall_mem_cons.1 h
    rw [List.mapM_cons, hfirst, ih hrest]
    rfl

theorem layout?_eq (hsize : s.memory.size < signedBound) (hheight : height < 65536)
    (hinside : ∀ row, touchedRow? s = some row → row < rowCount s) :
    layout? w s height =
      some (w.settle s height, (shownRows s (w.settle s height) height).map (rowAddresses s)) := by
  have hroom : visibleRows height + 1 < wordBound := by
    unfold visibleRows wordBound
    omega
  have hrows : (shownRows s (w.settle s height) height).mapM (rowAddresses? s) =
      some ((shownRows s (w.settle s height) height).map (rowAddresses s)) := by
    refine mapM_eq_some fun r hr => rowAddresses?_eq hsize ?_
    exact (mem_shownRows.1 hr).2.2
  rw [layout?, settle?_eq hsize hheight hinside, Option.bind_eq_bind, Option.bind_some, sum?_of_lt hroom, Option.bind_eq_bind,
    Option.bind_some, hrows]
  rfl

/-- The first cell that flashes is in a row of the grid, if it is in the grid. -/
theorem touchedRow_lt (hgrid : ∀ a, s.firstFlashing? = some a → a < s.memory.size) :
    ∀ row, touchedRow? s = some row → row < rowCount s := by
  intro row hrow
  obtain ⟨a, ha, rfl⟩ := Option.map_eq_some_iff.1 hrow
  exact row_lt_rowCount (hgrid a ha)

end ScrollingAux

open ScrollingAux

/-- The window of the memory follows the row that was touched last, and else stays where somebody put it, in five parts. The lowest
cell that flashes, if one does, is in the grid; a grid has fewer cells than there are numbers of 64 bits with a sign, and a pane
has a height of 16 bits. The window may have started at any row.
1. No sum that is computed for a drawing is too large: the window and the addresses of its rows come out as they do in numbers
   without a bound.
2. The window starts no later than at the row from which the rest of the grid fills the pane.
3. It remembers the row of the lowest cell that flashes.
4. If this row is not the one that it remembered before, the row is in the window.
5. If there is no such row, or it is the one that was remembered before, or it was in the window already, then the window starts
   where it did, or at the row from which the rest of the grid fills the pane. -/
theorem window_follows_touched_row (s : Stage) (w : Window) {height : Nat}
    (hgrid : ∀ a, s.firstFlashing? = some a → a < s.memory.size) (hsize : s.memory.size < signedBound) (hheight : height < 65536) :
    let visible := max (height - 3) 1
    let total := (s.memory.size + 9) / 10
    let touched := s.firstFlashing?.map (· / 10)
    let window := w.settle s height
    layout? w s height = some (window, (shownRows s window height).map (rowAddresses s)) ∧
    window.offset ≤ total - visible ∧
    window.followed = touched ∧
    (∀ row, touched = some row → touched ≠ w.followed → window.offset ≤ row ∧ row < window.offset + visible) ∧
    ((touched = none ∨ touched = w.followed ∨ ∃ row, touched = some row ∧ w.offset ≤ row ∧ row < w.offset + visible) →
      window.offset = min w.offset (total - visible)) := by
  intro visible total touched window
  have hinside := touchedRow_lt hgrid
  refine ⟨layout?_eq hsize hheight hinside, settle_offset_le w s height, settle_followed w s height, fun row hrow hnew => ?_, ?_⟩
  · exact settle_shows_new height hrow (hinside row hrow) hnew
  · rintro (hnone | hold | ⟨row, hrow, hfrom, hto⟩)
    · exact settle_offset_of_old (Or.inl hnone)
    · exact settle_offset_of_old (Or.inr hold)
    · exact settle_offset_of_seen hrow hfrom hto

/-- A window that starts at the last number of 64 bits, whose end is none, goes to the end of the grid when a row there is touched. -/
theorem window_follows_touched_row_from_far :
    let s : Stage := { Stage.initial with flashing := [.cell 1016, .register .mdr, .cell 1015] }
    let w : Window := ⟨wordBound - 1, some 3⟩
    (∀ a, s.firstFlashing? = some a → a < s.memory.size) ∧ sum? w.offset (visibleRows 10) = none ∧
      layout? w s 10 = some (w.settle s 10, (shownRows s (w.settle s 10) 10).map (rowAddresses s)) ∧
      (w.settle s 10).offset ≤ 101 ∧ 101 < (w.settle s 10).offset + 7 := by
  intro s w
  have hgrid : ∀ a, s.firstFlashing? = some a → a < s.memory.size := by
    intro a ha
    obtain rfl := Option.some.inj ha
    decide +kernel
  obtain ⟨hlayout, -, -, hrow, -⟩ := window_follows_touched_row s w hgrid (by decide +kernel) (by decide : 10 < 65536)
  obtain ⟨hfrom, hto⟩ := hrow 101 (by decide +kernel) (by decide +kernel)
  exact ⟨hgrid, by decide, hlayout, hfrom, hto⟩

end TracePlayer.MemoryPane
