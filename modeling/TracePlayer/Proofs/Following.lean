import TracePlayer.Proofs.Scrolling

/-!
# Which steps are followed

Between two drawings of the pane of the memory steps are played, any number of them, and somebody may move the window. The window
remembers the row that it followed and not the step, so it cannot tell a new step from the one that it has shown, if both touch the
same row first. `last_step_shown_iff` says when the row of the last step is shown: when the pane last showed another row as touched,
or when the window is where the row is. A window that nobody moves shows the row of every step. One that somebody has moved does not
come back for a step on the row that it followed (`moved_window_misses_step`).
-/

namespace TracePlayer

/-- The lowest cell of a grid of `cells` cells that a step touches. -/
def Step.TouchesFirst (step : Step) (cells a : Nat) : Prop :=
  step.Flashes cells (.cell a) ∧ ∀ b, step.Flashes cells (.cell b) → a ≤ b

/-- The lowest cell that a step touches is the first that flashes afterwards. -/
theorem Stage.firstFlashing?_play {s : Stage} {step : Step} {a : Nat} (h : step.TouchesFirst s.memory.size a) :
    (s.play step).firstFlashing? = some a := by
  have hmem : ∀ b, b ∈ (s.play step).flashing.filterMap address? ↔ step.Flashes s.memory.size (.cell b) := by
    intro b
    rw [← mem_flashing_play, List.mem_filterMap]
    constructor
    · rintro ⟨e, he, haddress⟩
      cases e with
      | cell c => rwa [← Option.some.inj haddress]
      | _ => cases haddress
    · intro hb
      exact ⟨.cell b, hb, rfl⟩
  obtain ⟨htouched, hleast⟩ := h
  rw [firstFlashing?, List.min?_eq_some_iff]
  exact ⟨(hmem a).2 htouched, fun b hb => hleast b ((hmem b).1 hb)⟩

/-- A step touches cells of the grid only. -/
theorem Step.Flashes.lt {step : Step} {cells a : Nat} (h : step.Flashes cells (.cell a)) : a < cells := by
  cases step with
  | read address size =>
    rcases h with h | ⟨b, hb, hreach⟩
    · cases h
    · obtain rfl := Element.cell.inj hb
      exact Nat.lt_of_lt_of_le hreach.2 (Nat.min_le_right _ _)
  | write address bytes =>
    obtain ⟨b, hb, hreach⟩ := h
    obtain rfl := Element.cell.inj hb
    exact Nat.lt_of_lt_of_le hreach.2 (Nat.min_le_right _ _)
  | move source target value => rcases h with h | h <;> cases h
  | _ => exact h.elim

namespace MemoryPane

open ScrollingAux

/-- What happens to a stage and to the window on its memory: a step is played, somebody moves the window, or the pane is drawn. -/
inductive Happening where
  | play (step : Step)
  | scroll (offset : Nat)
  | draw (height : Nat)

/-- Whether the pane is drawn. -/
def Happening.isDraw : Happening → Bool
  | .draw _ => true
  | _ => false

/-- A stage and the window on its memory. -/
structure Watch where
  stage : Stage
  window : Window

namespace Watch

/-- The stage and the window after something has happened. -/
def after (v : Watch) : Happening → Watch
  | .play step => { v with stage := v.stage.play step }
  | .scroll offset => { v with window := { v.window with offset := offset } }
  | .draw height => { v with window := v.window.settle v.stage height }

/-- The stage and the window after some happenings. -/
def run (v : Watch) (happenings : List Happening) : Watch := happenings.foldl after v

theorem run_append (v : Watch) (first second : List Happening) : v.run (first ++ second) = (v.run first).run second :=
  List.foldl_append ..

theorem size_after (v : Watch) (happening : Happening) : (v.after happening).stage.memory.size = v.stage.memory.size := by
  cases happening with
  | play step => exact Stage.size_play v.stage step
  | scroll offset => rfl
  | draw height => rfl

theorem size_run (v : Watch) (happenings : List Happening) : (v.run happenings).stage.memory.size = v.stage.memory.size := by
  induction happenings generalizing v with
  | nil => rfl
  | cons happening rest ih => exact (ih (v.after happening)).trans (v.size_after happening)

/-- Only a drawing changes the row that is remembered. -/
theorem followed_run (v : Watch) {happenings : List Happening} (h : ∀ happening ∈ happenings, happening.isDraw = false) :
    (v.run happenings).window.followed = v.window.followed := by
  induction happenings generalizing v with
  | nil => rfl
  | cons happening rest ih =>
    obtain ⟨hfirst, hrest⟩ := List.forall_mem_cons.1 h
    refine (ih (v.after happening) hrest).trans ?_
    cases happening with
    | play step => rfl
    | scroll offset => rfl
    | draw height => cases hfirst

/-- Moving the window does nothing to the stage. -/
theorem stage_run_scroll (v : Watch) (offsets : List Nat) : (v.run (offsets.map .scroll)).stage = v.stage := by
  induction offsets generalizing v with
  | nil => rfl
  | cons offset rest ih => exact ih (v.after (.scroll offset))

/-! ## A window that nobody moves -/

/-- The row that the window followed, if the grid has it, is in the window, and the window is in the grid. -/
def Holds (v : Watch) (height : Nat) : Prop :=
  ∀ row, v.window.followed = some row → row < rowCount v.stage →
    v.window.offset ≤ row ∧ row < v.window.offset + visibleRows height ∧
      v.window.offset ≤ rowCount v.stage - visibleRows height

theorem Holds.play {v : Watch} {height : Nat} (h : v.Holds height) (step : Step) : (v.after (.play step)).Holds height := by
  have hcount : rowCount (v.stage.play step) = rowCount v.stage := by rw [rowCount, Stage.size_play, rowCount]
  intro row hfollowed hinside
  simp only [after] at hfollowed hinside ⊢
  rw [hcount] at hinside ⊢
  exact h row hfollowed hinside

/-- A drawing reveals a new row to follow, and leaves the window alone for the row that it holds. -/
theorem Holds.draw {v : Watch} {height : Nat} (h : v.Holds height) : (v.after (.draw height)).Holds height := by
  intro row hfollowed hinside
  simp only [after] at hfollowed hinside ⊢
  rw [settle_followed] at hfollowed
  by_cases hold : touchedRow? v.stage = v.window.followed
  · obtain ⟨hfrom, hto, hend⟩ := h row (hold ▸ hfollowed) hinside
    rw [settle_offset_of_old (Or.inr hold), Nat.min_eq_left hend]
    exact ⟨hfrom, hto, hend⟩
  · obtain ⟨hfrom, hto⟩ := settle_shows_new height hfollowed hinside hold
    exact ⟨hfrom, hto, settle_offset_le v.window v.stage height⟩

theorem Holds.run {v : Watch} {height : Nat} (h : v.Holds height) {happenings : List Happening}
    (hstill : ∀ happening ∈ happenings, (∃ step, happening = .play step) ∨ happening = .draw height) :
    (v.run happenings).Holds height := by
  induction happenings generalizing v with
  | nil => exact h
  | cons happening rest ih =>
    obtain ⟨hfirst, hrest⟩ := List.forall_mem_cons.1 hstill
    rcases hfirst with ⟨step, rfl⟩ | rfl
    · exact ih (h.play step) hrest
    · exact ih h.draw hrest

end Watch

/-- A row of the grid that was touched first is shown exactly when it is a new one to follow or the window is where it is. -/
theorem mem_shownRows_settle_iff {s : Stage} {row : Nat} (w : Window) (height : Nat) (hrow : touchedRow? s = some row)
    (hinside : row < rowCount s) :
    row ∈ shownRows s (w.settle s height) height ↔ w.followed ≠ some row ∨
      min w.offset (rowCount s - visibleRows height) ≤ row ∧
        row < min w.offset (rowCount s - visibleRows height) + visibleRows height := by
  rw [mem_shownRows]
  by_cases hold : touchedRow? s = w.followed
  · have hfollowed : w.followed = some row := hold ▸ hrow
    rw [settle_offset_of_old (Or.inr hold)]
    constructor
    · rintro ⟨hfrom, hto, -⟩
      exact Or.inr ⟨hfrom, hto⟩
    · rintro (hnew | ⟨hfrom, hto⟩)
      · exact absurd hfollowed hnew
      · exact ⟨hfrom, hto, hinside⟩
  · obtain ⟨hfrom, hto⟩ := settle_shows_new height hrow hinside hold
    refine iff_of_true ⟨hfrom, hto, hinside⟩ (Or.inl fun hfollowed => hold ?_)
    rw [hrow, hfollowed]

namespace Watch

variable {v : Watch} {before : List Happening} {step : Step} {a : Nat} {offsets : List Nat}

/-- The row that was touched first waits to be drawn, however the window is moved before that. -/
theorem touchedRow?_waiting (h : step.TouchesFirst v.stage.memory.size a) :
    touchedRow? (v.run (before ++ .play step :: offsets.map .scroll)).stage = some (a / 10) := by
  have hstage : (v.run (before ++ .play step :: offsets.map .scroll)).stage = (v.run before).stage.play step := by
    rw [run_append]
    exact stage_run_scroll _ offsets
  rw [touchedRow?, hstage, Stage.firstFlashing?_play (by rwa [size_run])]
  rfl

theorem followed_waiting (v : Watch) (before : List Happening) (step : Step) (offsets : List Nat) :
    (v.run (before ++ .play step :: offsets.map .scroll)).window.followed = (v.run before).window.followed := by
  rw [run_append]
  refine followed_run _ fun happening hmem => ?_
  rcases List.mem_cons.1 hmem with rfl | hmem
  · rfl
  · obtain ⟨offset, -, rfl⟩ := List.mem_map.1 hmem
    rfl

theorem rowCount_run (v : Watch) (happenings : List Happening) :
    rowCount (v.run happenings).stage = (v.stage.memory.size + 9) / 10 := by
  rw [rowCount, size_run, Machine.rowWidth]

end Watch

/-- When the pane shows the row of the lowest cell that the last step touched, at the first drawing after that step, whatever
happened before it and wherever the window was moved since, in three parts.
1. It does exactly when the window did not remember this row, or when the row is in the window as it stands, moved back into the
   grid where it reaches out of it.
2. The window remembers the row of the lowest cell that flashed when the pane was last drawn, if it has been drawn.
3. If nobody has moved a window that remembered no row, and the pane has always been drawn with one height, then it does. -/
theorem last_step_shown_iff (v : Watch) (before : List Happening) {step : Step} {a : Nat} (offsets : List Nat) (height : Nat)
    (h : step.TouchesFirst v.stage.memory.size a) :
    let waiting := v.run (before ++ .play step :: offsets.map .scroll)
    let drawn := waiting.after (.draw height)
    let visible := max (height - 3) 1
    let start := min waiting.window.offset ((v.stage.memory.size + 9) / 10 - visible)
    (a / 10 ∈ shownRows drawn.stage drawn.window height ↔
      (v.run before).window.followed ≠ some (a / 10) ∨ start ≤ a / 10 ∧ a / 10 < start + visible) ∧
    (((∀ happening ∈ before, happening.isDraw = false) → (v.run before).window.followed = v.window.followed) ∧
      ∀ early height' later, before = early ++ .draw height' :: later → (∀ happening ∈ later, happening.isDraw = false) →
        (v.run before).window.followed = (v.run early).stage.firstFlashing?.map (· / 10)) ∧
    (v.window.followed = none → offsets = [] →
      (∀ happening ∈ before, (∃ step, happening = .play step) ∨ happening = .draw height) →
      a / 10 ∈ shownRows drawn.stage drawn.window height) := by
  intro waiting drawn visible start
  have hrow : touchedRow? waiting.stage = some (a / 10) := Watch.touchedRow?_waiting h
  have hcount : rowCount waiting.stage = (v.stage.memory.size + 9) / 10 := v.rowCount_run _
  have hinside : a / 10 < rowCount waiting.stage := by
    apply row_lt_rowCount
    rw [Watch.size_run]
    exact h.1.lt
  refine ⟨?shown, ⟨fun hnone => v.followed_run hnone, fun early height' later hbefore hlater => ?remembered⟩,
    fun hfresh hstill hplain => ?unmoved⟩
  case shown =>
    have hiff := mem_shownRows_settle_iff waiting.window height hrow hinside
    rwa [v.followed_waiting before step offsets, hcount] at hiff
  case remembered =>
    rw [hbefore, Watch.run_append]
    exact ((v.run early).after (.draw height')).followed_run hlater
  case unmoved =>
    -- `Holds` carries the run: a fresh window follows no row yet, and neither a step nor a drawing loses the row that it follows.
    have hfirst : v.Holds height := by
      intro row hfollowed
      rw [hfresh] at hfollowed
      cases hfollowed
    have hwaiting : waiting = (v.run before).after (.play step) := by
      change v.run _ = _
      rw [hstill, Watch.run_append]
      rfl
    have hdrawn : drawn.Holds height := by
      change (waiting.after (.draw height)).Holds height
      rw [hwaiting]
      exact ((hfirst.run hplain).play step).draw
    obtain ⟨hfrom, hto, -⟩ := hdrawn (a / 10) hrow hinside
    exact mem_shownRows.2 ⟨hfrom, hto, hinside⟩

/-- A step on another row than the one that was drawn is followed from wherever the window was moved, here to the end of the grid. -/
theorem last_step_shown_iff_other_row :
    let v : Watch := ⟨Stage.initial, .initial⟩
    let before : List Happening := [.play (.write 500 [1, 2]), .draw 10, .play (.notify "Reading register eax")]
    let waiting := v.run (before ++ .play (.write 1008 [1, 2, 3, 4]) :: [0, 7].map .scroll)
    let drawn := waiting.after (.draw 10)
    (Step.write 1008 [1, 2, 3, 4]).TouchesFirst v.stage.memory.size 1008 ∧ 100 ∈ shownRows drawn.stage drawn.window 10 := by
  intro v before waiting drawn
  have htouches : (Step.write 1008 [1, 2, 3, 4]).TouchesFirst v.stage.memory.size 1008 := by
    refine ⟨⟨1008, rfl, Nat.le_refl _, by decide +kernel⟩, ?_⟩
    rintro b ⟨c, hc, hfrom, -⟩
    obtain rfl := Element.cell.inj hc
    exact hfrom
  obtain ⟨hshown, -, -⟩ := last_step_shown_iff v before [0, 7] 10 htouches
  exact ⟨htouches, hshown.2 (Or.inl (by decide +kernel))⟩

/-- A window that somebody has moved misses a step: a byte is written and drawn, the window is moved down, and the same byte is
written again. The second write flashes in the first row, and what is drawn starts with the fiftieth. -/
theorem moved_window_misses_step :
    let write : Step := .write 0 [1]
    let waiting := (⟨Stage.initial, .initial⟩ : Watch).run ([.play write, .draw 10] ++ .play write :: [50].map .scroll)
    let drawn := waiting.after (.draw 10)
    drawn.stage.isFlashing (.cell 0) = true ∧ shownRows drawn.stage drawn.window 10 = [50, 51, 52, 53, 54, 55, 56] := by
  decide +kernel

end MemoryPane

end TracePlayer
