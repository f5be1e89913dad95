import TracePlayer.Proofs.Footprint
import TracePlayer.Proofs.Lines
import TracePlayer.Proofs.Transfers
import TracePlayer.Screen.MemoryPane

/-!
# The grid and what flashes on it

The grid gets its size from the lines that configure it, and at once, while steps that were made for another grid still wait.
So what such a step touches is cut off where the grid ends when the step is played, and what flashes on a grid goes with that
grid. The main statement is `grid_and_highlights_agree`: after any run the size of the grid is what the trace said last, and the
cells that flash are an interval of that grid, no longer than a transfer may be.
-/

namespace TracePlayer

/-- The size of the memory that an event tells. -/
def Event.kilobytes? : Event → Option Nat
  | .memorySize kilobytes => some kilobytes
  | _ => none

/-- The size of the memory that a line tells. -/
def Trace.kilobytes? (line : List Char) : Option Nat := (judge line).event?.bind Event.kilobytes?

/-! ## Lines that configure the grid -/

namespace Trace

/-- What has been read into an event is read, if the event is. -/
theorem exists_of_map_some {α : Type} {x : Except LineFault α} {f : α → Event} {e : Event}
    (h : (x >>= fun a => pure (some (f a))) = .ok (some e)) : ∃ a, x = .ok a ∧ f a = e := by
  cases x with
  | ok a => exact ⟨a, rfl, Option.some.inj (Except.ok.inj h)⟩
  | error fault => cases h

/-- Only a line with the tag for it tells the size of the memory. -/
theorem of_decodeTagged_memorySize {tag : String} {s : List Char} {kilobytes : Nat}
    (h : decodeTagged tag s = .ok (some (.memorySize kilobytes))) : tag = "config" ∧ readConfig s = .ok kilobytes := by
  by_cases hknown : tag ∈ tags
  · simp only [tags, List.mem_cons, List.not_mem_nil, or_false] at hknown
    rcases hknown with rfl | rfl | rfl | rfl | rfl | rfl | rfl
    · obtain ⟨read, hread, heq⟩ := exists_of_map_some h
      obtain rfl := Event.memorySize.inj heq
      exact ⟨rfl, hread⟩
    · obtain ⟨bytes, -, heq⟩ := exists_of_map_some h
      cases heq
    · cases h
    · obtain ⟨r, -, heq⟩ := exists_of_map_some (f := fun r : Fetch × List (List Char) => .fetched r.1) h
      cases heq
    · obtain ⟨r, -, heq⟩ := exists_of_map_some (f := fun r : String × List (List Char) => .decoded r.1) h
      cases heq
    · change decodeOperation s = _ at h
      rw [decodeOperation_eq] at h
      split at h
      · cases h
      · cases hread : (readOperation (String.ofList (Text.cutAtBlank s).1)).run
            (splitFields (Text.trim (Text.cutAtBlank s).2)) with
        | error fault =>
          rw [hread] at h
          cases h
        | ok r =>
          rw [hread] at h
          obtain ⟨operation, -, heq⟩ := Option.map_eq_some_iff.1 (Except.ok.inj h)
          cases heq
    · obtain ⟨g, -, heq⟩ := exists_of_map_some h
      cases heq
  · rw [decodeTagged_eq_none_iff.2 (Or.inl hknown)] at h
    cases h

/-- A size that is too great is not read. -/
theorem le_of_readConfig {s : List Char} {kilobytes : Nat} (h : readConfig s = .ok kilobytes) :
    kilobytes ≤ Machine.greatestKilobytes := by
  unfold readConfig at h
  split at h
  · cases h
  · rename_i read hread
    split at h
    · rename_i hle
      obtain rfl := Except.ok.inj h
      exact hle
    · cases h

theorem kilobytes?_eq_some {line : List Char} {kilobytes : Nat} (h : kilobytes? line = some kilobytes) :
    judge line = .decoded (.memorySize kilobytes) := by
  obtain ⟨event, hevent, hsize⟩ := Option.bind_eq_some_iff.1 h
  cases hjudge : judge line with
  | decoded e =>
    rw [hjudge] at hevent
    obtain rfl := Option.some.inj hevent
    cases e with
    | memorySize n => rw [Option.some.inj hsize]
    | _ => cases hsize
  | _ =>
    rw [hjudge] at hevent
    cases hevent

/-- A line that tells the size of the memory has the tag for it, and the size is one that is allowed. -/
theorem of_kilobytes? {line : List Char} {kilobytes : Nat} (h : kilobytes? line = some kilobytes) :
    (Text.words line).head? = some "config".toList ∧ kilobytes ≤ Machine.greatestKilobytes := by
  have hjudge := kilobytes?_eq_some h
  rw [judge_eq] at hjudge
  cases htrim : Text.trim line with
  | nil =>
    rw [htrim] at hjudge
    cases hjudge
  | cons c rest =>
    have hdecode : decodeLine line = .ok (some (.memorySize kilobytes)) := by
      rw [htrim, List.isEmpty_cons, if_neg Bool.false_ne_true] at hjudge
      split at hjudge
      · rename_i event heq
        rw [heq, Verdict.decoded.inj hjudge]
      · cases hjudge
      · cases hjudge
    rw [decodeLine_eq, htrim, List.isEmpty_cons, if_neg Bool.false_ne_true] at hdecode
    obtain ⟨htag, hread⟩ := of_decodeTagged_memorySize hdecode
    refine ⟨?_, le_of_readConfig hread⟩
    rw [← Text.words_trim line, htrim, Text.words_cutAtBlank (Text.not_isBlank_of_trim htrim), List.head?_cons, ← htag,
      String.toList_ofList]

end Trace

/-! ## The stage -/

namespace Stage

/-- The cells that flash are an interval of the grid. -/
structure FlashesAt (s : Stage) (start count : Nat) : Prop where
  inside : start + count ≤ s.memory.size
  cells : ∀ a, Element.cell a ∈ s.flashing ↔ start ≤ a ∧ a < start + count

theorem size_blankMemory (kilobytes : Nat) :
    (blankMemory kilobytes).size = min kilobytes Machine.greatestKilobytes * 1024 := Array.size_replicate

/-- A snapshot changes neither the size of the grid nor what flashes on it. -/
theorem grid_present (s : Stage) (snapshot : Snapshot) :
    (s.present snapshot).memory.size = s.memory.size ∧ (s.present snapshot).flashing = s.flashing := by
  simp [present, Register.general, Flag.all, GeneralValues.get?, load, setText, size_writeBytes]

/-- Of the cells, those flash after a step that it was about, as far as the grid reaches. -/
theorem flashing_play (s : Stage) (step : Step) (a : Nat) :
    Element.cell a ∈ (s.play step).flashing ↔ a ∈ s.sliceAddresses step.touched.1 step.touched.2 := by
  rw [mem_flashing_play, mem_sliceAddresses]
  cases step <;> simp [Step.Flashes, Step.touched, Reaches]

/-- The cells that flash after a step are an interval of the grid, and no more than the step was about. -/
theorem flashesAt_play (s : Stage) (step : Step) :
    ∃ start count, count ≤ step.touched.2 ∧ (s.play step).FlashesAt start count := by
  by_cases hinside : step.touched.1 ≤ s.memory.size
  · refine ⟨step.touched.1, min (step.touched.1 + step.touched.2) s.memory.size - step.touched.1, by omega, ?_, fun a => ?_⟩
    · rw [size_play]
      omega
    · rw [flashing_play, sliceAddresses, List.mem_range'_1]
  · -- The whole interval lies behind the grid.
    refine ⟨0, 0, by omega, Nat.zero_le _, fun a => ?_⟩
    rw [flashing_play, sliceAddresses, List.mem_range'_1]
    omega

/-- No cell of a grid flashes that has just been made. -/
theorem flashesAt_resize (s : Stage) (kilobytes : Nat) : (s.resize kilobytes).FlashesAt 0 0 := by
  refine ⟨Nat.zero_le _, fun a => ?_⟩
  change Element.cell a ∈ s.flashing.filter (!isCell ·) ↔ _
  rw [List.mem_filter]
  simp [isCell]

/-- The first cell that flashes is in a row of the grid. -/
theorem FlashesAt.firstFlashing_row {s : Stage} {start count a : Nat} (h : s.FlashesAt start count)
    (ha : s.firstFlashing? = some a) : a / Machine.rowWidth < MemoryPane.rowCount s := by
  obtain ⟨e, he, haddress⟩ := List.mem_filterMap.1 (List.min?_mem ha)
  have hcell : Element.cell a ∈ s.flashing := by
    cases e with
    | cell b => rwa [← Option.some.inj haddress]
    | _ => cases haddress
  obtain ⟨-, hlt⟩ := (h.cells a).1 hcell
  have hinside := h.inside
  rw [MemoryPane.rowCount, Machine.rowWidth]
  omega

end Stage

/-- No step of an event is about more addresses than a transfer may have. -/
theorem Event.touched_le (e : Event) : ∀ s ∈ e.steps, s.touched.2 ≤ Machine.greatestTransfer :=
  fun s hs => (e.plausible_touched s hs).1

namespace Player

/-! ## What flashes -/

/-- What flashes is an interval of the grid, and the steps that wait will make it no longer than a transfer. -/
structure Lit (p : Player) : Prop where
  flashing : ∃ start count, count ≤ Machine.greatestTransfer ∧ p.stage.FlashesAt start count
  waiting : ∀ s ∈ p.backlog.steps, s.touched.2 ≤ Machine.greatestTransfer

theorem lit_initial : initial.Lit := by
  refine ⟨⟨0, 0, Nat.zero_le _, Nat.zero_le _, fun a => ?_⟩, List.forall_mem_nil _⟩
  simp [initial, Stage.initial]

/-- An event that leaves the size of the grid and what flashes on it alone. -/
theorem Lit.of_same {p q : Player} (h : p.Lit) {steps : List Step} (hsize : q.stage.memory.size = p.stage.memory.size)
    (hflashing : q.stage.flashing = p.stage.flashing) (hbacklog : q.backlog = p.backlog.extend steps)
    (hsteps : ∀ s ∈ steps, s.touched.2 ≤ Machine.greatestTransfer) : q.Lit := by
  obtain ⟨start, count, hcount, hinside, hcells⟩ := h.flashing
  refine ⟨⟨start, count, hcount, by rw [hsize]; exact hinside, by rw [hflashing]; exact hcells⟩, ?_⟩
  rw [hbacklog]
  exact List.forall_mem_append.2 ⟨h.waiting, hsteps⟩

theorem Lit.apply (source : SnapshotSource) {p : Player} (h : p.Lit) (event : Event) : (p.apply source event).Lit := by
  have hbacklog := apply_backlog source p event
  cases event with
  | memorySize kilobytes =>
    exact ⟨⟨0, 0, Nat.zero_le _, Stage.flashesAt_resize p.stage kilobytes⟩, h.waiting⟩
  | memoryDump bytes => exact h.of_same (Stage.size_writeBytes _ 0 bytes) rfl hbacklog (Event.touched_le _)
  | snapshotReady =>
    have hgrid : (p.apply source .snapshotReady).stage.memory.size = p.stage.memory.size ∧
        (p.apply source .snapshotReady).stage.flashing = p.stage.flashing := by
      simp only [Player.apply, loadSnapshot]
      cases source p.fetches with
      | ok snapshot => exact Stage.grid_present p.stage snapshot
      | error fault => exact ⟨rfl, rfl⟩
    exact h.of_same hgrid.1 hgrid.2 hbacklog (Event.touched_le _)
  | _ =>
    refine h.of_same ?_ ?_ hbacklog (Event.touched_le _)
    · simp only [Player.apply, enqueue_stage]
    · simp only [Player.apply, enqueue_stage]

/-- A tick plays a step, of which what it touches flashes, or leaves the stage alone. -/
theorem Lit.tick {p : Player} (h : p.Lit) (sink : Sink) : (p.tick sink).player.Lit := by
  cases hsteps : p.backlog.steps with
  | nil =>
    obtain ⟨hbacklog, hstage, -⟩ := tick_of_nil hsteps sink
    exact h.of_same (by rw [hstage]) (by rw [hstage]) (hbacklog.trans (Backlog.extend_nil _).symm) (List.forall_mem_nil _)
  | cons step rest =>
    have hwaiting := h.waiting
    rw [hsteps, List.forall_mem_cons] at hwaiting
    obtain ⟨start, count, hcount, hflashes⟩ := Stage.flashesAt_play p.stage step
    rw [tick_of_cons hsteps]
    exact ⟨⟨start, count, hcount.trans hwaiting.1, hflashes⟩, hwaiting.2⟩

theorem Lit.after (source : SnapshotSource) {p : Player} (h : p.Lit) (act : Act) : (p.after source act).Lit := by
  cases act with
  | ingest chunk =>
    exact ingest_induction source (fun _ _ hp => ⟨hp.flashing, hp.waiting⟩) (fun _ event hp => hp.apply source event) h chunk
  | tick sink => exact h.tick sink
  | ended code =>
    have hbacklog : (p.sessionEnded code).backlog = p.backlog.extend [.notify (exitNotice code)] := rfl
    exact h.of_same rfl rfl hbacklog (by simp [Step.touched])

theorem Lit.run (source : SnapshotSource) {p : Player} (h : p.Lit) (acts : List Act) : (p.run source acts).Lit := by
  induction acts generalizing p with
  | nil => exact h
  | cons act rest ih => exact ih (h.after source act)

/-! ## The size of the grid -/

/-- The size that the last of some lines gives the grid, if any does, and else the one that it has. -/
def gridSize (size : Nat) (lines : List (List Char)) : Nat :=
  ((lines.filterMap Trace.kilobytes?).getLast?.map (1024 * ·)).getD size

theorem gridSize_append (size : Nat) (lines later : List (List Char)) :
    gridSize size (lines ++ later) = gridSize (gridSize size lines) later := by
  rw [gridSize, gridSize, List.filterMap_append, List.getLast?_append]
  cases (later.filterMap Trace.kilobytes?).getLast? <;> rfl

/-- Lines that tell no size leave the grid as it is. -/
theorem gridSize_of_none (size : Nat) {lines : List (List Char)} (h : ∀ line ∈ lines, Trace.kilobytes? line = none) :
    gridSize size lines = size := by
  rw [gridSize, List.filterMap_eq_nil_iff.2 h]
  rfl

/-- Only an event that tells a size gives the grid another one. -/
theorem size_apply (source : SnapshotSource) (p : Player) (event : Event) :
    (p.apply source event).stage.memory.size =
      (event.kilobytes?.map fun kilobytes => min kilobytes Machine.greatestKilobytes * 1024).getD p.stage.memory.size := by
  cases event with
  | memorySize kilobytes => exact Stage.size_blankMemory kilobytes
  | memoryDump bytes => exact Stage.size_writeBytes _ 0 bytes
  | snapshotReady =>
    simp only [apply, loadSnapshot]
    cases source p.fetches with
    | ok snapshot => exact (Stage.grid_present p.stage snapshot).1
    | error fault => rfl
  | _ =>
    simp only [apply, enqueue_stage]
    rfl

/-- A line that tells a size gives it to the grid: none that is decoded is too great. -/
theorem size_heed (source : SnapshotSource) (p : Player) (line : List Char) :
    (p.heed source (Trace.judge line)).stage.memory.size = gridSize p.stage.memory.size [line] := by
  have hone : gridSize p.stage.memory.size [line] =
      ((Trace.kilobytes? line).map (1024 * ·)).getD p.stage.memory.size := by
    rw [gridSize, List.filterMap_cons]
    cases Trace.kilobytes? line <;> rfl
  have hle : ∀ kilobytes, Trace.kilobytes? line = some kilobytes → kilobytes ≤ Machine.greatestKilobytes :=
    fun kilobytes h => (Trace.of_kilobytes? h).2
  rw [hone, heed]
  cases hevent : (Trace.judge line).event? with
  | none =>
    rw [Trace.kilobytes?, hevent]
    rfl
  | some event =>
    have hsize : Trace.kilobytes? line = event.kilobytes? := by
      rw [Trace.kilobytes?, hevent]
      rfl
    rw [hsize] at hle ⊢
    simp only [size_apply]
    cases hkilobytes : event.kilobytes? with
    | none => rfl
    | some kilobytes =>
      rw [Option.map_some, Option.map_some, Option.getD_some, Option.getD_some, Nat.min_eq_left (hle kilobytes hkilobytes),
        Nat.mul_comm]

theorem size_foldl_heed (source : SnapshotSource) (p : Player) (lines : List (List Char)) :
    ((lines.map Trace.judge).foldl (heed source) p).stage.memory.size = gridSize p.stage.memory.size lines := by
  induction lines generalizing p with
  | nil => rfl
  | cons line rest ih =>
    rw [List.map_cons, List.foldl_cons, ih, size_heed, ← gridSize_append]
    rfl

/-- Only lines give the grid a size: ticks and ends do not. -/
theorem size_after (source : SnapshotSource) (p : Player) (act : Act) :
    (p.after source act).stage.memory.size = gridSize p.stage.memory.size act.lines := by
  cases act with
  | ingest chunk =>
    rw [after, ingest_eq_heed]
    exact size_foldl_heed source p (Text.pieces chunk.toList)
  | tick sink =>
    change (p.tick sink).player.stage.memory.size = p.stage.memory.size
    cases hsteps : p.backlog.steps with
    | nil => rw [(tick_of_nil hsteps sink).2.1]
    | cons step rest =>
      rw [tick_of_cons hsteps]
      exact Stage.size_play p.stage step
  | ended code => rfl

theorem size_run (source : SnapshotSource) (p : Player) (acts : List Act) :
    (p.run source acts).stage.memory.size = gridSize p.stage.memory.size (acts.flatMap Act.lines) := by
  induction acts generalizing p with
  | nil => rfl
  | cons act rest ih => rw [run_cons, ih, size_after, List.flatMap_cons, gridSize_append]

/-- The grid and what flashes on it agree, in five parts, at every moment of every run of a fresh player.
1. The grid has 1024 cells for each unit that the last line told that tells the size of the memory, and 1024 while there was no
   such line. These are never more than 1024 times 1024.
2. Nothing else gives the grid another size, whatever the state of the player: neither any other line, nor a tick, nor an end.
   A line that does has the tag for it.
3. A cell that flashes is in the grid.
4. The cells that flash have addresses in a row, at most 64 of them.
5. The first of them is in a row of the pane of the memory. -/
theorem grid_and_highlights_agree (source : SnapshotSource) (acts : List Act) :
    let stage := (initial.run source acts).stage
    (stage.memory.size = 1024 * ((acts.flatMap Act.lines).filterMap Trace.kilobytes?).getLast?.getD 1 ∧
      stage.memory.size ≤ 1024 * 1024) ∧
    ((∀ (p : Player) (act : Act), (∀ line ∈ act.lines, Trace.kilobytes? line = none) →
        (p.after source act).stage.memory.size = p.stage.memory.size) ∧
      (∀ line kilobytes, Trace.kilobytes? line = some kilobytes → (Text.words line).head? = some "config".toList)) ∧
    (∀ a, stage.isFlashing (.cell a) = true → a < stage.memory.size) ∧
    (∃ start count, count ≤ 64 ∧ ∀ a, stage.isFlashing (.cell a) = true ↔ start ≤ a ∧ a < start + count) ∧
    (∀ a, stage.firstFlashing? = some a → a / Machine.rowWidth < MemoryPane.rowCount stage) := by
  intro stage
  obtain ⟨start, count, hcount, hflashes⟩ := (lit_initial.run source acts).flashing
  have hcells : ∀ a, stage.isFlashing (.cell a) = true ↔ start ≤ a ∧ a < start + count := by
    intro a
    rw [Stage.isFlashing, decide_eq_true_iff]
    exact hflashes.cells a
  have hsize : stage.memory.size = 1024 * ((acts.flatMap Act.lines).filterMap Trace.kilobytes?).getLast?.getD 1 := by
    have hfirst : initial.stage.memory.size = 1024 * 1 := Stage.size_blankMemory _
    rw [show stage.memory.size = _ from size_run source initial acts, gridSize, hfirst]
    cases ((acts.flatMap Act.lines).filterMap Trace.kilobytes?).getLast? <;> rfl
  have hlast : ((acts.flatMap Act.lines).filterMap Trace.kilobytes?).getLast?.getD 1 ≤ Machine.greatestKilobytes := by
    cases hget : ((acts.flatMap Act.lines).filterMap Trace.kilobytes?).getLast? with
    | none => decide
    | some kilobytes =>
      obtain ⟨line, -, hline⟩ := List.mem_filterMap.1 (List.mem_of_getLast? hget)
      exact (Trace.of_kilobytes? hline).2
  refine ⟨⟨hsize, ?_⟩, ⟨fun p act hlines => ?_, fun line kilobytes h => (Trace.of_kilobytes? h).1⟩, fun a ha => ?_,
    ⟨start, count, hcount, hcells⟩, fun a ha => hflashes.firstFlashing_row ha⟩
  · rw [hsize]
    exact Nat.mul_le_mul_left 1024 hlast
  · rw [size_after, gridSize_of_none _ hlines]
  · obtain ⟨-, hlt⟩ := (hcells a).1 ha
    exact Nat.lt_of_lt_of_le hlt hflashes.inside

/-- A read from the end of a grid, and then a smaller grid while its steps still wait: nothing flashes on the new grid, and a
read that was made for the old one touches only what there is. -/
example :
    let source : SnapshotSource := fun _ => .error (.unreadable "state.json" .notFound)
    let tick : Act := .tick fun _ => .ok ()
    let sized (kilobytes : Nat) : Act := .ingest s!"config \x7b\"memorykb\": {kilobytes}\x7d"
    let read : Act := .ingest "exec_func mov_reg eax 4 maddr 1022 [1]"
    let first := initial.run source [sized 2, read, tick, tick, tick]
    let second := first.run source [sized 1, read]
    let third := second.run source [tick, tick, tick, tick, tick, tick]
    first.stage.firstFlashing? = some 1022 ∧ first.stage.isFlashing (.cell 1025) = true ∧
      second.stage.firstFlashing? = none ∧
      third.stage.isFlashing (.cell 1023) = true ∧ third.stage.isFlashing (.cell 1024) = false := by
  decide +kernel

end Player

end TracePlayer
