import TracePlayer.Proofs.Highlights
import TracePlayer.Proofs.Writing

/-!
# Moves into memory

A move into memory names an address and a size, and is shown by one write. An immediate value is written in as many bytes as the
size says, and so is a register whose contents are given as an integer. Contents that are given as a list of bytes are written as
they are given: the size is checked apart from the list, and the list need not be as long. So a move touches the cells of the
bytes that it writes and no other (`memory_move_touches_its_bytes`), and these are not always the cells that it names
(`memory_move_past_its_size`).
-/

namespace TracePlayer

/-- The bytes that a step writes, and where. -/
def Step.written? : Step → Option (Nat × List UInt8)
  | .write address bytes => some (address, bytes)
  | _ => none

/-- All cells that a step is about are in an interval. -/
def Step.Inside (step : Step) (address size : Nat) : Prop :=
  ∀ a, step.touched.1 ≤ a → a < step.touched.1 + step.touched.2 → address ≤ a ∧ a < address + size

theorem Step.inside_of_untouched {step : Step} (h : step.touched = (0, 0)) (address size : Nat) : step.Inside address size := by
  intro a hfrom hto
  simp only [h] at hfrom hto
  omega

theorem Step.inside_write (address : Nat) (bytes : List UInt8) : (Step.write address bytes).Inside address bytes.length :=
  fun _ hfrom hto => ⟨hfrom, hto⟩

namespace Stage

variable {address size a : Nat}

/-- A step leaves a cell alone that it is not about, whatever it does elsewhere. -/
theorem play_of_not_touched (s : Stage) {step : Step}
    (ha : ¬(step.touched.1 ≤ a ∧ a < step.touched.1 + step.touched.2)) :
    (s.play step).readByte a = s.readByte a ∧ (s.play step).isFlashing (.cell a) = false := by
  constructor
  · apply FootprintAux.readByte_play_of_not_writes
    intro b hwrites
    cases step with
    | write address bytes =>
      obtain ⟨⟨hfrom, hto⟩, -⟩ := hwrites
      simp only [Step.touched] at ha
      omega
    | _ => exact hwrites
  · rw [isFlashing, decide_eq_false_iff_not, flashing_play, mem_sliceAddresses]
    rintro ⟨hfrom, hto⟩
    omega

/-- Steps that are all about one interval leave the cells outside it alone. No such cell flashes once a step has been played, even
if it flashed before. -/
theorem foldl_play_of_inside (s : Stage) {steps : List Step} (hsteps : ∀ step ∈ steps, step.Inside address size)
    (ha : ¬(address ≤ a ∧ a < address + size)) :
    (steps.foldl play s).readByte a = s.readByte a ∧
      (steps ≠ [] → (steps.foldl play s).isFlashing (.cell a) = false) := by
  induction steps generalizing s with
  | nil => exact ⟨rfl, fun hne => absurd rfl hne⟩
  | cons step rest ih =>
    obtain ⟨hstep, hrest⟩ := List.forall_mem_cons.1 hsteps
    have hout : ¬(step.touched.1 ≤ a ∧ a < step.touched.1 + step.touched.2) := by
      rintro ⟨hfrom, hto⟩
      exact ha (hstep a hfrom hto)
    obtain ⟨hbyte, hflash⟩ := s.play_of_not_touched hout
    obtain ⟨hbytes, hflashes⟩ := ih (s.play step) hrest
    rw [List.foldl_cons]
    refine ⟨hbytes.trans hbyte, fun _ => ?_⟩
    -- Every step puts out what flashed before it, so only the last one has a say in what flashes.
    by_cases hlast : rest = []
    · subst hlast
      exact hflash
    · exact hflashes hlast

end Stage

namespace Storyboard

variable {target size : Nat} {kind : String} {source content : Datum} {steps : List Step}

/-- The contents of a register are the list of bytes that is given, or as many bytes as the size says. -/
theorem of_contents? {bytes : List UInt8} (h : content.contents? size = some bytes) :
    content.bytes? = some bytes ∨ content.bytes? = none ∧ bytes.length = size := by
  unfold Datum.contents? at h
  cases hgiven : content.bytes? with
  | some given =>
    rw [hgiven] at h
    exact Or.inl h
  | none =>
    rw [hgiven] at h
    obtain ⟨v, -, rfl⟩ := Option.map_eq_some_iff.1 h
    exact Or.inr ⟨rfl, Machine.length_integerBytes v size⟩

/-- What is made of data that are looked up is made of data that are found. -/
theorem exists_of_bind_ok {α : Type} {found : Except StoryFault α} {story : α → Except StoryFault (List Step)}
    (h : found >>= story = .ok steps) : ∃ a, found.toOption = some a ∧ story a = .ok steps := by
  cases found with
  | ok a => exact ⟨a, rfl, h⟩
  | error fault => cases h

/-- The two ways in which a move into memory is shown: a register is held while its contents are written, or an immediate value is
written. -/
theorem of_moveToMemory (h : ofMoveToMemory target size kind source content = .ok steps) :
    (kind = "reg" ∧ ∃ (r : Register) (bytes : List UInt8), content.contents? size = some bytes ∧
      steps = .notify s!"Reading register {r.name}" :: holding r [.write target bytes]) ∨
    (kind = "immediate" ∧ ∃ v : Int,
      steps = [.notify s!"Given immediate value {v}", .write target (Machine.integerBytes v size)]) := by
  unfold ofMoveToMemory at h
  split at h
  · obtain ⟨r, -, h⟩ := exists_of_bind_ok h
    obtain ⟨-, -, h⟩ := exists_of_bind_ok h
    obtain ⟨bytes, hbytes, h⟩ := exists_of_bind_ok h
    obtain ⟨-, -, h⟩ := exists_of_bind_ok h
    rw [toOption_contentBytes] at hbytes
    exact Or.inl ⟨rfl, r, bytes, hbytes, (Except.ok.inj h).symm⟩
  · obtain ⟨v, -, h⟩ := exists_of_bind_ok h
    obtain ⟨-, -, h⟩ := exists_of_bind_ok h
    exact Or.inr ⟨rfl, v, (Except.ok.inj h).symm⟩
  · cases h

/-- A move into memory has one write, whose bytes are as many as the size that it names or are the list that it gives, and its steps
are about the cells of these bytes. -/
theorem written_of_moveToMemory (h : ofMoveToMemory target size kind source content = .ok steps) :
    ∃ bytes : List UInt8, steps.filterMap Step.written? = [(target, bytes)] ∧
      ((kind = "reg" → content.bytes? = none) → bytes.length = size) ∧
      (∀ given, kind = "reg" → content.bytes? = some given → bytes = given) ∧
      ∀ step ∈ steps, step.Inside target bytes.length := by
  rcases of_moveToMemory h with ⟨rfl, r, bytes, hcontents, rfl⟩ | ⟨rfl, v, rfl⟩
  · refine ⟨bytes, rfl, fun hnone => ?_, fun given _ hgiven => ?_, fun step hstep => ?_⟩
    · -- Only contents that are no list of bytes are made as long as the size says.
      rcases of_contents? hcontents with hgiven | ⟨-, hlength⟩
      · rw [hnone rfl] at hgiven
        cases hgiven
      · exact hlength
    · rcases of_contents? hcontents with hgiven' | ⟨hnone, -⟩
      · exact Option.some.inj (hgiven'.symm.trans hgiven)
      · rw [hnone] at hgiven
        cases hgiven
    · simp only [holding, List.singleton_append, List.mem_cons, List.not_mem_nil, or_false] at hstep
      rcases hstep with rfl | rfl | rfl | rfl
      · exact Step.inside_of_untouched rfl _ _
      · exact Step.inside_of_untouched rfl _ _
      · exact Step.inside_write target bytes
      · exact Step.inside_of_untouched rfl _ _
  · refine ⟨Machine.integerBytes v size, rfl, fun _ => Machine.length_integerBytes v size, fun given hkind => ?_,
      fun step hstep => ?_⟩
    · exact absurd hkind (by decide)
    · simp only [List.mem_cons, List.not_mem_nil, or_false] at hstep
      rcases hstep with rfl | rfl
      · exact Step.inside_of_untouched rfl _ _
      · exact Step.inside_write target _

end Storyboard

/-- A move into memory touches the cells of its bytes and no others, in three parts, whatever it names and on whatever stage.
1. Its storyboard has one write, at the address that it names.
2. The bytes of it are as many as the size that it names, unless it moves a register whose contents are given as a list of bytes:
   then they are that list.
3. At no moment while its steps are played has a cell outside the interval of these bytes changed, and none flashes. -/
theorem Event.memory_move_touches_its_bytes {target size : Nat} {kind : String} {source content : Datum} {steps : List Step}
    (h : (Event.executed (.moveToMemory target size kind source content)).storyboard = .ok steps) :
    ∃ bytes : List UInt8, steps.filterMap Step.written? = [(target, bytes)] ∧
      (((kind = "reg" → content.bytes? = none) → bytes.length = size) ∧
        ∀ given, kind = "reg" → content.bytes? = some given → bytes = given) ∧
      ∀ (s : Stage) (moment a : Nat), ¬(target ≤ a ∧ a < target + bytes.length) →
        ((steps.take moment).foldl Stage.play s).readByte a = s.readByte a ∧
        (0 < moment → ((steps.take moment).foldl Stage.play s).isFlashing (.cell a) = false) := by
  obtain ⟨bytes, hwritten, hsize, hgiven, hinside⟩ := Storyboard.written_of_moveToMemory h
  refine ⟨bytes, hwritten, ⟨hsize, hgiven⟩, fun s moment a ha => ?_⟩
  obtain ⟨hbyte, hflash⟩ := s.foldl_play_of_inside (fun step hstep => hinside step (List.mem_of_mem_take hstep)) ha
  refine ⟨hbyte, fun hmoment => hflash fun hnil => ?_⟩
  rcases List.take_eq_nil_iff.1 hnil with hzero | rfl
  · omega
  · cases hwritten

/-- A register that holds a number is written in the four bytes that the move names, and the cell behind them is left alone. -/
theorem Event.memory_move_touches_its_bytes_number :
    let content : Datum := ⟨.number (.integer 258)⟩
    let steps : List Step := [.notify "Reading register eax", .emphasize .eax true, .write 40 [2, 1, 0, 0], .emphasize .eax false]
    (Event.executed (.moveToMemory 40 4 "reg" ⟨.text "eax"⟩ content)).storyboard = .ok steps ∧
      ∃ bytes : List UInt8, steps.filterMap Step.written? = [(40, bytes)] ∧ bytes.length = 4 ∧
        ∀ moment, ((steps.take moment).foldl Stage.play Stage.initial).readByte 44 = Stage.initial.readByte 44 := by
  intro content steps
  have hsteps : (Event.executed (.moveToMemory 40 4 "reg" ⟨.text "eax"⟩ content)).storyboard = .ok steps := by rfl
  obtain ⟨bytes, hwritten, ⟨hlength, -⟩, hstage⟩ := Event.memory_move_touches_its_bytes hsteps
  have hfour : bytes.length = 4 := hlength fun _ => rfl
  refine ⟨hsteps, bytes, hwritten, hfour, fun moment => ?_⟩
  obtain ⟨hbyte, -⟩ := hstage Stage.initial moment 44 (by omega)
  exact hbyte

/-- A line moves a register to two cells and gives three bytes: all three are written, and the cell behind the two changes and
flashes. -/
theorem Event.memory_move_past_its_size :
    let line := "exec_func mov_mem 40 2 reg \"eax\" [1,2,3]".toList
    let bytes : List Json := [.number (.integer 1), .number (.integer 2), .number (.integer 3)]
    let e : Event := .executed (.moveToMemory 40 2 "reg" ⟨.text "eax"⟩ ⟨.list bytes⟩)
    let steps : List Step := [.notify "Reading register eax", .emphasize .eax true, .write 40 [1, 2, 3], .emphasize .eax false]
    let written := (steps.take 3).foldl Stage.play Stage.initial
    Trace.judge line = .decoded e ∧ e.storyboard = .ok steps ∧ Stage.initial.readByte 42 = some 0 ∧
      written.readByte 42 = some 3 ∧ written.isFlashing (.cell 42) = true := by
  intro line bytes e steps written
  have hwritable : e.IsWritable := by
    refine ⟨by decide, by decide, by decide, .text _, .list ?_⟩
    simp only [bytes, List.forall_mem_cons]
    exact ⟨.integer (by decide) (by decide), .integer (by decide) (by decide), .integer (by decide) (by decide), nofun⟩
  have hline : e.line = line := by decide +kernel
  have hjudge : Trace.judge line = .decoded e := hline ▸ Trace.judge_of_event (Trace.decodeLine_line hwritable)
  have hstage : Stage.initial.readByte 42 = some 0 ∧ written.readByte 42 = some 3 ∧ written.isFlashing (.cell 42) = true := by
    decide +kernel
  exact ⟨hjudge, rfl, hstage⟩

end TracePlayer
