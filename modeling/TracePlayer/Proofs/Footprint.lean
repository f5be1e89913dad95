import TracePlayer.Proofs.Account
import TracePlayer.Proofs.Holding
import TracePlayer.Proofs.Numerals
import TracePlayer.Proofs.Scene

/-!
# The footprint of a step

What a step declares is all that it changes. Here is, piece by piece of the stage, what a step declares: the elements that flash, the
bytes it writes, the register it gives a text, the flag it raises, the register it holds, and the line it tells. An interval of
addresses is cut off where the grid ends (`Reaches`), whatever its address and its size: addresses are added as natural numbers, and
no interval begins anew at zero. It is the same to go from cell to cell and to stop where the grid has no next one (`walk_eq_zip`).
The main statement is `play_footprint`.
-/

namespace TracePlayer

/-- The cell `a` is one of `size` cells from `address` on, on a grid of `cells` cells. -/
def Reaches (cells address size a : Nat) : Prop := address ≤ a ∧ a < min (address + size) cells

/-- The three digits of a byte. -/
def threeDigits (b : UInt8) : String :=
  String.ofList [Nat.digitChar (b.toNat / 100), Nat.digitChar (b.toNat / 10 % 10), Nat.digitChar (b.toNat % 10)]

namespace Stage

/-- The grid holds the given bytes from an address on. -/
def HoldsAt (s : Stage) (address : Nat) (bytes : List UInt8) : Prop :=
  ∀ k < bytes.length, s.readByte (address + k) = bytes[k]?

/-- A text shows the cells of an interval: all those that the grid has, three digits each, with commas between them. -/
def ShowsCells (s : Stage) (address size : Nat) (text : String) : Prop :=
  ∃ cells : List UInt8, cells.length = min (address + size) s.memory.size - address ∧ s.HoldsAt address cells ∧
    text = ",".intercalate (cells.map threeDigits)

end Stage

namespace Step

/-- The elements that flash once a step has been played on a grid of `cells` cells. -/
def Flashes (cells : Nat) : Step → Element → Prop
  | .move source target _, e => e = .register source ∨ e = .register target
  | .read address size, e => e = .register .mdr ∨ ∃ a, e = .cell a ∧ Reaches cells address size a
  | .write address bytes, e => ∃ a, e = .cell a ∧ Reaches cells address bytes.length a
  | _, _ => False

/-- The bytes that a step writes on a grid of `cells` cells, and where. -/
def Writes (cells : Nat) : Step → Nat → UInt8 → Prop
  | .write address bytes, a, b => Reaches cells address bytes.length a ∧ bytes[a - address]? = some b
  | _, _, _ => False

/-- The register that a step gives a text. -/
def target? : Step → Option Register
  | .set r _ => some r
  | .move _ target _ => some target
  | .read _ _ => some .mdr
  | _ => none

/-- The text that a step gives to its register, on a stage. -/
def Gives (s : Stage) : Step → String → Prop
  | .set _ value, text => text = value
  | .move source _ value, text => text = value.getD (s.register source)
  | .read address size, text => s.ShowsCells address size text
  | _, _ => False

/-- The flag that a step raises. -/
def raised? : Step → Option Flag
  | .raise f => some f
  | _ => none

end Step

namespace Stage

/-- One stage comes of another by what a step declares, and is the same in everything else. -/
structure Footprint (s : Stage) (step : Step) (t : Stage) : Prop where
  counted : t.stepsPlayed = s.stepsPlayed + 1
  flashing : ∀ e, t.isFlashing e = true ↔ step.Flashes s.memory.size e
  size : t.memory.size = s.memory.size
  written : ∀ a b, step.Writes s.memory.size a b → t.readByte a = some b
  unwritten : ∀ a, (∀ b, ¬step.Writes s.memory.size a b) → t.readByte a = s.readByte a
  given : ∀ r, step.target? = some r → step.Gives s (t.register r)
  notGiven : ∀ r, step.target? ≠ some r → t.register r = s.register r
  flag : ∀ f, t.flag f = match step.raised? with
    | some raised => if f = raised then "1" else "0"
    | none => s.flag f
  bold : ∀ e, t.isBold e = match step.grip? with
    | some (r, on) => if e = .register r then on else s.isBold e
    | none => s.isBold e
  commentary : t.commentary = match step.notice? with
    | some line => keepLast 1000 (s.commentary ++ [line])
    | none => s.commentary

end Stage

/-! ## What flashes, and the grid -/

namespace Stage

theorem mem_sliceAddresses (s : Stage) (address size a : Nat) :
    a ∈ s.sliceAddresses address size ↔ Reaches s.memory.size address size a := by
  rw [sliceAddresses, List.mem_range'_1, Reaches]
  omega

/-- The cells that a transfer comes to when it goes from one to the next: it ends at the last address of 64 bits, and where the grid
ends. -/
def walk (s : Stage) (address : Nat) : Nat → List (Nat × UInt8)
  | 0 => []
  | size + 1 =>
    if address < wordBound then
      match s.readByte address with
      | some b => (address, b) :: s.walk (address + 1) size
      | none => []
    else []

/-- Going from cell to cell comes to the same as cutting the interval off where the grid ends: the addresses of a grid, which is no
larger than there are addresses, do not run out before. -/
theorem walk_eq_zip {s : Stage} (h : s.memory.size ≤ wordBound) (address size : Nat) :
    s.walk address size = (s.sliceAddresses address size).zip (s.slice address size) := by
  induction size generalizing address with
  | zero =>
    have hcount : min (address + 0) s.memory.size - address = 0 := by omega
    rw [sliceAddresses, hcount]
    rfl
  | succ size ih =>
    rw [walk]
    by_cases hinside : address < s.memory.size
    · have hcell : s.readByte address = some s.memory[address] := Array.getElem?_eq_getElem hinside
      have haddresses : s.sliceAddresses address (size + 1) = address :: s.sliceAddresses (address + 1) size := by
        have hcount : min (address + (size + 1)) s.memory.size - address =
            min (address + 1 + size) s.memory.size - (address + 1) + 1 := by omega
        rw [sliceAddresses, hcount, List.range'_succ, sliceAddresses]
      have hcells : s.slice address (size + 1) = s.memory[address] :: s.slice (address + 1) size := by
        rw [slice_eq, slice_eq, List.drop_eq_getElem_cons (by rwa [Array.length_toList]), List.take_succ_cons,
          Array.getElem_toList]
      rw [if_pos (Nat.lt_of_lt_of_le hinside h), hcell, ih, haddresses, hcells]
      rfl
    · have hcell : s.readByte address = none := Array.getElem?_eq_none (Nat.le_of_not_lt hinside)
      have hcount : min (address + (size + 1)) s.memory.size - address = 0 := by omega
      rw [hcell, ite_self, sliceAddresses, hcount]
      rfl

theorem mem_flashCells (s : Stage) (address size : Nat) (e : Element) :
    e ∈ (s.sliceAddresses address size).map Element.cell ↔ ∃ a, e = .cell a ∧ Reaches s.memory.size address size a := by
  rw [List.mem_map]
  refine exists_congr fun a => ?_
  rw [mem_sliceAddresses, and_comm, eq_comm]

/-- The elements that flash after a step are those that it declares: the ones that flashed before are forgotten. -/
theorem mem_flashing_play (s : Stage) (step : Step) (e : Element) :
    e ∈ (s.play step).flashing ↔ step.Flashes s.memory.size e := by
  cases step with
  | move source target value =>
    change e ∈ [Element.register target, Element.register source] ↔ _
    rw [List.mem_cons, List.mem_singleton, Step.Flashes, or_comm]
  | read address size =>
    change e ∈ Element.register .mdr :: ((s.sliceAddresses address size).map Element.cell ++ []) ↔ _
    rw [List.append_nil, List.mem_cons, mem_flashCells, Step.Flashes]
  | write address bytes =>
    change e ∈ (s.sliceAddresses address bytes.length).map Element.cell ++ [] ↔ _
    rw [List.append_nil, mem_flashCells, Step.Flashes]
  | emphasize r on => cases on <;> exact iff_of_false List.not_mem_nil id
  | _ => exact iff_of_false List.not_mem_nil id

/-- Playing a step keeps the size of the grid. -/
theorem size_play (s : Stage) (step : Step) : (s.play step).memory.size = s.memory.size := by
  cases step with
  | write address bytes => exact size_writeBytes s.memory address bytes
  | emphasize r on => cases on <;> rfl
  | _ => rfl

theorem size_foldl_play (s : Stage) (steps : List Step) : (steps.foldl play s).memory.size = s.memory.size := by
  induction steps generalizing s with
  | nil => rfl
  | cons step rest ih => rw [List.foldl_cons, ih, size_play]

end Stage

namespace FootprintAux

/-! ## The text of cells -/

/-- A number below a thousand is shown by three digits. -/
theorem zeroPadded_three {n : Nat} (h : n < 1000) :
    Text.zeroPadded 3 n =
      String.ofList [Nat.digitChar (n / 100), Nat.digitChar (n / 10 % 10), Nat.digitChar (n % 10)] := by
  rw [← String.toList_inj, Text.toList_zeroPadded, String.toList_ofList]
  rcases Nat.lt_or_ge n 10 with hone | hone
  · have hdigits : Nat.toDigits 10 n = [Nat.digitChar n] := Nat.toDigits_of_lt_base hone
    rw [hdigits, show n / 100 = 0 by omega, show n / 10 % 10 = 0 by omega, show n % 10 = n by omega]
    rfl
  have hlast : Nat.toDigits 10 n = Nat.toDigits 10 (n / 10) ++ [Nat.digitChar (n % 10)] :=
    Nat.toDigits_of_base_le (by decide) hone
  rcases Nat.lt_or_ge n 100 with htwo | htwo
  · have hfirst : Nat.toDigits 10 (n / 10) = [Nat.digitChar (n / 10)] := Nat.toDigits_of_lt_base (by omega)
    rw [hlast, hfirst, show n / 100 = 0 by omega, show n / 10 % 10 = n / 10 by omega]
    rfl
  · have hmiddle : Nat.toDigits 10 (n / 10) = Nat.toDigits 10 (n / 10 / 10) ++ [Nat.digitChar (n / 10 % 10)] :=
      Nat.toDigits_of_base_le (by decide) (by omega)
    have hfirst : Nat.toDigits 10 (n / 10 / 10) = [Nat.digitChar (n / 10 / 10)] := Nat.toDigits_of_lt_base (by omega)
    rw [hlast, hmiddle, hfirst, Nat.div_div_eq_div_mul]
    rfl

theorem cellText_eq (b : UInt8) : Machine.cellText b = threeDigits b :=
  zeroPadded_three (Nat.lt_trans b.toNat_lt (by decide))

/-- What is read from an interval are the cells of it that the grid has. -/
theorem showsCells_slice (s : Stage) (address size : Nat) :
    s.ShowsCells address size (Stage.cellsText (s.slice address size)) := by
  have hlength : (s.slice address size).length = min (address + size) s.memory.size - address := by
    rw [Stage.slice, Array.length_toList, Array.size_extract]
    omega
  refine ⟨s.slice address size, hlength, fun k hk => ?_, ?_⟩
  · rw [hlength] at hk
    have hinside : address + k < s.memory.size := by omega
    rw [Stage.slice, Array.getElem?_toList, Array.getElem?_extract_of_lt (by omega)]
    exact Array.getElem?_eq_getElem hinside
  · rw [Stage.cellsText, List.map_congr_left fun b _ => cellText_eq b]

/-! ## Cells, registers and flags -/

/-- A cell after a step shows the byte that the step writes there. -/
theorem readByte_play_of_writes {s : Stage} {step : Step} {a : Nat} {b : UInt8} (h : step.Writes s.memory.size a b) :
    (s.play step).readByte a = some b := by
  cases step with
  | write address bytes =>
    obtain ⟨⟨hfrom, hto⟩, hbyte⟩ := h
    have hinside : a < s.memory.size := by omega
    change (Stage.writeBytes s.memory address bytes)[a]? = some b
    rw [Stage.getElem?_writeBytes, Array.getElem?_eq_getElem hinside, Option.map_some, if_pos hfrom, List.getD_eq_getElem?_getD,
      hbyte, Option.getD_some]
  | _ => exact h.elim

/-- A cell to which a step writes nothing is as it was. -/
theorem readByte_play_of_not_writes {s : Stage} {step : Step} {a : Nat} (h : ∀ b, ¬step.Writes s.memory.size a b) :
    (s.play step).readByte a = s.readByte a := by
  cases step with
  | write address bytes =>
    change (Stage.writeBytes s.memory address bytes)[a]? = s.memory[a]?
    rw [Stage.getElem?_writeBytes]
    cases hold : s.memory[a]? with
    | none => rfl
    | some old =>
      obtain ⟨hinside, -⟩ := Array.getElem?_eq_some_iff.1 hold
      rw [Option.map_some, Option.some_inj]
      split
      · rename_i hfrom
        rw [List.getD_eq_getElem?_getD]
        cases hbyte : bytes[a - address]? with
        | none => rfl
        | some b =>
          obtain ⟨hlt, -⟩ := List.getElem?_eq_some_iff.1 hbyte
          exact absurd ⟨⟨hfrom, by omega⟩, hbyte⟩ (h b)
      · rfl
  | emphasize r on => cases on <;> rfl
  | _ => rfl

theorem register_play (s : Stage) (step : Step) (r : Register) :
    (s.play step).register r = (s.scene.step step).register r := congrArg (fun sc => sc.register r) (s.scene_play step)

theorem flag_play (s : Stage) (step : Step) (f : Flag) :
    (s.play step).flag f = (s.scene.step step).flag f := congrArg (fun sc => sc.flag f) (s.scene_play step)

/-- Of what is held in bold only the register of the step changes. -/
theorem isBold_play_emphasize (s : Stage) (r : Register) (on : Bool) (e : Element) :
    (s.play (.emphasize r on)).isBold e = if e = .register r then on else s.isBold e := by
  by_cases he : e = .register r
  · subst he
    cases on <;> simp [Stage.play, Stage.change, Stage.emphasize, Stage.isBold]
  · cases on <;> simp [Stage.play, Stage.change, Stage.emphasize, Stage.beginStep, Stage.isBold, he]

end FootprintAux

open FootprintAux AccountAux

/-- Playing a step changes what the step declares, and nothing else. -/
theorem Stage.play_footprint (s : Stage) (step : Step) : s.Footprint step (s.play step) where
  counted := stepsPlayed_play s step
  flashing e := by rw [isFlashing, decide_eq_true_iff, mem_flashing_play]
  size := size_play s step
  written a b h := readByte_play_of_writes h
  unwritten a h := readByte_play_of_not_writes h
  given r h := by
    rw [register_play]
    cases step with
    | set r' value =>
      obtain rfl := Option.some.inj h
      simp [Step.Gives, Scene.step, Scene.set]
    | move source target value =>
      obtain rfl := Option.some.inj h
      simp [Step.Gives, Scene.step, Scene.set, scene]
    | read address size =>
      obtain rfl := Option.some.inj h
      simp [Step.Gives, Scene.step, Scene.set, ← cellsText_slice, showsCells_slice]
    | _ => cases h
  notGiven r h := by
    rw [register_play]
    cases step with
    | set r' value => exact if_neg fun heq => h (congrArg some heq.symm)
    | move source target value => exact if_neg fun heq => h (congrArg some heq.symm)
    | read address size => exact if_neg fun heq => h (congrArg some heq.symm)
    | _ => rfl
  flag f := by
    rw [flag_play]
    cases step <;> rfl
  bold e := by
    cases step with
    | emphasize r on => exact isBold_play_emphasize s r on e
    | _ => rfl
  commentary := by
    cases step with
    | notify text => simp only [play, change, notify, beginStep, commentaryLimit, Step.notice?]
    | emphasize r on => cases on <;> rfl
    | _ => rfl

/-- A read that is as long as an address can tell ends with the grid, and one that starts at the last address finds nothing. -/
example :
    let s : Stage := { Stage.initial with memory := #[1, 20, 255] }
    let first := s.play (.read 1 18446744073709551615)
    let second := first.play (.read 18446744073709551615 4)
    first.register .mdr = "020,255" ∧ first.isFlashing (.cell 2) = true ∧ first.isFlashing (.cell 3) = false ∧
      second.register .mdr = "" ∧ second.isFlashing (.cell 2) = false := by
  decide +kernel

end TracePlayer
