import TracePlayer.Display.Stage

/-!
# The memory grid, cell by cell

What a transfer does to the grid, said of one cell at a time and of the grid as a list. `overwrite` is the write that the
statements of other modules speak of: every cell inside the interval holds its byte and every other cell is unchanged.
-/

namespace TracePlayer

namespace Stage

/-- A write keeps the size of the grid. -/
theorem size_writeBytes (memory : Array UInt8) (address : Nat) (bytes : List UInt8) :
    (writeBytes memory address bytes).size = memory.size := by
  induction bytes generalizing memory address with
  | nil => rfl
  | cons b rest ih =>
    unfold writeBytes
    split
    · rw [ih, Array.size_set]
    · rfl

/-- A cell after a write: a cell from the address on holds its byte, as long as there is one, and every other cell is
unchanged. -/
theorem getElem?_writeBytes (memory : Array UInt8) (address : Nat) (bytes : List UInt8) (i : Nat) :
    (writeBytes memory address bytes)[i]? =
      memory[i]?.map (fun c => if address ≤ i then bytes.getD (i - address) c else c) := by
  induction bytes generalizing memory address with
  | nil => simp [writeBytes]
  | cons b rest ih =>
    unfold writeBytes
    split
    · rename_i h
      rw [ih, Array.getElem?_set]
      rcases Nat.lt_trichotomy i address with hi | hi | hi
      · rw [if_neg (by omega)]
        have h1 : ¬address ≤ i := by omega
        have h2 : ¬address + 1 ≤ i := by omega
        simp only [h1, h2, if_false]
      · subst hi
        have h2 : ¬i + 1 ≤ i := by omega
        simp [h, h2]
      · rw [if_neg (by omega)]
        have h1 : address ≤ i := by omega
        have h2 : address + 1 ≤ i := by omega
        have h3 : i - address = i - (address + 1) + 1 := by omega
        simp only [h1, h2, if_true, h3, List.getD_cons_succ]
    · rename_i h
      have hnone : ∀ j, address ≤ j → memory[j]? = none := fun j hj => Array.getElem?_eq_none (by omega)
      by_cases hi : address ≤ i
      · rw [hnone i hi, Option.map_none]
      · simp only [hi, if_false, Option.map_id']

end Stage

/-- Cells with bytes written over them from an address on. What would lie behind the last cell is left out. -/
def overwrite (cells : List UInt8) (address : Nat) (bytes : List UInt8) : List UInt8 :=
  cells.mapIdx fun i c => if address ≤ i then bytes.getD (i - address) c else c

/-- What has been written is read back, unless the cells end before. -/
theorem take_drop_overwrite {cells bytes : List UInt8} {address : Nat} (h : address + bytes.length ≤ cells.length) :
    ((overwrite cells address bytes).drop address).take bytes.length = bytes := by
  refine List.ext_getElem ?_ fun i _ hi => ?_
  · rw [overwrite, List.length_take, List.length_drop, List.length_mapIdx]
    omega
  · rw [List.getElem_take, List.getElem_drop]
    simp [overwrite, hi]

/-- A cell outside what has been written is as it was. -/
theorem getElem?_overwrite_of_outside (cells bytes : List UInt8) {address a : Nat}
    (h : ¬(address ≤ a ∧ a < address + bytes.length)) : (overwrite cells address bytes)[a]? = cells[a]? := by
  rw [overwrite, List.getElem?_mapIdx]
  by_cases hfrom : address ≤ a
  · have hnone : bytes[a - address]? = none := List.getElem?_eq_none (by omega)
    simp [hnone]
  · simp [hfrom]

/-- The grid after a write, as a list. -/
theorem Stage.toList_writeBytes (memory : Array UInt8) (address : Nat) (bytes : List UInt8) :
    (writeBytes memory address bytes).toList = overwrite memory.toList address bytes := by
  apply List.ext_getElem?
  intro i
  rw [Array.getElem?_toList, getElem?_writeBytes, overwrite, List.getElem?_mapIdx, Array.getElem?_toList]

/-- An interval of the grid, as far as the grid reaches, as a list. -/
theorem Stage.slice_eq (s : Stage) (address size : Nat) :
    s.slice address size = (s.memory.toList.drop address).take size := by
  have hlen : s.memory.toList.length = s.memory.size := Array.length_toList
  rw [slice, Array.toList_extract, List.extract_eq_take_drop]
  by_cases h : address + size ≤ s.memory.size
  · rw [Nat.min_eq_left h, Nat.add_sub_cancel_left]
  · rw [Nat.min_eq_right (by omega), List.take_of_length_le (by rw [List.length_drop]; omega),
      List.take_of_length_le (by rw [List.length_drop]; omega)]

end TracePlayer
