import TracePlayer.Text.Numeral

/-!
# Memory sizes and the bytes of integers

Memory is a grid of byte cells, shown ten to a row, whose size is given in units of 1024 cells. Integers are written to it
in two's complement, least significant byte first.
-/

namespace TracePlayer.Machine

/-- The number of cells in a row of the memory grid. -/
def rowWidth : Nat := 10

/-- The number of bytes of an address in memory. -/
def addressWidth : Nat := 4

/-- The greatest number of bytes that one transfer moves. -/
def greatestTransfer : Nat := 64

/-- The greatest size of the grid, in units of 1024 cells. -/
def greatestKilobytes : Nat := 1024

/-- The low `width` bytes of an integer, least significant first. -/
def integerBytes (value : Int) (width : Nat) : List UInt8 :=
  match width with
  | 0 => []
  | width + 1 => UInt8.ofNat (value % 256).toNat :: integerBytes (value / 256) width

@[simp]
theorem length_integerBytes (value : Int) (width : Nat) : (integerBytes value width).length = width := by
  induction width generalizing value with
  | zero => rfl
  | succ width ih => rw [integerBytes, List.length_cons, ih]

/-- The text of a cell: its value with three digits. -/
def cellText (value : UInt8) : String := Text.zeroPadded 3 value.toNat

end TracePlayer.Machine
