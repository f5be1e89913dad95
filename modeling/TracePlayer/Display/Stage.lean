import TracePlayer.Machine.Bytes
import TracePlayer.Machine.Register

/-!
# The stage

Everything that the panes show of the machine: the texts of registers and flags, the memory grid, which elements are held in
bold and which ones flash, the commentary, and how many steps have been played. The panes only read the stage. Highlights
are lists that are looked at through membership alone.
-/

namespace TracePlayer

/-- An element that can be highlighted. -/
inductive Element where
  | register (r : Register)
  | flag (f : Flag)
  | cell (address : Nat)
  deriving DecidableEq, Repr

/-- An element that shows a text. -/
inductive Label where
  | register (r : Register)
  | flag (f : Flag)
  deriving DecidableEq, Repr

/-- The place of a label among the fifteen texts of a stage. -/
def Label.index : Label → Fin 15
  | register .pc => 0
  | register .mar => 1
  | register .mdr => 2
  | register .cir => 3
  | register .eax => 4
  | register .ebx => 5
  | register .ecx => 6
  | register .edx => 7
  | register .esi => 8
  | register .edi => 9
  | register .ebp => 10
  | register .esp => 11
  | flag .equal => 12
  | flag .less => 13
  | flag .greater => 14

theorem Label.index_inj {a b : Label} : a.index = b.index ↔ a = b := by
  constructor
  · intro h
    rcases a with r | f <;> rcases b with r' | f'
    · cases r <;> cases r' <;> first | rfl | exact absurd h (by decide)
    · cases r <;> cases f' <;> exact absurd h (by decide)
    · cases f <;> cases r' <;> exact absurd h (by decide)
    · cases f <;> cases f' <;> first | rfl | exact absurd h (by decide)
  · rintro rfl
    rfl

/-- How an element is highlighted. -/
inductive Emphasis where
  | normal
  | bold
  | flash
  deriving DecidableEq, Repr

/-- The contents of the screen, as far as the machine is concerned. -/
structure Stage where
  texts : Vector String 15
  memory : Array UInt8
  bold : List Element
  flashing : List Element
  commentary : List String
  stepsPlayed : Nat

namespace Stage

/-- How many lines of the commentary are kept. -/
def commentaryLimit : Nat := 1000

/-- The size of the grid before the trace gives one, in units of 1024 cells. -/
def firstKilobytes : Nat := 1

/-- A grid of zeros. -/
def blankMemory (kilobytes : Nat) : Array UInt8 :=
  Array.replicate (min kilobytes Machine.greatestKilobytes * 1024) 0

/-- The stage before anything is played: zero everywhere. -/
def initial : Stage where
  texts := Vector.replicate 15 "0"
  memory := blankMemory firstKilobytes
  bold := []
  flashing := []
  commentary := []
  stepsPlayed := 0

/-- The text of a register or a flag. -/
def text (s : Stage) (label : Label) : String := s.texts[label.index]

/-- Gives a register or a flag a text. -/
def setText (s : Stage) (label : Label) (t : String) : Stage :=
  { s with texts := s.texts.set label.index t }

/-- The text of a register. -/
def register (s : Stage) (r : Register) : String := s.text (.register r)

/-- The text of a flag. -/
def flag (s : Stage) (f : Flag) : String := s.text (.flag f)

@[simp]
theorem text_setText (s : Stage) (a b : Label) (t : String) :
    (s.setText a t).text b = if b = a then t else s.text b := by
  simp only [text, setText, Vector.getElem_set, Fin.getElem_fin, Fin.val_inj, Label.index_inj, eq_comm (a := a)]

/-- Whether an element is a memory cell. -/
def isCell : Element → Bool
  | .cell _ => true
  | _ => false

/-- Gives the grid a new size, at most the greatest: all cells are zero and no cell is highlighted. -/
def resize (s : Stage) (kilobytes : Nat) : Stage :=
  { s with
    memory := blankMemory kilobytes
    bold := s.bold.filter (!isCell ·)
    flashing := s.flashing.filter (!isCell ·) }

/-- Writes bytes into a grid from an address on, as far as it reaches. -/
def writeBytes (memory : Array UInt8) (address : Nat) : List UInt8 → Array UInt8
  | [] => memory
  | b :: rest =>
    if h : address < memory.size then writeBytes (memory.set address b) (address + 1) rest else memory

/-- Writes a memory dump into the grid; what does not fit is left out. -/
def load (s : Stage) (bytes : List UInt8) : Stage :=
  { s with memory := writeBytes s.memory 0 bytes }

/-- Changes one cell, when the grid has it. -/
def writeByte (s : Stage) (address : Nat) (value : UInt8) : Stage :=
  { s with memory := writeBytes s.memory address [value] }

/-- Whether the grid has the address. -/
def hasAddress (s : Stage) (address : Nat) : Bool := decide (address < s.memory.size)

/-- The value of a cell. -/
def readByte (s : Stage) (address : Nat) : Option UInt8 := s.memory[address]?

/-- The cells of an interval, as far as the grid reaches. -/
def slice (s : Stage) (address size : Nat) : List UInt8 :=
  (s.memory.extract address (min (address + size) s.memory.size)).toList

/-- The addresses of an interval, as far as the grid reaches. -/
def sliceAddresses (s : Stage) (address size : Nat) : List Nat :=
  List.range' address (min (address + size) s.memory.size - address)

/-- Highlights an element. Bold and flashing go together; only `normal` takes a highlight away. -/
def emphasize (s : Stage) (e : Element) : Emphasis → Stage
  | .normal => { s with bold := s.bold.filter (· != e), flashing := s.flashing.filter (· != e) }
  | .bold => { s with bold := e :: s.bold }
  | .flash => { s with flashing := e :: s.flashing }

/-- Whether an element is held in bold. -/
def isBold (s : Stage) (e : Element) : Bool := decide (e ∈ s.bold)

/-- Whether an element flashes. -/
def isFlashing (s : Stage) (e : Element) : Bool := decide (e ∈ s.flashing)

/-- Whether an element is highlighted at all. -/
def isHighlighted (s : Stage) (e : Element) : Bool := s.isBold e || s.isFlashing e

/-- The address of a memory cell. -/
def address? : Element → Option Nat
  | .cell a => some a
  | _ => none

/-- The lowest address that flashes, inside the grid or not. -/
def firstFlashing? (s : Stage) : Option Nat := (s.flashing.filterMap address?).min?

/-- The last items of a list. -/
def keepLast {α : Type} (limit : Nat) (items : List α) : List α := items.drop (items.length - limit)

/-- Adds a line to the commentary, of which the last lines are kept. -/
def notify (s : Stage) (line : String) : Stage :=
  { s with commentary := keepLast commentaryLimit (s.commentary ++ [line]) }

/-- Counts a step and ends the flashing of the one before. -/
def beginStep (s : Stage) : Stage :=
  { s with flashing := [], stepsPlayed := s.stepsPlayed + 1 }

end Stage

end TracePlayer
