import TracePlayer.Machine.Bytes
import TracePlayer.Machine.Register

/-!
# Steps

One change of the stage. A step holds all that it needs: the only thing it may look up when it is played is the text of
another register, or the memory cells that it reads.
-/

namespace TracePlayer

/-- One change of the stage. -/
inductive Step where
  /-- Adds a line to the commentary. -/
  | notify (text : String)
  /-- Gives a register a text. -/
  | set (register : Register) (value : String)
  /-- Moves a text, or what the source shows when none is given, from one register to another. -/
  | move (source target : Register) (value : Option String)
  /-- Reads memory cells into MDR. -/
  | read (address size : Nat)
  /-- Writes memory cells. -/
  | write (address : Nat) (bytes : List UInt8)
  /-- Raises one flag and lowers the others. -/
  | raise (flag : Flag)
  /-- Holds a register in bold, or lets go of it. -/
  | emphasize (register : Register) (on : Bool)
  deriving DecidableEq, Repr

namespace Step

/-- Bytes as a list in square brackets. -/
def byteList (bytes : List UInt8) : String :=
  "[" ++ ", ".intercalate (bytes.map (fun b => toString b.toNat)) ++ "]"

/-- A step in words, as the status line shows it. -/
def text : Step → String
  | notify t => s!"notify \"{t}\""
  | set r v => s!"set {r.name} = {v}"
  | move a b (some v) => s!"move {a.name} -> {b.name} ({v})"
  | move a b none => s!"move {a.name} -> {b.name}"
  | read address size => s!"read {size} byte(s) at {address} into MDR"
  | write address bytes => s!"write {byteList bytes} at {address}"
  | raise f => s!"set flag {f.code}"
  | emphasize r true => s!"bold {r.name}"
  | emphasize r false => s!"unbold {r.name}"

end Step

end TracePlayer
