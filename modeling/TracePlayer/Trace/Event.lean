import TracePlayer.Machine.Register
import TracePlayer.Trace.Datum

/-!
# Trace events

What one line of a trace tells: a state to load, or something that the interpreter did.
-/

namespace TracePlayer

/-- An instruction fetched from memory. -/
structure Fetch where
  pc : Nat
  opcode : String
  opbyte : String
  operand1 : Datum
  operand2 : Datum
  deriving Repr

/-- The number of bytes of the instruction: two, and those of its operands. -/
def Fetch.length (f : Fetch) : Nat := 2 + f.operand1.length + f.operand2.length

/-- A global variable that the interpreter found. -/
structure Global where
  name : String
  type : String
  initial : Datum
  deriving Repr

/-- An operation that the interpreter carried out. The kinds of jumps and of sources are kept as they were written: it is the
storyboard that knows them. -/
inductive Operation where
  | compare (left right result : String)
  | jump (kind address : String) (performed : Bool)
  | moveToRegister (target : Register) (size : Nat) (sourceKind : String) (source content : Datum)
  | moveToMemory (target size : Nat) (sourceKind : String) (source content : Datum)
  | addressToRegister (target : Register) (address : Datum)
  | addressToMemory (target : Nat) (address : Datum)
  | arithmetic (operator type targetKind target : String) (operand1 operand2 : Datum) (result : String)
  deriving Repr

/-- What a line of the trace tells. -/
inductive Event where
  /-- The size of the memory, in units of 1024 cells. -/
  | memorySize (kilobytes : Nat)
  /-- The contents of the memory from address zero. -/
  | memoryDump (bytes : List UInt8)
  /-- A snapshot of the whole state is ready to be read. -/
  | snapshotReady
  | fetched (fetch : Fetch)
  | decoded (name : String)
  | executed (operation : Operation)
  | globalFound (global : Global)
  deriving Repr

end TracePlayer
