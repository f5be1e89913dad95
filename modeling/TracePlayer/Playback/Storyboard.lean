import TracePlayer.Playback.Step
import TracePlayer.Trace.Event

/-!
# The storyboard of an event

`Event.storyboard` expands an event into the steps that show it, all of them or none: an operation of an unknown kind, data
of the wrong form, or a transfer that is too long or passes the end of the address space is a fault. States to load have no
steps.
-/

namespace TracePlayer

/-- What keeps an event from being shown. -/
inductive StoryFault where
  | unknown (category name : String)
  | unusable (what value : String)
  deriving DecidableEq, Repr

/-- The message of a fault. -/
def StoryFault.message : StoryFault → String
  | unknown category name => s!"unknown {category} '{name}'"
  | unusable what value => s!"{what} is not usable here: '{value}'"

namespace Storyboard

/-- Refuses a transfer of more than `Machine.greatestTransfer` bytes and one whose end is no address. -/
def checkTransfer (address size : Nat) (what : String) : Except StoryFault Unit :=
  if size ≤ Machine.greatestTransfer ∧ address + size < wordBound then .ok ()
  else .error (.unusable what s!"{size} bytes at {address}")

/-- The register that a datum names. -/
def sourceRegister (source : Datum) : Except StoryFault Register :=
  match Register.ofName? source.text with
  | some r => .ok r
  | none => .error (.unknown "register" source.text)

/-- The integer that a datum holds. -/
def integerOf (d : Datum) (what : String) : Except StoryFault Int :=
  match d.integer? with
  | some n => .ok n
  | none => .error (.unusable what d.text)

/-- The address that a datum holds: an integer that is not negative. -/
def addressOf (d : Datum) (what : String) : Except StoryFault Nat :=
  match d.integer? with
  | some n => if 0 ≤ n then .ok n.toNat else .error (.unusable what d.text)
  | none => .error (.unusable what d.text)

/-- The contents of a register as bytes: a list of bytes as it is given, an integer in `size` bytes. -/
def contentBytes (content : Datum) (size : Nat) : Except StoryFault (List UInt8) :=
  match content.bytes? with
  | some bytes => .ok bytes
  | none =>
    match content.integer? with
    | some n => .ok (Machine.integerBytes n size)
    | none => .error (.unusable "register contents" content.text)

/-- When a jump of this kind is taken, in words that follow "Jump". -/
def jumpCondition? : String → Option String
  | "always" => some ""
  | "e" => some " if equal"
  | "ne" => some " if not equal"
  | "lt" => some " if less than"
  | "le" => some " if less than or equal to"
  | "gt" => some " if greater than"
  | "ge" => some " if greater than or equal to"
  | _ => none

/-- The fetch cycle: the program counter to the address register, the instruction to the data register, and from there to the
instruction register. -/
def ofFetch (f : Fetch) : Except StoryFault (List Step) := do
  checkTransfer f.pc f.length "instruction"
  return [
    .notify "Incrementing PC",
    .set .pc (toString f.pc),
    .notify "Moving PC to MAR",
    .move .pc .mar (some (toString f.pc)),
    .notify "Reading memory",
    .read f.pc f.length,
    .notify "Moving MAR to CIR",
    .move .mdr .cir none]

/-- A comparison raises the flag of its result. -/
def ofCompare (left right result : String) : Except StoryFault (List Step) :=
  match Flag.ofCode? result with
  | some flag => .ok [.notify s!"Comparing {left} to {right}: {flag.label}", .raise flag]
  | none => .error (.unknown "comparison result" result)

/-- A jump that is performed sets the program counter. -/
def ofJump (kind address : String) (performed : Bool) : Except StoryFault (List Step) :=
  match jumpCondition? kind with
  | none => .error (.unknown "jump type" kind)
  | some condition =>
    if performed then .ok [.set .pc address, .notify s!"Jump{condition} to {address} - done"]
    else .ok [.notify s!"Jump{condition} to {address} - not done"]

/-- Steps shown while a register is held in bold. -/
def holding (r : Register) (steps : List Step) : List Step :=
  .emphasize r true :: (steps ++ [.emphasize r false])

/-- A move into a register, from another register, from memory or of an immediate value. -/
def ofMoveToRegister (target : Register) (size : Nat) (sourceKind : String) (source content : Datum) :
    Except StoryFault (List Step) :=
  match sourceKind with
  | "reg" => do
    let r ← sourceRegister source
    return .notify s!"Reading register {r.name}" :: holding r [.set target content.text]
  | "maddr" => do
    let address ← addressOf source "source address"
    checkTransfer address size "memory read"
    return .notify s!"Reading from memory address {address}" :: .set .mar (toString address) :: .read address size ::
      holding .mdr [.set target content.text]
  | "immediate" => .ok [.notify s!"Given immediate value {source.text}", .set target content.text]
  | _ => .error (.unknown "move source type" sourceKind)

/-- A move into memory, from a register or of an immediate value. -/
def ofMoveToMemory (target size : Nat) (sourceKind : String) (source content : Datum) :
    Except StoryFault (List Step) :=
  match sourceKind with
  | "reg" => do
    let r ← sourceRegister source
    checkTransfer target size "memory write"
    let bytes ← contentBytes content size
    checkTransfer target bytes.length "memory write"
    return .notify s!"Reading register {r.name}" :: holding r [.write target bytes]
  | "immediate" => do
    let value ← integerOf source "immediate value"
    checkTransfer target size "memory write"
    return [.notify s!"Given immediate value {value}", .write target (Machine.integerBytes value size)]
  | _ => .error (.unknown "move source type" sourceKind)

/-- An effective address loaded into memory. -/
def ofAddressToMemory (target : Nat) (address : Datum) : Except StoryFault (List Step) := do
  let value ← integerOf address "effective address"
  checkTransfer target Machine.addressWidth "memory write"
  return [.notify s!"Load effective address {value} to {target}",
    .write target (Machine.integerBytes value Machine.addressWidth)]

/-- The steps of an operation. Arithmetic has none: the snapshot that follows it shows its result. -/
def ofOperation : Operation → Except StoryFault (List Step)
  | .compare left right result => ofCompare left right result
  | .jump kind address performed => ofJump kind address performed
  | .moveToRegister target size sourceKind source content => ofMoveToRegister target size sourceKind source content
  | .moveToMemory target size sourceKind source content => ofMoveToMemory target size sourceKind source content
  | .addressToRegister target address =>
    .ok [.notify s!"Load effective address {address.text} to {target.name}", .set target address.text]
  | .addressToMemory target address => ofAddressToMemory target address
  | .arithmetic .. => .ok []

end Storyboard

/-- The steps that show an event. -/
def Event.storyboard : Event → Except StoryFault (List Step)
  | .fetched f => Storyboard.ofFetch f
  | .decoded name => .ok [.notify s!"Decoded as {name}"]
  | .executed operation => Storyboard.ofOperation operation
  | .globalFound g =>
    .ok [.notify s!"Found global variable {g.name} of type {g.type}, initial {g.initial.text}"]
  | .memorySize _ => .ok []
  | .memoryDump _ => .ok []
  | .snapshotReady => .ok []

end TracePlayer
