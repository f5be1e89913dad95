/-!
# Registers and comparison flags

The named parts of the machine: four registers of the fetch cycle, eight general registers, and three flags of which a
comparison raises one.
-/

namespace TracePlayer

/-- A register of the machine. -/
inductive Register where
  | pc
  | mar
  | mdr
  | cir
  | eax
  | ebx
  | ecx
  | edx
  | esi
  | edi
  | ebp
  | esp
  deriving DecidableEq, Repr

namespace Register

/-- The registers of the fetch cycle. -/
def control : List Register := [.pc, .mar, .mdr, .cir]

/-- The registers that programs compute with. -/
def general : List Register := [.eax, .ebx, .ecx, .edx, .esi, .edi, .ebp, .esp]

/-- All registers, in the order in which they are shown. -/
def all : List Register := control ++ general

theorem mem_all (r : Register) : r ∈ all := by cases r <;> decide

/-- The name that is shown. -/
def name : Register → String
  | pc => "PC"
  | mar => "MAR"
  | mdr => "MDR"
  | cir => "CIR"
  | eax => "eax"
  | ebx => "ebx"
  | ecx => "ecx"
  | edx => "edx"
  | esi => "esi"
  | edi => "edi"
  | ebp => "ebp"
  | esp => "esp"

/-- The register of that name; ASCII letters match in either case. -/
def ofName? (s : String) : Option Register :=
  all.find? (fun r => r.name.toList.map Char.toLower == s.toList.map Char.toLower)

end Register

/-- A comparison flag. -/
inductive Flag where
  | equal
  | less
  | greater
  deriving DecidableEq, Repr

namespace Flag

/-- All flags, in the order in which they are shown. -/
def all : List Flag := [.equal, .less, .greater]

theorem mem_all (f : Flag) : f ∈ all := by cases f <;> decide

/-- The letter that stands for the flag in a trace. -/
def code : Flag → String
  | equal => "e"
  | less => "n"
  | greater => "p"

/-- The flag with that letter. -/
def ofCode? (s : String) : Option Flag := all.find? (fun f => f.code == s)

/-- The flag in words. -/
def label : Flag → String
  | equal => "equal"
  | less => "less than"
  | greater => "greater than"

end Flag

end TracePlayer
