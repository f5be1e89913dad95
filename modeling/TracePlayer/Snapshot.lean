import TracePlayer.Display.Stage
import TracePlayer.Host.Folder
import TracePlayer.Json.Record

/-!
# Snapshots

The interpreter can write its whole state to a file. `Snapshot.parse` reads such a text, `Snapshot.fetch` the file, and
`Stage.present` puts the state on the stage.
-/

namespace TracePlayer

/-- The values of the general registers. -/
structure GeneralValues where
  eax : Int
  ebx : Int
  ecx : Int
  edx : Int
  esi : Int
  edi : Int
  ebp : Int
  esp : Int
  deriving DecidableEq, Repr

/-- The value of a general register; the registers of the fetch cycle have none. -/
def GeneralValues.get? (v : GeneralValues) : Register → Option Int
  | .eax => some v.eax
  | .ebx => some v.ebx
  | .ecx => some v.ecx
  | .edx => some v.edx
  | .esi => some v.esi
  | .edi => some v.edi
  | .ebp => some v.ebp
  | .esp => some v.esp
  | _ => none

/-- The values of the comparison flags. -/
structure FlagValues where
  greater : Int
  equal : Int
  less : Int
  deriving DecidableEq, Repr

/-- The value of a flag. -/
def FlagValues.get (v : FlagValues) : Flag → Int
  | .equal => v.equal
  | .less => v.less
  | .greater => v.greater

/-- The whole state of the interpreter. -/
structure Snapshot where
  pc : Int
  general : GeneralValues
  flags : FlagValues
  memory : List UInt8
  deriving DecidableEq, Repr

namespace Snapshot

/-- What keeps a snapshot from being fetched. -/
inductive Fault where
  | unreadable (path : String) (fault : Host.Fault)
  | unparsable (path : String) (fault : Json.Fault)
  deriving DecidableEq, Repr

/-- The message of a fault, given the wording for what is wrong with a JSON text. -/
def Fault.message (wording : Json.Fault → String) : Fault → String
  | unreadable path fault => s!"failed to read environment '{path}': {fault.message}"
  | unparsable path fault => s!"invalid environment snapshot in '{path}': {wording fault}"

/-- A slot for one of the integers of a record, by its place in the draft. -/
def integerSlot (n : Nat) (key : String) (i : Fin n) : Json.Slot (Vector (Option Int) n) where
  key := key
  filled := fun draft => draft[i].isSome
  fill := fun draft s => (Json.readSigned64 s).map (fun r => (draft.set i (some r.1), r.2))

/-- The fields of the general registers. -/
def generalSlots : List (Json.Slot (Vector (Option Int) 8)) :=
  [integerSlot 8 "eax" 0, integerSlot 8 "ebx" 1, integerSlot 8 "ecx" 2, integerSlot 8 "edx" 3,
    integerSlot 8 "esi" 4, integerSlot 8 "edi" 5, integerSlot 8 "ebp" 6, integerSlot 8 "esp" 7]

/-- The general registers, when every one has been read. -/
def completeGeneral (draft : Vector (Option Int) 8) : Option GeneralValues :=
  return ⟨← draft[0], ← draft[1], ← draft[2], ← draft[3], ← draft[4], ← draft[5], ← draft[6], ← draft[7]⟩

/-- The fields of the comparison flags. -/
def flagSlots : List (Json.Slot (Vector (Option Int) 3)) :=
  [integerSlot 3 "p" 0, integerSlot 3 "e" 1, integerSlot 3 "n" 2]

/-- The comparison flags, when every one has been read. -/
def completeFlags (draft : Vector (Option Int) 3) : Option FlagValues :=
  return ⟨← draft[0], ← draft[1], ← draft[2]⟩

/-- A snapshot that is being read. -/
structure Draft where
  pc : Option Int
  general : Option GeneralValues
  flags : Option FlagValues
  memory : Option (List UInt8)

/-- The snapshot, when every field has been read. -/
def Draft.complete (d : Draft) : Option Snapshot :=
  return ⟨← d.pc, ← d.general, ← d.flags, ← d.memory⟩

/-- Reads a byte. -/
def readByte (s : List Char) : Json.Reading UInt8 :=
  (Json.readBelow 256 s).map (fun r => (UInt8.ofNat r.1, r.2))

/-- The fields of a snapshot; the records inside it may hold as many levels as `depth` says. -/
def slots (rounds depth : Nat) : List (Json.Slot Draft) :=
  [⟨"pc", fun d => d.pc.isSome, fun d s => (Json.readSigned64 s).map (fun r => ({ d with pc := some r.1 }, r.2))⟩,
    ⟨"genregs", fun d => d.general.isSome, fun d s =>
      (Json.readRecord rounds depth generalSlots (Vector.replicate 8 none) completeGeneral s).map
        (fun r => ({ d with general := some r.1 }, r.2))⟩,
    ⟨"cmp", fun d => d.flags.isSome, fun d s =>
      (Json.readRecord rounds depth flagSlots (Vector.replicate 3 none) completeFlags s).map
        (fun r => ({ d with flags := some r.1 }, r.2))⟩,
    ⟨"memory", fun d => d.memory.isSome, fun d s =>
      (Json.readListOf rounds depth readByte s).map (fun r => ({ d with memory := some r.1 }, r.2))⟩]

/-- Reads the text of a snapshot. -/
def parse (text : String) : Except Json.Fault Snapshot :=
  Json.readAll
    (fun rounds => Json.readRecord rounds Json.nestingLimit (slots rounds (Json.nestingLimit - 1))
      ⟨none, none, none, none⟩ Draft.complete)
    text.toList

/-- Reads a snapshot from a file. -/
def fetch (folder : Host.Folder) (path : String) : Except Fault Snapshot :=
  match folder.readText path with
  | .error fault => .error (.unreadable path fault)
  | .ok text =>
    match parse text with
    | .ok snapshot => .ok snapshot
    | .error fault => .error (.unparsable path fault)

end Snapshot

/-- Puts a snapshot on the stage: the program counter, the general registers, the flags, and the memory as far as the grid
reaches. -/
def Stage.present (s : Stage) (snapshot : Snapshot) : Stage :=
  let s := s.setText (.register .pc) (toString snapshot.pc)
  let s := Register.general.foldl
    (fun s r => match snapshot.general.get? r with
      | some value => s.setText (.register r) (toString value)
      | none => s) s
  let s := Flag.all.foldl (fun s f => s.setText (.flag f) (toString (snapshot.flags.get f))) s
  s.load snapshot.memory

end TracePlayer
