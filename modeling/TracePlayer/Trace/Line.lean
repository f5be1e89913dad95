import TracePlayer.Json.Record
import TracePlayer.Machine.Bytes
import TracePlayer.Trace.Event
import TracePlayer.Trace.Field

/-!
# Trace lines

A line is a tag and its fields. `decodeLine` reads one: the event it tells, `none` when its tag or operation is not one of
those known here, or the fault that makes it unusable. The fields are read in order, so the first field at fault decides;
fields beyond those wanted are not looked at.
-/

namespace TracePlayer

/-- What makes a trace line unusable. -/
inductive LineFault where
  | emptyLine
  | missingField (tag field : String)
  | notInteger (tag field value : String)
  | notJson (tag field value : String) (fault : Json.Fault)
  | notByte (offset : Nat) (value : String)
  | unknownRegister (name : String)
  | notConfig (fault : Json.Fault)
  | memoryTooLarge (kilobytes : Nat)
  deriving DecidableEq, Repr

/-- The message of a fault, given the wording for what is wrong with a JSON text. -/
def LineFault.message (wording : Json.Fault → String) : LineFault → String
  | emptyLine => "empty trace line"
  | missingField tag field => s!"'{tag}' line is missing field '{field}'"
  | notInteger tag field value => s!"'{tag}' field '{field}' is not an integer: '{value}'"
  | notJson tag field value fault => s!"'{tag}' field '{field}' is not valid JSON ({wording fault}): '{value}'"
  | notByte offset value => s!"memory value {value} at offset {offset} does not fit in a byte"
  | unknownRegister name => s!"unknown register '{name}'"
  | notConfig fault => s!"invalid config payload: {wording fault}"
  | memoryTooLarge kilobytes =>
    s!"invalid config payload: memorykb {kilobytes} exceeds the {Machine.greatestKilobytes} KB limit"

namespace Trace

/-- Readers of the fields of one line: they take fields off the front of those left. -/
abbrev FieldReader := StateT (List (List Char)) (Except LineFault)

/-- The next field, which a line with this tag calls by this name. -/
def nextField (tag name : String) : FieldReader (List Char) := do
  match ← get with
  | [] => throw (.missingField tag name)
  | field :: rest =>
    set rest
    return field

/-- The next field as it is written. -/
def textField (tag name : String) : FieldReader String :=
  return String.ofList (← nextField tag name)

/-- The next field as a natural number of at most 64 bits. -/
def wordField (tag name : String) : FieldReader Nat := do
  let field ← nextField tag name
  match Text.readNatural wordBound field with
  | some n => return n
  | none => throw (.notInteger tag name (String.ofList field))

/-- The next field as a JSON value. -/
def jsonField (tag name : String) : FieldReader Datum := do
  let field ← nextField tag name
  match Json.parse field with
  | .ok v => return ⟨v⟩
  | .error fault => throw (.notJson tag name (String.ofList field) fault)

/-- The next field as the name of a register. -/
def registerField (tag name : String) : FieldReader Register := do
  let field := String.ofList (← nextField tag name)
  match Register.ofName? field with
  | some r => return r
  | none => throw (.unknownRegister field)

/-- Reads an operation from the fields of its line; `none` when its name is not known here. -/
def readOperation (name : String) : FieldReader (Option Operation) := do
  match name with
  | "cmp" =>
    return some (.compare (← textField name "arg1") (← textField name "arg2") (← textField name "result"))
  | "jmp" =>
    return some (.jump (← textField name "type") (← textField name "address")
      ((← textField name "performed") == "true"))
  | "mov_reg" =>
    return some (.moveToRegister (← registerField name "regname") (← wordField name "size")
      (← textField name "srctype") (← jsonField name "srcdata") (← jsonField name "srccontent"))
  | "mov_mem" =>
    return some (.moveToMemory (← wordField name "destaddr") (← wordField name "size")
      (← textField name "srctype") (← jsonField name "srcdata") (← jsonField name "srccontent"))
  | "lea_reg" =>
    return some (.addressToRegister (← registerField name "regname") (← jsonField name "addr"))
  | "lea_mem" =>
    return some (.addressToMemory (← wordField name "destaddr") (← jsonField name "addr"))
  | "arithmetic" =>
    return some (.arithmetic (← textField name "opname") (← textField name "type") (← textField name "desttype")
      (← textField name "dest") (← jsonField name "op1") (← jsonField name "op2") (← textField name "res"))
  | _ => return none

/-- Reads the fetch of an instruction from the fields of its line. -/
def readFetch : FieldReader Fetch :=
  return ⟨← wordField "fetch" "pc", ← textField "fetch" "opcode", ← textField "fetch" "opbyte",
    ← jsonField "fetch" "operand1", ← jsonField "fetch" "operand2"⟩

/-- The bytes of a memory dump, given the offset of the first. -/
def readDump (offset : Nat) : List (List Char) → Except LineFault (List UInt8)
  | [] => return []
  | word :: rest =>
    match Text.readNatural 256 word with
    | some n => return UInt8.ofNat n :: (← readDump (offset + 1) rest)
    | none => throw (.notByte offset (String.ofList word))

/-- The fields of a configuration, as far as they have been read. -/
def configSlots : List (Json.Slot (Option Nat)) :=
  [⟨"memorykb", Option.isSome, fun _ s => (Json.readBelow wordBound s).map (fun r => (some r.1, r.2))⟩]

/-- Reads the memory size from a configuration record. -/
def readConfig (s : List Char) : Except LineFault Nat :=
  match Json.readAll (fun rounds => Json.readRecord rounds Json.nestingLimit configSlots none id) s with
  | .error fault => .error (.notConfig fault)
  | .ok kilobytes =>
    if kilobytes ≤ Machine.greatestKilobytes then .ok kilobytes else .error (.memoryTooLarge kilobytes)

/-- Reads a list of a name, a type and an initial value. -/
def readGlobalFields (rounds : Nat) (s : List Char) : Json.Reading Global :=
  let slots : List (Json.Slot (String × String × Json)) :=
    [⟨"name", fun _ => false, fun d s => (Json.readText s).map (fun r => ((r.1, d.2), r.2))⟩,
      ⟨"type", fun _ => false, fun d s => (Json.readText s).map (fun r => ((d.1, r.1, d.2.2), r.2))⟩,
      ⟨"initial", fun _ => false, fun d s =>
        (Json.readValue rounds (Json.nestingLimit - 1) s).map (fun r => ((d.1, d.2.1, r.1), r.2))⟩]
  match Json.skipGap s with
  | '[' :: rest =>
    (Json.readInOrder slots true ("", "", Json.null) rest).map (fun r => (⟨r.1.1, r.1.2.1, ⟨r.1.2.2⟩⟩, r.2))
  | _ => Json.refuse s

/-- Reads a global variable from the rest of its line. -/
def readGlobal (s : List Char) : Except LineFault Global :=
  match Json.readAll readGlobalFields s with
  | .ok g => .ok g
  | .error fault => .error (.notJson "found_global" "global" (String.ofList s) fault)

/-- Reads the rest of a line that tells an operation. -/
def decodeOperation (s : List Char) : Except LineFault (Option Event) := do
  let (name, args) := Text.cutAtBlank s
  if name.isEmpty then throw (.missingField "exec_func" "funcname")
  let (operation, _) ← (readOperation (String.ofList name)).run (splitFields (Text.trim args))
  return operation.map .executed

/-- Reads a line whose tag has been cut off. -/
def decodeTagged (tag : String) (s : List Char) : Except LineFault (Option Event) :=
  match tag with
  | "config" => return some (.memorySize (← readConfig s))
  | "mem" => return some (.memoryDump (← readDump 0 (Text.words s)))
  | "data" => return some .snapshotReady
  | "fetch" => return some (.fetched (← readFetch.run (splitFields s)).1)
  | "decode" => return some (.decoded (← (textField "decode" "name").run (splitFields s)).1)
  | "exec_func" => decodeOperation s
  | "found_global" => return some (.globalFound (← readGlobal s))
  | _ => return none

/-- Reads a line: its event, or `none` when nothing here knows its tag or operation. -/
def decodeLine (line : List Char) : Except LineFault (Option Event) := do
  let line := Text.trim line
  if line.isEmpty then throw .emptyLine
  let (tag, rest) := Text.cutAtBlank line
  decodeTagged (String.ofList tag) (Text.trim rest)

end Trace

end TracePlayer
