import TracePlayer.Text.Numeral

/-!
# The command line

The words of a command line are read from left to right. An option takes a value, either after an equals sign in the same
word or as the next word, and the one word that belongs to no option names the bytecode file. A value that is not attached
is judged only when the next option or the next free word is reached, so a fault in the meantime is reported in its place.
After the word `--` every word is free.
-/

namespace TracePlayer

/-- The options that take a value. -/
inductive Setting where
  | properties
  | interpreter
  | envFile
  | tickMs
  | debugLevel
  | logFile
  | logLevel
  deriving DecidableEq, Repr

namespace Setting

/-- The options that take a value, in the order in which they are described. -/
def all : List Setting := [.properties, .interpreter, .envFile, .tickMs, .debugLevel, .logFile, .logLevel]

theorem mem_all (s : Setting) : s ∈ all := by cases s <;> decide

/-- The name of an option, without the dashes in front of it. -/
def name : Setting → String
  | properties => "properties"
  | interpreter => "interpreter"
  | envFile => "env-file"
  | tickMs => "tick-ms"
  | debugLevel => "debug-level"
  | logFile => "log-file"
  | logLevel => "log-level"

/-- The option of that name. -/
def ofName? (s : List Char) : Option Setting := all.find? (fun o => o.name.toList == s)

end Setting

/-- A command line that has been read. -/
structure CommandLine where
  bytecode : String
  properties : Option String
  interpreter : Option String
  envFile : Option String
  tickMs : Option Nat
  debugLevel : Option Nat
  logFile : Option String
  logLevel : Option String
  deriving DecidableEq, Repr

namespace CommandLine

/-- Why a command line is not run: it asks for help or for the version, or it is not one. -/
inductive Refusal where
  | helpAsked
  | versionAsked
  /-- A word that is neither an option nor the one free word. -/
  | unknownWord (word : String)
  /-- An option without a value, or an empty value where a file is named. -/
  | noValue (what : String)
  /-- A value that is not a number, or not one in range. -/
  | badValue (option : Setting) (value : String)
  /-- An option given a second time. -/
  | givenTwice (option : Setting)
  /-- A value for an option that takes none. -/
  | needlessValue (word : String)
  /-- No bytecode file is named. -/
  | noBytecode
  deriving DecidableEq, Repr

/-- The settled part of a command line. -/
structure Draft where
  bytecode : Option String
  properties : Option String
  interpreter : Option String
  envFile : Option String
  tickMs : Option Nat
  debugLevel : Option Nat
  logFile : Option String
  logLevel : Option String
  deriving DecidableEq, Repr

/-- Nothing has been settled. -/
def Draft.empty : Draft := ⟨none, none, none, none, none, none, none, none⟩

/-- Whether an option has been settled. -/
def Draft.has (d : Draft) : Setting → Bool
  | .properties => d.properties.isSome
  | .interpreter => d.interpreter.isSome
  | .envFile => d.envFile.isSome
  | .tickMs => d.tickMs.isSome
  | .debugLevel => d.debugLevel.isSome
  | .logFile => d.logFile.isSome
  | .logLevel => d.logLevel.isSome

/-- The name of a file, which is not empty. -/
def fileName (what value : String) : Except Refusal String :=
  if value.isEmpty then .error (.noValue what) else .ok value

/-- A number that a value has to be. -/
def numberOf (option : Setting) (value : String) (number : Option Nat) : Except Refusal Nat :=
  match number with
  | some n => .ok n
  | none => .error (.badValue option value)

/-- A debug level, from 0 to 255. It is read as a signed number, so zero may have either sign. -/
def debugLevel? (value : String) : Option Nat :=
  match Text.readSigned64 value.toList with
  | some n => if 0 ≤ n ∧ n < 256 then some n.toNat else none
  | none => none

/-- Settles an option; none may be given twice. -/
def Draft.settle (d : Draft) (option : Setting) (value : String) : Except Refusal Draft :=
  if d.has option then .error (.givenTwice option)
  else
    match option with
    | .properties => (fileName option.name value).map (fun v => { d with properties := some v })
    | .interpreter => (fileName option.name value).map (fun v => { d with interpreter := some v })
    | .envFile => (fileName option.name value).map (fun v => { d with envFile := some v })
    | .tickMs =>
      (numberOf option value (Text.readNatural wordBound value.toList)).map (fun n => { d with tickMs := some n })
    | .debugLevel => (numberOf option value (debugLevel? value)).map (fun n => { d with debugLevel := some n })
    | .logFile => (fileName option.name value).map (fun v => { d with logFile := some v })
    | .logLevel => .ok { d with logLevel := some value }

/-- What has been read and not been settled yet. -/
inductive Pending where
  | nothing
  | option (option : Setting) (value : Option String)
  | bytecode (value : String)
  deriving DecidableEq, Repr

/-- Where the reading of a command line stands. -/
structure Scan where
  draft : Draft
  pending : Pending
  /-- Whether the word `--` has been read. -/
  free : Bool
  deriving DecidableEq, Repr

namespace Scan

/-- Nothing has been read. -/
def start : Scan := ⟨.empty, .nothing, false⟩

/-- The draft with what is pending settled. -/
def settled (s : Scan) : Except Refusal Draft :=
  match s.pending with
  | .nothing => .ok s.draft
  | .option option none => .error (.noValue option.name)
  | .option option (some value) => s.draft.settle option value
  | .bytecode value => (fileName "bytecode" value).map (fun v => { s.draft with bytecode := some v })

/-- Settles what is pending and then waits for something else. -/
def turnTo (s : Scan) (pending : Pending) : Except Refusal Scan :=
  s.settled.map (fun draft => { s with draft := draft, pending := pending })

/-- Settles what is pending and then stops. -/
def stopWith (s : Scan) (refusal : Refusal) : Except Refusal Scan :=
  s.settled.bind (fun _ => .error refusal)

/-- Whether the bytecode file has been named. -/
def hasBytecode (s : Scan) : Bool :=
  match s.pending with
  | .bytecode _ => true
  | _ => s.draft.bytecode.isSome

/-- Takes in a word that starts with no dash, or a dash alone, or any word behind `--`. -/
def takeFree (s : Scan) (word : String) : Except Refusal Scan :=
  match s.free, s.pending with
  | false, .option option none => .ok { s with pending := .option option (some word) }
  | _, _ => if s.hasBytecode then .error (.unknownWord word) else s.turnTo (.bytecode word)

/-- Takes in a word that starts with two dashes, given the name and the value that is attached to it. -/
def takeLong (s : Scan) (word : String) (name : List Char) (value : Option String) : Except Refusal Scan :=
  match Setting.ofName? name, value with
  | some option, none => s.turnTo (.option option none)
  | some option, some value => s.settled.bind (fun draft =>
      (draft.settle option value).map (fun draft => { s with draft := draft, pending := .nothing }))
  | none, none =>
    if name = "help".toList then s.stopWith .helpAsked
    else if name = "version".toList then s.stopWith .versionAsked
    else .error (.unknownWord word)
  | none, some _ =>
    if name = "help".toList ∨ name = "version".toList then .error (.needlessValue word)
    else .error (.unknownWord word)

/-- The name in a word behind its two dashes, and the value that an equals sign attaches to it. -/
def cutAtEquals (body : List Char) : List Char × Option String :=
  let rest := body.dropWhile (· != '=')
  (body.takeWhile (· != '='), if rest.isEmpty then none else some (String.ofList rest.tail))

/-- Takes in a word. -/
def take (s : Scan) (word : String) : Except Refusal Scan :=
  if s.free then s.takeFree word
  else
    match word.toList with
    | ['-', '-'] => .ok { s with free := true }
    | '-' :: '-' :: body => s.takeLong word (cutAtEquals body).1 (cutAtEquals body).2
    | '-' :: 'h' :: _ => s.stopWith .helpAsked
    | '-' :: 'V' :: _ => s.stopWith .versionAsked
    | '-' :: _ :: _ => .error (.unknownWord word)
    | _ => s.takeFree word

end Scan

/-- The command line, when a bytecode file has been named. -/
def Draft.complete (d : Draft) : Except Refusal CommandLine :=
  match d.bytecode with
  | some bytecode => .ok ⟨bytecode, d.properties, d.interpreter, d.envFile, d.tickMs, d.debugLevel, d.logFile, d.logLevel⟩
  | none => .error .noBytecode

/-- Reads the words of a command line, the name of the program not among them. -/
def parse (words : List String) : Except Refusal CommandLine :=
  ((words.foldlM Scan.take Scan.start).bind Scan.settled).bind Draft.complete

end CommandLine

end TracePlayer
