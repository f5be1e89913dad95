import TracePlayer.Host.Shell.Syntax
import TracePlayer.Host.Signal
import TracePlayer.Host.World

/-!
# The state of a shell

The parameters of a shell, its functions, traps and options, its descriptors, and the world that it shares with other processes. An
`Act` changes the state and goes on, or escapes from what is being run.
-/

namespace TracePlayer.Host.Shell

/-- A parameter with a name. -/
structure Variable where
  value : Option Octets
  exported : Bool
  fixed : Bool
  deriving DecidableEq, Repr

/-- What is behind an escape. -/
inductive Escape where
  /-- The shell ends, with this status or else the one that it has. -/
  | exited (status : Option Nat)
  /-- The shell ends because of a fault that has been reported, unless a built-in command caught it. -/
  | faulted
  | signalled (signal : Nat)
  /-- So many loops are left. -/
  | broken (loops : Nat)
  /-- One loop less is left, and that one goes on. -/
  | continued (loops : Nat)
  | returned
  deriving DecidableEq, Repr

/-- What a shell knows, apart from other processes. -/
structure Memory where
  parameters : List (Octets × Variable)
  /-- The name of the script. -/
  name : Octets
  arguments : List Octets
  functions : List (Octets × Script)
  /-- What is run on a signal; zero stands for the end of the shell. -/
  traps : List (Nat × Octets)
  options : List Char
  status : Nat
  descriptors : Descriptors
  /-- The documents of the script, by their numbers. -/
  documents : List (Nat × Word)
  line : Nat
  /-- The running built-in command. -/
  command : Option Octets
  /-- The number of the shell, which those that it starts for its scripts share. -/
  shell : Nat
  process : Nat
  /-- The last process that was not waited for. -/
  background : Option Nat
  /-- How processes ended that were not waited for. -/
  ended : List (Nat × Nat)
  /-- How many loops run. -/
  loops : Nat
  /-- How many functions run. -/
  depth : Nat
  /-- What parameters were before they were given a value for a while, the innermost first. -/
  hidden : List (List (Octets × Option Variable))
  /-- The status of the last script whose output was asked for by the running command. -/
  captured : Option Nat
  /-- The place of the next option among the letters of an argument, while there are more of them. -/
  optionPlace : Option Nat
  umask : Nat

/-- A script that runs when the shell has time for it. -/
structure Job where
  process : Nat
  script : Script
  memory : Memory
  working : Place
  /-- Whether another shell started it, which has ended. -/
  orphaned : Bool

/-- The state of a shell. -/
structure State extends Memory where
  world : World
  /-- The scripts that have not been run yet. -/
  jobs : List Job

/-- The options by their names and letters. -/
def optionNames : List (String × Option Char) :=
  [("errexit", some 'e'), ("noglob", some 'f'), ("ignoreeof", some 'I'), ("interactive", some 'i'), ("monitor", some 'm'),
    ("noexec", some 'n'), ("stdin", some 's'), ("xtrace", some 'x'), ("verbose", some 'v'), ("vi", some 'V'),
    ("emacs", some 'E'), ("noclobber", some 'C'), ("allexport", some 'a'), ("notify", some 'b'), ("nounset", some 'u'),
    ("privileged", some 'p'), ("nolog", none), ("debug", none)]

/-- The letters of the options, in the order in which they are shown. -/
def optionLetters : List Char := (optionNames.filterMap Prod.snd).reverse

/-- What a shell does. -/
abbrev Act := ExceptT Escape (StateM State)

/-- The parameters of a new shell, and whether the programs that it starts know them. -/
def firstVariables (process : Nat) : List (Octets × Variable) :=
  [("PATH", "/usr/local/sbin:/usr/local/bin:/usr/sbin:/usr/bin:/sbin:/bin", true), ("HOME", "/root", true), ("IFS", " \t\n", false),
    ("OPTIND", "1", false), ("PS1", "# ", false), ("PS2", "> ", false), ("PS4", "+ ", false),
    ("PPID", toString (process - 1), false)].map fun v => (v.1.toList, ⟨some v.2.1.toList, v.2.2, false⟩)

/-- A new shell, whose script has a name and arguments. -/
def State.initial (world : World) (descriptors : Descriptors) (process : Nat) (name : Octets) (arguments : List Octets) : State where
  parameters := firstVariables process ++
    [("PWD".toList, ⟨some ('/' :: ['/'].intercalate world.tree.working.reverse), true, false⟩)]
  name := name
  arguments := arguments
  functions := []
  traps := []
  options := []
  status := 0
  descriptors := descriptors
  documents := []
  line := 1
  command := none
  shell := process
  process := process
  background := none
  ended := []
  loops := 0
  depth := 0
  hidden := []
  captured := none
  optionPlace := none
  umask := 18
  world := world
  jobs := []

namespace State

/-- A parameter with a name. -/
def binding? (s : State) (name : Octets) : Option Variable := (s.parameters.find? (fun v => v.1 == name)).map Prod.snd

/-- Puts a parameter in the place of the one with its name. -/
def put (s : State) (name : Octets) (v : Option Variable) : State :=
  let others := s.parameters.filter (fun w => w.1 != name)
  { s with parameters := match v with
      | some v => (name, v) :: others
      | none => others }

/-- The value of a parameter, unless it has none. -/
def value? (s : State) (name : Octets) : Option Octets :=
  match name with
  | ['?'] => some (toString s.status).toList
  | ['#'] => some (toString s.arguments.length).toList
  | ['$'] => some (toString s.shell).toList
  | ['!'] => s.background.map (fun n => (toString n).toList)
  | ['-'] => some (optionLetters.filter s.options.contains)
  | ['0'] => some s.name
  | _ =>
    if name.all Char.isDigit then
      match (String.ofList name).toNat? with
      | some 0 => some s.name
      | some (n + 1) => s.arguments[n]?
      | none => none
    else (s.binding? name).bind Variable.value

/-- The characters that fields end at. -/
def separators (s : State) : Octets := (s.value? "IFS".toList).getD " \t\n".toList

/-- Whether an option is on. -/
def has (s : State) (option : Char) : Bool := s.options.contains option

/-- What stands in front of a message. -/
def heading (s : State) : Octets :=
  s.name ++ s!": {s.line}: ".toList ++ (match s.command with
    | some command => command ++ ": ".toList
    | none => [])

end State

namespace Act

/-- Writes to a descriptor. -/
def print (descriptor : Nat) (text : Octets) : Act (Except Fault Unit) := do
  let s ← get
  match (s.descriptors.get? descriptor).elim (.error .badDescriptor) (fun f => s.world.write f text) with
  | .ok world =>
    set { s with world := world }
    return .ok ()
  | .error fault => return .error fault

/-- Reports what went wrong. -/
def report (message : Octets) : Act Unit := do
  let _ ← print 2 ((← get).heading ++ message ++ ['\n'])

/-- The status of the last command. -/
def finish (status : Nat) : Act Unit := modify fun s => { s with status := status }

/-- The status of what went wrong in the shell itself. -/
def faultStatus : Nat := 2

/-- Reports what went wrong, and escapes. -/
def fail {α : Type} (message : Octets) : Act α := do
  report message
  finish faultStatus
  throw .faulted

/-- Gives a parameter a value. -/
def assign (name value : Octets) : Act Unit := do
  let s ← get
  let v := (s.binding? name).getD ⟨none, false, false⟩
  if v.fixed then fail (name ++ ": is read only".toList)
  set { s.put name (some { v with value := some value, exported := v.exported || s.has 'a' }) with
    optionPlace := if name = "OPTIND".toList then none else s.optionPlace }

/-- Gives a parameter a value, if its name is one. -/
def assignNamed (name value : Octets) : Act Unit :=
  if isName name then assign name value else fail (name ++ ": bad variable name".toList)

/-- Keeps what a parameter is, to come back when what is running now ends. -/
def keep (name : Octets) : Act Unit := modify fun s =>
  match s.hidden with
  | frame :: rest => { s with hidden := ((name, s.binding? name) :: frame) :: rest }
  | [] => s

/-- Runs something, at the end of which parameters that were kept come back. -/
def withFrame {α : Type} (act : Act α) : Act α := do
  modify fun s => { s with hidden := [] :: s.hidden }
  let restore : Act Unit := modify fun s =>
    match s.hidden with
    | frame :: rest => { frame.foldl (fun s p => s.put p.1 p.2) s with hidden := rest }
    | [] => s
  try
    let result ← act
    restore
    return result
  catch e =>
    restore
    throw e

/-- Runs something with some descriptors led elsewhere. -/
def withDescriptors {α : Type} (led : List Nat) (descriptors : Descriptors) (act : Act α) : Act α := do
  let outer := (← get).descriptors
  modify fun s => { s with descriptors := descriptors }
  let restore : Act Unit := modify fun s =>
    { s with descriptors := led.foldl (fun fs d =>
        match outer.get? d with
        | some file => fs.lead d file
        | none => fs.close d) s.descriptors }
  try
    let result ← act
    restore
    return result
  catch e =>
    restore
    throw e

/-- Runs a built-in command under its name. -/
def named {α : Type} (name : Octets) (act : Act α) : Act α := do
  let outer := (← get).command
  modify fun s => { s with command := some name }
  try
    let result ← act
    modify fun s => { s with command := outer }
    return result
  catch e =>
    modify fun s => { s with command := outer }
    throw e

end Act

end TracePlayer.Host.Shell
