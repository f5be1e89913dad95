import TracePlayer.Host.Shell.ReadLine
import TracePlayer.Host.Shell.Test
import TracePlayer.Host.Template

/-!
# Built-in commands

The commands that a shell runs itself, except those that run other commands. Each makes a status of its arguments.
-/

namespace TracePlayer.Host.Shell

/-- The built-in commands whose faults end the shell, and whose parameters keep the values that they are given. -/
def specialBuiltins : List String :=
  [".", ":", "break", "continue", "eval", "exec", "exit", "export", "local", "readonly", "return", "set", "shift", "times", "trap",
    "unset"]

/-- The other built-in commands. -/
def regularBuiltins : List String :=
  ["[", "alias", "bg", "cd", "chdir", "command", "echo", "false", "fg", "getopts", "hash", "jobs", "kill", "printf", "pwd", "read",
    "test", "true", "type", "ulimit", "umask", "unalias", "wait"]

/-- Whether a command is built in. -/
def isBuiltin (name : Octets) : Bool := (specialBuiltins ++ regularBuiltins).contains (String.ofList name)

/-- Whether a built-in command gives parameters values. -/
def isAssigning (name : Octets) : Bool := ["alias", "export", "local", "readonly"].contains (String.ofList name)

/-- A built-in command. -/
abbrev Builtin := List Octets → Act Nat

namespace Builtin

/-- Prints a text; the status tells whether that worked. -/
def tell (name : String) (text : Octets) : Act Nat := do
  if text.isEmpty then return 0
  match ← Act.print 1 text with
  | .ok () => return 0
  | .error _ =>
    Act.report s!"{name}: I/O error".toList
    return 1

/-- The number that an argument is. -/
def number (a : Octets) : Act Nat :=
  match natural? a with
  | some n => return n
  | none => Act.fail ("Illegal number: ".toList ++ a)

/-- Reads letters of options in front of the other arguments. A colon stands behind those that have an argument of their own. -/
def options (letters : String) : List Octets → Act (List (Char × Octets) × List Octets)
  | [] => return ([], [])
  | a :: rest =>
    match a with
    | ['-', '-'] => return ([], rest)
    | '-' :: c :: cs => cluster (c :: cs) rest
    | _ => return ([], a :: rest)
termination_by args => (args.length, 0)
where
  /-- Reads the letters of an argument. -/
  cluster (cs : Octets) (rest : List Octets) : Act (List (Char × Octets) × List Octets) :=
    match cs with
    | [] => options letters rest
    | c :: cs =>
      let behind := letters.toList.dropWhile (· != c)
      if behind.isEmpty ∨ c = ':' then Act.fail ("Illegal option -".toList ++ [c])
      else if behind.tail.head? = some ':' then
        match cs, rest with
        | [], [] => Act.fail ("No arg for -".toList ++ c :: " option".toList)
        | [], a :: rest => do
          let (given, rest) ← options letters rest
          return ((c, a) :: given, rest)
        | cs, rest => do
          let (given, rest) ← options letters rest
          return ((c, cs) :: given, rest)
      else do
        let (given, rest) ← cluster cs rest
        return ((c, []) :: given, rest)
  termination_by (rest.length, cs.length + 1)

/-- A text between single quotes, and its single quotes between double ones; every round reads some of it. -/
def quotedFrom : Nat → Octets → Octets
  | 0, _ => []
  | n + 1, s =>
    let plain := s.takeWhile (· != '\'')
    let quotes := (s.drop plain.length).takeWhile (· == '\'')
    let rest := s.drop (plain.length + quotes.length)
    '\'' :: plain ++ '\'' :: (if quotes.isEmpty then [] else '"' :: quotes ++ ['"']) ++
      (if rest.isEmpty then [] else quotedFrom n rest)

/-- A text as it can be written in a script. -/
def quoted (s : Octets) : Octets := quotedFrom (s.length + 1) s

/-! ## Printing and testing -/

/-- Prints its arguments. -/
def echo : Builtin := fun args => tell "echo" (Template.echo args)

/-- Prints its arguments in the way that the first one says. -/
def printf : Builtin := fun args => do
  let (_, args) ← options "" args
  match args with
  | [] => Act.fail "usage: printf format [arg ...]".toList
  | format :: args =>
    let p := Template.printf .inside format args
    for f in p.faults do
      if !f.isWarning then Act.report f.insideMessage
    let shown ← tell "printf" p.output
    return if p.faults.any Template.Fault.isFinal then Act.faultStatus
      else if p.faults.isEmpty then shown else 1

/-- Answers a test. -/
def test : Builtin := fun args => do
  match Test.answer ⟨(← get).world.tree, fun _ => false⟩ false args with
  | .ok answer => return if answer then 0 else 1
  | .error fault => Act.fail fault.message

/-- Answers a test up to a closing bracket. -/
def bracket : Builtin := fun args =>
  if args.getLast? = some [']'] then test args.dropLast else Act.fail "missing ]".toList

/-- Reads a line. -/
def read : Builtin := fun args => do
  let (given, names) ← options "p:r" args
  if names.isEmpty then Act.fail "arg count".toList
  readInto (given.any (fun o => o.1 == 'r')) names

/-! ## Parameters -/

/-- A name, and the value behind its equals sign. -/
def cutEquals (a : Octets) : Octets × Option Octets :=
  let name := a.takeWhile (· != '=')
  (name, if name.length < a.length then some (a.drop (name.length + 1)) else none)

/-- The parameters that satisfy a condition, as commands that give them their values. -/
def listing (s : State) (command : String) (p : Variable → Bool) : Octets :=
  let lines := (s.parameters.filter (fun v => p v.2)).map fun v =>
    (if command.isEmpty then [] else (command ++ " ").toList) ++ v.1 ++ (match v.2.value with
      | some value => '=' :: quoted value
      | none => [])
  (lines.mergeSort Octets.precedes).flatMap (· ++ ['\n'])

/-- Changes parameters that are named, and gives them values. -/
def mark (command : String) (p : Variable → Bool) (change : Variable → Variable) : Builtin := fun args => do
  let (given, args) ← options "p" args
  if args.isEmpty ∨ ¬given.isEmpty then
    let s ← get
    tell command (listing s command p)
  else
    for a in args do
      let (name, value) := cutEquals a
      match value with
      | some value => Act.assignNamed name value
      | none => if !isName name then Act.fail (name ++ ": bad variable name".toList)
      modify fun s => s.put name (some (change ((s.binding? name).getD ⟨none, false, false⟩)))
    return 0

/-- Lets the programs that are started know parameters. -/
def exportNames : Builtin := mark "export" Variable.exported (fun v => { v with exported := true })

/-- Fixes the values of parameters. -/
def readonly : Builtin := mark "readonly" Variable.fixed (fun v => { v with fixed := true })

/-- Gives parameters values as long as a function runs. -/
def localNames : Builtin := fun args => do
  if (← get).hidden.isEmpty then Act.fail "not in a function".toList
  for a in args do
    let (name, value) := cutEquals a
    if !isName name then Act.fail (name ++ ": bad variable name".toList)
    Act.keep name
    match value with
    | some value => Act.assign name value
    | none => pure ()
  return 0

/-- Takes parameters or functions away. -/
def unset : Builtin := fun args => do
  let (given, names) ← options "vf" args
  let functions := (given.getLast?.map Prod.fst) = some 'f'
  for name in names do
    if functions then modify fun s => { s with functions := s.functions.filter (fun f => f.1 != name) }
    else
      if !isName name then Act.fail (name ++ ": bad variable name".toList)
      if ((← get).binding? name).any Variable.fixed then Act.fail (name ++ ": is read only".toList)
      modify fun s => s.put name none
  return 0

/-- Drops arguments. -/
def shift : Builtin := fun args => do
  let n ← match args with
    | a :: _ => number a
    | [] => pure 1
  if (← get).arguments.length < n then Act.fail "can't shift that many".toList
  modify fun s => { s with arguments := s.arguments.drop n, optionPlace := none }
  return 0

/-- The letter of an option that is named. -/
def optionOf (name : Octets) : Act (Option Char) :=
  match optionNames.find? (fun o => o.1.toList == name) with
  | some o => return o.2
  | none => Act.fail ("Illegal option -o ".toList ++ name)

/-- Turns an option on or off. -/
def turn (on : Bool) (option : Char) : Act Unit := modify fun s =>
  let others := s.options.filter (· != option)
  { s with options := if on then option :: others else others }

/-- All options, and whether they are on. -/
def optionListing (s : State) (asCommands : Bool) : Octets :=
  let lines := optionNames.map fun o =>
    let on := o.2.any s.has
    let sign := if on then "-o" else "+o"
    let state := if on then "on" else "off"
    if asCommands then "set " ++ sign ++ " " ++ o.1 ++ "\n"
    else o.1 ++ "".pushn ' ' (16 - o.1.length) ++ state ++ "\n"
  (if asCommands then "" else "Current option settings\n").toList ++ (String.join lines).toList

/-- Reads options that turn options on and off, and the arguments behind them. There are none to be set if only options were
given. -/
def readSwitches : List Octets → Act (Option (List Octets))
  | [] => return none
  | a :: rest =>
    match a with
    | ['-', '-'] => return some rest
    | ['-'] => do
      turn false 'x'
      turn false 'v'
      return if rest.isEmpty then none else some rest
    | sign :: letters =>
      if sign = '-' ∨ sign = '+' then do
        for c in letters do
          if c = 'o' then
            match rest with
            | [] => let _ ← tell "set" (optionListing (← get) (sign == '+'))
            | name :: _ =>
              match ← optionOf name with
              | some option => turn (sign == '-') option
              | none => pure ()
          else if optionLetters.contains c then turn (sign == '-') c
          else Act.fail ("Illegal option ".toList ++ [sign, c])
        readSwitches (if letters.contains 'o' then rest.tail else rest)
      else return some (a :: rest)
    | [] => return some (a :: rest)
termination_by args => args.length
decreasing_by all_goals grind

/-- Turns options on and off, and sets the arguments. -/
def setAll : Builtin := fun args => do
  if args.isEmpty then
    let s ← get
    tell "set" (listing s "" (fun v => v.value.isSome))
  else
    match ← readSwitches args with
    | some args => modify fun s => { s with arguments := args, optionPlace := none }
    | none => pure ()
    return 0

/-- Reads one option of the arguments. -/
def getopts : Builtin := fun args => do
  match args with
  | letters :: parameter :: given =>
    let s ← get
    let words := if given.isEmpty then s.arguments else given
    let index := (((s.value? "OPTIND".toList).bind natural?).getD 1) - 1
    let inside := s.optionPlace.map (fun place => ((words.getD (index - 1) []).drop place, place))
    let finish (option : Char) (index : Nat) (place : Option Nat) (status : Nat) : Act Nat := do
      Act.assign "OPTIND".toList (toString (index + 1)).toList
      Act.assignNamed parameter [option]
      modify fun s => { s with optionPlace := place }
      return status
    let start : Option (Octets × Nat × Nat) := match inside with
      | some (c :: cs, place) => some (c :: cs, place, index)
      | _ =>
        match words[index]? with
        | some ('-' :: c :: cs) => some (c :: cs, 1, index + 1)
        | _ => none
    match start with
    | none => finish '?' index none 1
    | some (['-'], 1, next) => finish '?' next none 1
    | some ([], _, next) => finish '?' next none 1
    | some (c :: cs, place, next) =>
      let silent := letters.head? == some ':'
      let place := if cs.isEmpty then none else some (place + 1)
      let complain (what : Octets) (option : Char) (place : Option Nat) : Act Nat := do
        if silent then Act.assign "OPTARG".toList [c]
        else
          let _ ← Act.print 2 (what ++ ['\n'])
          modify fun s => s.put "OPTARG".toList none
        finish option next place 0
      let behind := (if silent then letters.tail else letters).dropWhile (· != c)
      if behind.isEmpty ∨ c = ':' then complain ("Illegal option -".toList ++ [c]) '?' place
      else if behind.tail.head? = some ':' then
        match cs, words[next]? with
        | [], none => complain ("No arg for -".toList ++ c :: " option".toList) (if silent then ':' else '?') none
        | [], some value => do
          Act.assign "OPTARG".toList value
          finish c (next + 1) none 0
        | value, _ => do
          Act.assign "OPTARG".toList value
          finish c next none 0
      else do
        Act.assign "OPTARG".toList []
        finish c next place 0
  | _ => Act.fail "Usage: getopts optstring var [arg]".toList

/-! ## Places and permissions -/

/-- Shows the working directory. -/
def pwd : Builtin := fun args => do
  let (given, _) ← options "LP" args
  let s ← get
  let physical := '/' :: ['/'].intercalate s.world.tree.working.reverse
  tell "pwd" ((if given.getLast?.map Prod.fst = some 'P' then physical else (s.value? "PWD".toList).getD physical) ++ ['\n'])

/-- A path without dots in it. -/
def plainPath (path : Octets) : Octets :=
  let names := (Tree.names path).foldl (fun done name =>
    if name = [] ∨ name = ['.'] then done else if name = ['.', '.'] then done.tail else name :: done) []
  '/' :: ['/'].intercalate names.reverse

/-- Changes the working directory. -/
def cd : Builtin := fun args => do
  let (given, args) ← options "LP" args
  let s ← get
  let old := (s.value? "PWD".toList).getD []
  let back := args.head? = some ['-']
  let target := if back then (s.value? "OLDPWD".toList).getD [] else args.headD ((s.value? "HOME".toList).getD [])
  let path := if target.head? = some '/' then target else if target.isEmpty then old else old ++ '/' :: target
  match s.world.tree.walk path with
  | .ok (place, .directory) =>
    let shown := if given.getLast?.map Prod.fst = some 'P' then '/' :: ['/'].intercalate place.reverse else plainPath path
    set { s with world := { s.world with tree := { s.world.tree with working := place } } }
    Act.assign "OLDPWD".toList old
    Act.assign "PWD".toList shown
    if back then tell "cd" (shown ++ ['\n']) else return 0
  | _ => Act.fail ("can't cd to ".toList ++ target)

/-- The letters of permissions that three bits do not take away. -/
def permissionText (taken : Nat) : String :=
  (if taken / 4 % 2 = 0 then "r" else "") ++ (if taken / 2 % 2 = 0 then "w" else "") ++ (if taken % 2 = 0 then "x" else "")

/-- Shows or sets what permissions new files do not have. -/
def umask : Builtin := fun args => do
  let (given, args) ← options "S" args
  let mask := (← get).umask
  let text (n : Nat) := permissionText (n % 8)
  match args with
  | [] =>
    if given.isEmpty then
      let digits := Nat.toDigits 8 mask
      tell "umask" (List.replicate (4 - digits.length) '0' ++ digits ++ ['\n'])
    else tell "umask" s!"u={text (mask / 64)},g={text (mask / 8)},o={text mask}\n".toList
  | a :: _ =>
    if a ≠ [] ∧ a.all (fun c => (digitIn? 8 c).isSome) then
      modify fun s => { s with umask := ((readDigits 8 a).1.getD 0) % 512 }
      return 0
    else Act.fail ("Illegal number: ".toList ++ a)

/-! ## Signals and processes -/

/-- The signal that a text names or numbers; no less than `least`. -/
def signal? (least : Nat) (a : Octets) : Option Nat :=
  if a ≠ [] ∧ a.all Char.isDigit then ((readDigits 10 a).1).filter (· < 65)
  else if least = 0 ∧ a.map Char.toUpper = "EXIT".toList then some 0
  else Signal.ofName? a

/-- How signals are sent. -/
def killUsage : Octets :=
  "Usage: kill [-s sigspec | -signum | -sigspec] [pid | job]... or\nkill -l [exitstatus]".toList

/-- Sends a signal to processes. -/
def send (signal : Nat) : List Octets → Act Nat
  | [] => return 0
  | a :: rest => do
    let process ← match a with
      | '%' :: _ =>
        match (← get).ended with
        | (process, _) :: _ => pure process
        | [] => Act.fail ("No such job: ".toList ++ a)
      | '-' :: group => (fun _ => 0) <$> number group
      | _ => number a
    let s ← get
    let status ← if s.world.processes.contains process then do
        set { s with world := { s.world with signals := s.world.signals ++ [(process, signal)] } }
        pure 0
      else do
        Act.report "No such process\n".toList
        pure 1
    return max status (← send signal rest)

/-- The numbers and names of the signals. -/
def signalListing : Octets :=
  "0\n".toList ++ Signal.all.flatMap (fun s => (s.1 ++ "\n").toList)

/-- Sends a signal, or lists the signals. -/
def kill : Builtin := fun args => do
  let list (args : List Octets) : Act Nat := do
    match args with
    | [] => tell "kill" signalListing
    | a :: _ =>
      let n ← number a
      match Signal.name? (if Signal.statusBase < n then n - Signal.statusBase else n) with
      | some name => tell "kill" (name ++ "\n").toList
      | none => Act.fail ("invalid signal number or exit status: ".toList ++ a)
  match args with
  | [] => Act.fail killUsage
  | ('-' :: option) :: rest =>
    match signal? 1 option with
    | some signal => if rest.isEmpty then Act.fail killUsage else send signal rest
    | none =>
      let (given, targets) ← options "ls:" args
      if given.any (fun o => o.1 == 'l') then list targets
      else
        let signal ← match (given.filter (fun o => o.1 == 's')).getLast? with
          | some (_, name) =>
            match signal? 1 name with
            | some signal => pure signal
            | none => Act.fail ("invalid signal number or name: ".toList ++ name)
          | none => pure 15
        if targets.isEmpty then Act.fail killUsage else send signal targets
  | _ => send 15 args

/-- The commands that set the traps. -/
def trapListing (s : State) : Octets :=
  (s.traps.mergeSort (fun a b => decide (a.1 ≤ b.1))).flatMap fun t =>
    "trap -- ".toList ++ quoted t.2 ++ ' ' :: ((Signal.name? t.1).getD "EXIT").toList ++ ['\n']

/-- Sets what is run on signals. -/
def trap : Builtin := fun args => do
  let (_, args) ← options "" args
  match args with
  | [] => tell "trap" (trapListing (← get))
  | first :: rest =>
    let (action, signals) := if rest.isEmpty ∨ (signal? 0 first).isSome then (none, args)
      else (if first = ['-'] then none else some first, rest)
    for a in signals do
      match signal? 0 a with
      | none =>
        let _ ← Act.print 2 ("trap: ".toList ++ a ++ ": bad trap\n".toList)
        return 1
      | some signal => modify fun s =>
          let others := s.traps.filter (fun t => t.1 != signal)
          { s with traps := match action with
              | some action => (signal, action) :: others
              | none => others }
    return 0

/-- The status of a process that is waited for. -/
def waitFor (a : Octets) : Act Nat := do
  let s ← get
  match a with
  | '%' :: _ => return (s.ended.head?.map Prod.snd).getD 127
  | _ =>
    let process ← number a
    match s.ended.find? (fun e => e.1 == process) with
    | some (_, status) =>
      set { s with world := s.world.forget process }
      return status
    | none => return 127

/-- Waits for processes. -/
def wait : Builtin := fun args => do
  let (_, args) ← options "" args
  if args.isEmpty then
    modify fun s => { s with world := s.ended.foldl (fun w e => w.forget e.1) s.world }
    return 0
  else
    let mut status := 0
    for a in args do
      status ← waitFor a
    return status

/-! ## Leaving -/

/-- Ends the shell. -/
def exit : Builtin := fun args => do
  match args with
  | a :: _ => throw (.exited (some (← number a)))
  | [] => throw (.exited none)

/-- Ends a function or a script. -/
def returnNow : Builtin := fun args => do
  match args with
  | a :: _ => Act.finish (← number a)
  | [] => pure ()
  throw .returned

/-- Leaves loops, if any run. -/
def leave (escape : Nat → Escape) : Builtin := fun args => do
  let n ← match args with
    | a :: _ =>
      match natural? a with
      | some (n + 1) => pure (n + 1)
      | _ => Act.fail ("Illegal number: ".toList ++ a)
    | [] => pure 1
  let loops := (← get).loops
  if loops = 0 then return 0
  Act.finish 0
  throw (escape (min n loops))

/-! ## Names of commands -/

/-- The directories in which programs are looked for. -/
def directories (s : State) : List Octets := Text.splitAt ':' ((s.value? "PATH".toList).getD [])

/-- The words with a meaning of their own. -/
def isKeyword (name : Octets) : Bool :=
  ["!", "case", "do", "done", "elif", "else", "esac", "fi", "for", "if", "in", "then", "until", "while", "\x7b", "\x7d"].contains
    (String.ofList name)

/-- What a command is, in words or in brief. -/
def describe (s : State) (brief : Bool) (name : Octets) : Octets × Nat :=
  let say (what : String) : Octets × Nat := ((if brief then name else name ++ what.toList) ++ ['\n'], 0)
  if isKeyword name then say " is a shell keyword"
  else if s.functions.any (fun f => f.1 == name) then say " is a shell function"
  else if specialBuiltins.contains (String.ofList name) then say " is a special shell builtin"
  else if isBuiltin name then say " is a shell builtin"
  else
    match searchProgram s.world.tree.find (directories s) name with
    | .ok (path, _) => ((if brief then path else name ++ " is ".toList ++ path) ++ ['\n'], 0)
    | .error _ => (if brief then [] else name ++ ": not found\n".toList, 127)

/-- Tells what commands are. -/
def type : Builtin := fun args => do
  let (_, names) ← options "" args
  let mut status := 0
  for name in names do
    let (text, found) := describe (← get) false name
    let _ ← tell "type" text
    if found ≠ 0 then status := found
  return status

/-- Remembers where programs are. -/
def hash : Builtin := fun args => do
  let (_, names) ← options "rv" args
  let mut status := 0
  for name in names do
    if !isBuiltin name && (searchProgram (← get).world.tree.find (directories (← get)) name).toOption.isNone then
      Act.report (name ++ ": not found".toList)
      status := 1
  return status

/-- What is said where there are no jobs. -/
def noJob : Builtin := fun _ => Act.fail "No current job".toList

/-- The built-in command of a name, if it runs no others. -/
def find? (name : Octets) : Option Builtin :=
  match String.ofList name with
  | ":" => some (fun _ => return 0)
  | "true" => some (fun _ => return 0)
  | "false" => some (fun _ => return 1)
  | "echo" => some echo
  | "printf" => some printf
  | "test" => some test
  | "[" => some bracket
  | "read" => some read
  | "export" => some exportNames
  | "readonly" => some readonly
  | "local" => some localNames
  | "unset" => some unset
  | "shift" => some shift
  | "set" => some setAll
  | "getopts" => some getopts
  | "pwd" => some pwd
  | "cd" => some cd
  | "chdir" => some cd
  | "umask" => some umask
  | "kill" => some kill
  | "trap" => some trap
  | "wait" => some wait
  | "exit" => some exit
  | "return" => some returnNow
  | "break" => some (leave .broken)
  | "continue" => some (leave .continued)
  | "type" => some type
  | "hash" => some hash
  | "fg" => some noJob
  | "bg" => some noJob
  | "alias" => some (fun _ => return 0)
  | "unalias" => some (fun _ => return 0)
  | "jobs" => some (fun _ => return 0)
  | "times" => some (fun _ => return 0)
  | "ulimit" => some (fun _ => return 0)
  | _ => none

end Builtin

end TracePlayer.Host.Shell
