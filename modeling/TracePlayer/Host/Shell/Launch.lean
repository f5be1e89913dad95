import TracePlayer.Host.Shell.Builtin
import TracePlayer.Host.Shell.Redirection
import TracePlayer.Host.Utility

/-!
# Programs that a shell runs

The program of a name is looked for in the directories for programs, and run as a process of its own or in place of the shell.
A shell is a program as well: its options and arguments say where its script is.
-/

namespace TracePlayer.Host.Shell

namespace Runner

variable (run : Runner)

/-- What is asked of a shell by the options and arguments that it is started with. -/
inductive Errand where
  | script (text name : Octets) (arguments : List Octets)
  | file (path : Octets) (arguments : List Octets)
  | input (arguments : List Octets)
  | refused (message : Octets)

/-- Reads the options of a shell: the letters that turn options on or off, and whether the script is an argument. -/
def readErrand (asText : Bool) (on off : List Char) : List Octets → (List Char × List Char) × Errand
  | [] => ((on, off), if asText then .refused "-c requires an argument".toList else .input [])
  | a :: rest =>
    let finish (rest : List Octets) : (List Char × List Char) × Errand :=
      ((on, off), match rest with
        | [] => if asText then .refused "-c requires an argument".toList else .input []
        | first :: others =>
          if asText then .script first (others.headD []) others.tail
          else if on.contains 's' then .input (first :: others) else .file first others)
    match a with
    | ['-'] => finish rest
    | ['-', '-'] => finish rest
    | sign :: letters =>
      if sign = '-' ∨ sign = '+' then
        match letters.find? (fun c => !(optionLetters.contains c || c == 'c' || c == 'l' || c == 'o')) with
        | some c => ((on, off), .refused ("Illegal option ".toList ++ [sign, c]))
        | none =>
          let switches := letters.filter optionLetters.contains
          let named := if letters.contains 'o' then
              (optionNames.find? (fun o => o.1.toList == rest.headD [])).bind Prod.snd |>.toList
            else []
          let (on, off) := if sign = '-' then (switches ++ named ++ on, off) else (on, switches ++ named ++ off)
          readErrand (asText || letters.contains 'c') on off (if letters.contains 'o' then rest.tail else rest)
      else finish (a :: rest)
    | [] => finish (a :: rest)
termination_by args => args.length
decreasing_by all_goals grind

/-- Runs a shell that is started under a name, with arguments. -/
def runShell (name : Octets) (arguments : List Octets) : Act Unit := do
  let ((on, off), errand) := readErrand false [] [] arguments
  modify fun s => { s with name := name, options := on.filter (!off.contains ·), line := 0 }
  match errand with
  | .refused message => Act.fail message
  | .script text given arguments =>
    modify fun s => { s with name := if given.isEmpty then name else given, arguments := arguments }
    let _ ← run.runText false text
  | .input arguments =>
    let s ← get
    let text := match (s.descriptors.get? 0).elim (.error .badDescriptor) s.world.readAll with
      | .ok (text, _) => text
      | .error _ => []
    modify fun s => { s with
      arguments := arguments
      world := ((s.descriptors.get? 0).map (fun f => s.world.drop f text.length)).getD s.world }
    let _ ← run.runText false text
  | .file path arguments =>
    let s ← get
    match s.world.openAt s.descriptors path World.reading false with
    | .error fault => Act.fail ("cannot open ".toList ++ path ++ ": ".toList ++ openFault "No such file" fault)
    | .ok (file, world) =>
      match world.readAll file with
      | .error _ => Act.fail ("cannot open ".toList ++ path ++ ": Is a directory".toList)
      | .ok (text, world) =>
        set { s with world := world, name := path, arguments := arguments }
        let _ ← run.runText false text

/-- The memory of a shell that is started as a program by another one: it knows the parameters that are exported. -/
def startedBy (s : State) (process : Nat) : Memory :=
  let fresh := State.initial s.world s.descriptors process [] []
  let exported := s.parameters.filter (fun v => v.2.exported && v.2.value.isSome)
  let known (v : Octets × Variable) : Bool := v.2.exported && !exported.any (fun w => w.1 == v.1)
  { fresh.toMemory with
    parameters := exported.map (fun v => (v.1, { v.2 with fixed := false })) ++
      fresh.parameters.filter (fun v => !exported.any (fun w => w.1 == v.1) && !known v)
    traps := s.traps.filter (fun t => t.2.isEmpty)
    umask := s.umask }

/-- Whether a program waits for so long that jobs are run. -/
def waits (program : String) (arguments : List Octets) : Bool :=
  program == "sleep" && arguments.any (·.any (fun c => '1' ≤ c ∧ c ≤ '9'))

/-- Runs a program as a process with this number. -/
def runProgram (process : Nat) (program : String) (name : Octets) (arguments : List Octets) : Act Ending := do
  let s ← get
  if program = "sh" ∨ program = "dash" then
    inOther (startedBy s process) s.world.tree.working (run.toEnd (run.runShell name arguments))
  else
    if waits program arguments then run.runAllJobs
    let s ← get
    match Utility.find? program with
    | none => return .status 0
    | some body =>
      let (status, world) := ((body name arguments).run s.descriptors).run s.world
      set { s with world := world }
      return .status status

/-- Looks for the program of a name. What is found in the place of a name that is empty is a directory. -/
def program? (s : State) (name : Octets) : Except Fault (Octets × String) :=
  if name.isEmpty then .error .permissionDenied else searchProgram s.world.tree.find (Builtin.directories s) name

/-- Why a program cannot be run. -/
def launchFault (name : Octets) (fault : Fault) : Octets := name ++ ": ".toList ++ openFault "not found" fault

/-- The status that tells that a program cannot be run. -/
def launchStatus (fault : Fault) : Nat := if [Fault.notFound, .notDirectory, .nameTooLong].contains fault then 127 else 126

/-- Runs a program and waits for it. When nothing else is to be done, the shell becomes the program. -/
def launch (mode : Mode) (fields : List Octets) : Act Unit := do
  let s ← get
  let name := fields.headD []
  match program? s name with
  | .error fault =>
    Act.report (launchFault name fault)
    Act.finish (if name.contains '/' then launchStatus fault else 127)
  | .ok (_, program) =>
    let (process, world) := s.world.start
    set { s with world := world }
    let ending ← run.runProgram process program name fields.tail
    modify fun s => { s with world := s.world.forget process }
    match mode.last && s.traps.isEmpty, ending with
    | true, .signal signal => throw (.signalled signal)
    | _, _ =>
      announce ending
      Act.finish (statusOf ending)

/-- Runs a program in place of the shell. -/
def replace (fields : List Octets) : Act Unit := do
  let s ← get
  let name := fields.headD []
  match program? s name with
  | .error fault =>
    Act.report (launchFault name fault)
    throw (.exited (some (launchStatus fault)))
  | .ok (_, program) =>
    let ending ← run.runProgram s.process program name fields.tail
    modify fun s => { s with traps := [], world := { s.world with processes := s.process :: s.world.processes } }
    match ending with
    | .signal signal => throw (.signalled signal)
    | .status status => throw (.exited (some status))

end Runner

end TracePlayer.Host.Shell
