import TracePlayer.Host.Shell.Launch

/-!
# Simple commands

The words of a command are replaced, its descriptors are led elsewhere, its parameters are given their values, and then it is run.
Functions are tried before commands that are built in, and these before programs; but special built-in commands come first.
-/

namespace TracePlayer.Host.Shell

namespace Runner

variable (run : Runner)

/-! ## Commands that run others -/

/-- Runs its arguments as a script. -/
def evalBuiltin (mode : Mode) (arguments : List Octets) : Act Unit := do
  if !(← run.runText mode.tested ([' '].intercalate arguments)) then Act.finish 0

/-- Where a script is that is named: a path, or a name in one of the directories for programs. -/
def scriptPath? (s : State) (name : Octets) : Option Octets :=
  if name.contains '/' then some name
  else ((Builtin.directories s).map (fun d => if d.isEmpty then name else d ++ '/' :: name)).find? (isFull s.world.tree)

/-- Runs the script in a file. -/
def dotBuiltin (arguments : List Octets) : Act Unit := do
  let (_, arguments) ← Builtin.options "" arguments
  match arguments with
  | [] => Act.finish 0
  | name :: _ =>
    let s ← get
    match scriptPath? s name with
    | none => Act.fail (name ++ ": not found".toList)
    | some path =>
      match s.world.openAt s.descriptors path World.reading false with
      | .error fault => Act.fail ("cannot open ".toList ++ path ++ ": ".toList ++ openFault "No such file" fault)
      | .ok (file, world) =>
        match world.readAll file with
        | .error _ => Act.finish 0
        | .ok (text, world) =>
          set { s with world := world }
          Act.named path (do
            try
              if !(← run.runText false text) then Act.finish 0
            catch e => if e ≠ .returned then throw e)

/-- Tells what a command is. -/
def describeBuiltin (brief : Bool) (names : List Octets) : Act Unit := do
  match names with
  | [] => Act.finish 0
  | name :: _ =>
    let (text, status) := Builtin.describe (← get) brief name
    let _ ← Builtin.tell "command" text
    Act.finish status

/-- Runs the jobs that a shell waits for. -/
def waitBuiltin (arguments : List Octets) : Act Nat := do
  let (_, given) ← Builtin.options "" arguments
  if given.isEmpty then run.runJobs (fun j => !j.orphaned) mostJobs
  else
    for a in given do
      match (← get).jobs.find? (fun j => some j.process == (natural? a) || a.head? == some '%') with
      | some job =>
        modify fun s => { s with jobs := s.jobs.filter (fun j => j.process != job.process) }
        let ending ← run.runJob job
        announce ending
        modify fun s => { s with ended := (job.process, statusOf ending) :: s.ended }
      | none => pure ()
  Builtin.wait arguments

/-! ## Simple commands -/

/-- The arguments of `command`: the letters in front, and the command. -/
def cutCommand : List Octets → List Char × List Octets
  | [] => ([], [])
  | a :: rest =>
    match a with
    | ['-', '-'] => ([], rest)
    | '-' :: c :: cs => ((c :: cs) ++ (cutCommand rest).1, (cutCommand rest).2)
    | _ => ([], a :: rest)

/-- A command whose words have been replaced. -/
structure Command where
  /-- Whether functions are passed over. -/
  direct : Bool
  /-- The letters of options for `command`. -/
  letters : List Char
  fields : List Octets

/-- A command without the words that only say how it is looked for. -/
def Command.ofFields : Nat → Bool → List Octets → Command
  | 0, direct, fields => ⟨direct, [], fields⟩
  | n + 1, direct, fields =>
    if fields.head? = some "command".toList then
      let (letters, rest) := cutCommand fields.tail
      if letters.all (· == 'p') ∧ rest ≠ [] then Command.ofFields n true rest else ⟨direct, letters, fields.take 1 ++ rest⟩
    else ⟨direct, [], fields⟩

/-- The name of a command, if there is any. -/
def Command.name (c : Command) : Octets := c.fields.headD []

/-- The function that a command runs. -/
def Command.function? (c : Command) (s : State) : Option Script :=
  if c.direct ∨ specialBuiltins.contains (String.ofList c.name) then none
  else (s.functions.find? (fun f => f.1 == c.name)).map Prod.snd

/-- Whether a command is built in and special. -/
def Command.isSpecial (c : Command) : Bool := !c.direct && specialBuiltins.contains (String.ofList c.name)

/-- Replaces the words of a command. What follows a command that gives parameters values is not cut. -/
def fieldsOf : Option Bool → List Word → Act (List Octets)
  | _, [] => return []
  | assigning, w :: rest => do
    match assigning, Word.setting? w with
    | some true, some (name, value) =>
      let value ← expandText run.capture true value
      return (name ++ '=' :: value) :: (← fieldsOf assigning rest)
    | _, _ =>
      let fields ← expand run.capture w
      let assigning := match assigning, fields with
        | none, name :: _ => if name = "command".toList then none else some (isAssigning name)
        | assigning, _ => assigning
      return fields ++ (← fieldsOf assigning rest)

/-- How many functions may run at once. -/
def mostFunctions : Nat := 1000

/-- Runs a function. -/
def callFunction (mode : Mode) (body : Script) (arguments : List Octets) : Act Unit := do
  let outer ← get
  if mostFunctions ≤ outer.depth then
    Act.fail s!"Maximum function recursion depth ({mostFunctions}) reached".toList
  let restore : Act Unit := modify fun s =>
    { s with arguments := outer.arguments, loops := outer.loops, depth := outer.depth, optionPlace := outer.optionPlace }
  set { outer with arguments := arguments, loops := 0, depth := outer.depth + 1, optionPlace := none }
  try
    run ⟨mode.tested, false⟩ body
    restore
  catch e =>
    restore
    if e ≠ .returned then throw e

/-- Runs a built-in command. Its faults end the shell only if it is special. -/
def callBuiltin (c : Command) (mode : Mode) : Act Unit := do
  let arguments := c.fields.tail
  Act.named c.name (do
    try
      match String.ofList c.name with
      | "eval" => run.evalBuiltin mode arguments
      | "." => run.dotBuiltin arguments
      | "exec" => if arguments.isEmpty then Act.finish 0 else run.replace arguments
      | "wait" => Act.finish (← run.waitBuiltin arguments)
      | "command" =>
        match c.letters.find? (fun l => !(['p', 'v', 'V'].contains l)) with
        | some letter => Act.fail ("Illegal option -".toList ++ [letter])
        | none => describeBuiltin (c.letters.getLast? == some 'v') arguments
      | _ =>
        match Builtin.find? c.name with
        | some builtin => Act.finish (← builtin arguments)
        | none => Act.finish 0
    catch e => if e ≠ .faulted ∨ c.isSpecial then throw e)

/-- Gives parameters their values for a command, for a while or for good. -/
def assignAll (settings : List (Octets × Word)) (passing exported : Bool) : Act (List Octets) :=
  settings.mapM fun (name, word) => do
    let value ← expandText run.capture true word
    if passing then Act.keep name
    Act.assign name value
    if exported then
      modify fun s => s.put name ((s.binding? name).map (fun v => { v with exported := true }))
    return name ++ '=' :: value

/-- Shows a command before it is run, if that is asked for. -/
def trace (descriptors : Descriptors) (texts : List Octets) : Act Unit := do
  let s ← get
  if s.has 'x' then
    let sign := (s.value? "PS4".toList).getD []
    let shown ← match quotedWord? sign with
      | some w => expandText run.capture false w
      | none => pure sign
    let text := shown ++ [' '].intercalate texts ++ ['\n']
    let _ ← Act.withDescriptors [0, 1, 2] descriptors (Act.print 2 text)

/-- Runs a command of words. -/
def runSimple (mode : Mode) (line : Nat) (settings : List (Octets × Word)) (words : List Word)
    (redirections : List Redirection) : Act Unit := do
  modify fun s => { s with line := line, captured := none }
  let fields ← run.fieldsOf none words
  let c := Command.ofFields fields.length false fields
  let s ← get
  let empty := fields.isEmpty
  let special := c.isSpecial
  let passing := !empty && !special
  let body : Act Unit := do
    let shown ← run.assignAll settings passing (passing || (c.name == "exec".toList && 1 < c.fields.length))
    run.trace s.descriptors (shown ++ fields)
    if empty then Act.finish ((← get).captured.getD 0)
    else
      match c.function? s with
      | some f => run.callFunction mode f c.fields.tail
      | none => if isBuiltin c.name then run.callBuiltin c mode else run.launch mode c.fields
  let failed : Act Unit := if special then throw .faulted else return ()
  if c.name = "exec".toList ∧ c.fields.length = 1 ∧ ¬empty then
    let leads ← run.leadsOf redirections
    match ← followAll leads s.descriptors with
    | none =>
      Act.finish Act.faultStatus
      failed
    | some fs =>
      modify fun s => { s with descriptors := fs }
      body
  else if passing then Act.withFrame (run.redirected redirections failed body)
  else run.redirected redirections failed body

end Runner

end TracePlayer.Host.Shell
