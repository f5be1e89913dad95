import TracePlayer.Host.Shell.Command
import TracePlayer.Host.Shell.Loop

/-!
# Running shell scripts

What a script makes of its input and its files: what it prints, what it reports, and how it ends.

The depth of what a script does is bounded, and so are the rounds of its loops; a script that goes on beyond that is ended, as one is
that nobody reads.
-/

namespace TracePlayer.Host.Shell

namespace Runner

variable (run : Runner)

/-! ## Choices and pipelines -/

/-- Whether any of several patterns matches a text. -/
def matchesAny (text : Octets) : List Word → Act Bool
  | [] => return false
  | w :: rest => do
    if Pattern.isMatch (← expandPattern run.capture w) text then return true
    matchesAny text rest

/-- The script behind the first patterns that match a text. -/
def armFor (text : Octets) : List (List Word × Script) → Act (Option Script)
  | [] => return none
  | (patterns, body) :: rest => do
    if ← run.matchesAny text patterns then return some body
    armFor text rest

/-- Runs commands of which each reads what the one before prints. -/
def runPipeline (mode : Mode) (input : Option Nat) : List Script → Act Unit
  | [] => return ()
  | command :: rest => do
    let s ← get
    let fs := match input with
      | some file => s.descriptors.lead 0 file
      | none => s.descriptors
    let inner : Act Unit := run ⟨mode.tested, true⟩ command
    if rest.isEmpty then
      let ending ← run.inSubshell true fs inner
      announce ending
      Act.finish (statusOf ending)
    else
      let (reader, writer, _, world) := s.world.addPipe []
      set { s with world := world }
      announce (← run.inSubshell true (fs.lead 1 writer) inner)
      runPipeline mode (some reader) rest

/-- Starts a script that is not waited for. It has no input. -/
def startJob (script : Script) : Act Unit := do
  let s ← get
  let (process, world) := s.world.start
  let (file, world) := world.add .void
  let memory := inherited s.toMemory process (s.descriptors.lead 0 file)
  set { s with
    world := world
    background := some process
    jobs := s.jobs ++ [Job.mk process script memory world.tree.working false] }
  Act.finish 0

/-- Runs a script in a shell of its own, with redirections. -/
def runSubshell (mode : Mode) (line : Nat) (body : Script) (redirections : List Redirection) : Act Unit := do
  modify fun s => { s with line := line }
  let leads ← run.leadsOf redirections
  let s ← get
  let ending ← run.inSubshell false s.descriptors (do
    match ← followAll leads s.descriptors with
    | none =>
      Act.finish Act.faultStatus
      throw .faulted
    | some fs =>
      modify fun s => { s with descriptors := fs }
      run ⟨mode.tested, true⟩ body)
  match mode.last && s.traps.isEmpty, ending with
  | true, .signal signal => throw (.signalled signal)
  | _, _ =>
    announce ending
    Act.finish (statusOf ending)

/-! ## Scripts -/

/-- Whether a failure of a script counts as one of a command. -/
def isCommand : Script → Bool
  | .command .. => true
  | .subshell .. => true
  | .pipeline _ => true
  | _ => false

/-- Runs one script, given how its parts are run. -/
def step (mode : Mode) (script : Script) : Act Unit := do
  match script with
  | .nothing => return ()
  | .command line settings words redirections => run.runSimple mode line settings words redirections
  | .sequence commands =>
    for command in commands.dropLast do
      run ⟨mode.tested, false⟩ command
    run mode (commands.getLast?.getD .nothing)
  | .background body => startJob body
  | .both first second =>
    run ⟨true, false⟩ first
    if (← get).status = 0 then run mode second
  | .either first second =>
    run ⟨true, false⟩ first
    if (← get).status ≠ 0 then run mode second
  | .negation body =>
    run ⟨true, false⟩ body
    Act.finish (if (← get).status = 0 then 1 else 0)
  | .pipeline commands => run.runPipeline mode none commands
  | .choice test yes no =>
    run ⟨true, false⟩ test
    if (← get).status = 0 then run mode yes
    else
      match no with
      | .nothing => Act.finish 0
      | _ => run mode no
  | .loop wanted test body => asLoop (run.rounds mode wanted test body mostRounds 0)
  | .each line name words body =>
    modify fun s => { s with line := line }
    let values ← expandAll run.capture words
    if values.isEmpty then Act.finish 0
    asLoop (run.eachOf mode name body values)
  | .select line word arms =>
    modify fun s => { s with line := line }
    let text ← expandText run.capture false word
    match ← run.armFor text arms with
    | none => Act.finish 0
    | some .nothing => Act.finish 0
    | some body => run mode body
  | .subshell line body redirections => run.runSubshell mode line body redirections
  | .redirected line body redirections =>
    modify fun s => { s with line := line }
    let failed : Act Unit := do
      if (← get).has 'e' && !mode.tested then throw (.exited none)
    run.redirected redirections failed (run ⟨mode.tested, false⟩ body)
  | .define name body =>
    modify fun s => { s with functions := (name, body) :: s.functions.filter (fun f => f.1 != name) }
    Act.finish 0

/-- Runs one script, and then notices signals. A failure ends the shell if that is asked for and nothing depends on it. -/
def stepAndNotice (mode : Mode) (script : Script) : Act Unit := do
  if !(← get).has 'n' then run.step mode script
  run.notice
  if isCommand script && !mode.tested then
    let s ← get
    if s.has 'e' && s.status ≠ 0 then throw (.exited none)

end Runner

/-- Runs scripts of a bounded depth. -/
def runner : Nat → Runner
  | 0 => fun _ _ => throw (.signalled unreadSignal)
  | depth + 1 => (runner depth).stepAndNotice

/-- The greatest depth of scripts. -/
def mostDepth : Nat := 8000

/-- Runs a program as the first process of a world. -/
def start (world : World) (program : String) (name : Octets) (arguments : List Octets) : Ending × World :=
  let run := runner mostDepth
  let s := State.initial world World.standard World.firstProcess name []
  match ((do
      let ending ← run.runProgram World.firstProcess program name arguments
      run.runAllJobs
      return ending : Act Ending).run).run s with
  | (.ok ending, s) => (ending, s.world)
  | (.error _, s) => (.status Act.faultStatus, s.world)

end TracePlayer.Host.Shell
