import TracePlayer.Host.Shell.Expansion
import TracePlayer.Host.Shell.Parser

/-!
# Shells as processes

How a shell comes to its end, how it runs scripts in shells of their own, and what it does about signals. A script that is not waited
for is run when the shell waits, or else at its end.

To run a script is left to a `Runner`.
-/

namespace TracePlayer.Host.Shell

/-- The signal that ends what goes on without end. -/
def unreadSignal : Nat := 13

/-- How a script is run. -/
structure Mode where
  /-- Whether something depends on how the script ends. -/
  tested : Bool
  /-- Whether the shell ends with the script. -/
  last : Bool
  deriving DecidableEq, Repr

/-- A way to run scripts. -/
abbrev Runner := Mode → Script → Act Unit

/-- The status that tells how a process ended. -/
def statusOf : Ending → Nat
  | .status n => n % 256
  | .signal n => Signal.statusBase + n

namespace Runner

variable (run : Runner)

/-- Runs the text of a script line by line; whether there was any command in it. Every round reads a line. -/
def runLines (tested : Bool) : Nat → Source → Act Bool
  | 0, _ => return false
  | n + 1, source => do
    match source.next (← get).documents.length with
    | .error (line, fault) =>
      modify fun s => { s with line := line }
      Act.fail s!"Syntax error: {fault.message}".toList
    | .ok none => return false
    | .ok (some (script, documents, rest)) =>
      modify fun s => { s with documents := s.documents ++ documents }
      let isEmpty := match script with
        | .nothing => true
        | _ => false
      if !(← get).has 'n' then run ⟨tested, false⟩ script
      return (← runLines tested n rest) || !isEmpty

/-- Runs the text of a script; whether there was any command in it. -/
def runText (tested : Bool) (text : Octets) : Act Bool := run.runLines tested (text.length + 1) ⟨text, 1⟩

/-- Runs what a trap asks for. The status stays what it is. -/
def runAction (action : Octets) : Act Unit := do
  let status := (← get).status
  try
    let _ ← run.runText false action
    Act.finish status
  catch e =>
    if e = .exited none then Act.finish status
    throw e

/-- Notices the signals that have been sent to the shell. -/
def notice : Act Unit := do
  let s ← get
  if s.world.signals.isEmpty then return
  let mine := s.world.signals.filter (fun p => p.1 == s.process)
  set { s with world := { s.world with signals := s.world.signals.filter (fun p => p.1 != s.process) } }
  for (_, signal) in mine do
    match if signal = 9 then none else s.traps.find? (fun t => t.1 == signal) with
    | some (_, action) => if !action.isEmpty then run.runAction action
    | none => if Signal.ends signal then throw (.signalled signal)

/-- How something ends that the shell ends with. -/
def endingOf (act : Act Unit) : Act Ending := do
  try
    act
    return .status (← get).status
  catch e =>
    match e with
    | .signalled signal => return .signal signal
    | .exited (some status) =>
      Act.finish status
      return .status status
    | _ => return .status (← get).status

/-- Runs a shell to its end, and then what is to be run at its end. -/
def toEnd (act : Act Unit) : Act Ending := do
  match ← endingOf act with
  | .signal signal => return .signal signal
  | .status status =>
    let s ← get
    match s.traps.find? (fun t => t.1 == 0) with
    | none => return .status status
    | some (_, action) =>
      set { s with traps := s.traps.filter (fun t => t.1 != 0), command := none }
      endingOf (do
        try run.runAction action
        catch e => if e = .returned then Act.finish status else throw e)

/-- The memory of a shell that another one starts for a script. -/
def inherited (m : Memory) (process : Nat) (descriptors : Descriptors) : Memory :=
  { m with
    process := process
    descriptors := descriptors
    traps := m.traps.filter (fun t => t.2.isEmpty)
    ended := [] }

/-- Runs something with the memory and the working directory of another shell, whose jobs become orphans. -/
def inOther (memory : Memory) (working : Place) (act : Act Ending) : Act Ending := do
  let outer ← get
  let enter (w : World) (place : Place) : World := { w with tree := { w.tree with working := place } }
  set ({ memory with world := enter outer.world working, jobs := [] } : State)
  let ending ← act
  let inner ← get
  let world := enter (inner.world.forget inner.process) outer.world.tree.working
  set ({ outer with world := world, jobs := outer.jobs ++ inner.jobs.map (fun j => { j with orphaned := true }) } : State)
  return ending

/-- Runs a job, unless a signal ends it before. -/
def runJob (job : Job) : Act Ending :=
  inOther job.memory job.working (run.toEnd (do
    run.notice
    run ⟨false, true⟩ job.script))

/-- Runs the jobs that satisfy a condition, and those that they leave; no more than so many. -/
def runJobs (p : Job → Bool) : Nat → Act Unit
  | 0 => return ()
  | n + 1 => do
    let s ← get
    match s.jobs.find? p with
    | none => return ()
    | some job =>
      set { s with jobs := s.jobs.filter (fun j => j.process != job.process) }
      let ending ← run.runJob job
      modify fun s => { s with ended := (job.process, statusOf ending) :: s.ended }
      runJobs p n

/-- The most jobs that are run at once. -/
def mostJobs : Nat := 1000

/-- Runs all jobs. -/
def runAllJobs : Act Unit := run.runJobs (fun _ => true) mostJobs

/-- Says of a process that a signal ended it. -/
def announce : Ending → Act Unit
  | .signal signal => do
    if !Signal.isSilent signal then
      let _ ← Act.print 2 (Signal.description signal ++ "\n").toList
  | .status _ => return ()

/-- Runs something in a shell of its own. Its output has come to an end when its jobs have; `settles` asks to wait for that. -/
def inSubshell (settles : Bool) (descriptors : Descriptors) (act : Act Unit) : Act Ending := do
  let s ← get
  let (process, world) := s.world.start
  set { s with world := world }
  inOther (inherited s.toMemory process descriptors) world.tree.working (do
    let ending ← run.toEnd act
    if settles then run.runAllJobs
    return ending)

/-- What a script prints, without the line feeds at its end. -/
def capture (script : Script) : Act Octets := do
  let s ← get
  let (_, writer, pipe, world) := s.world.addPipe []
  set { s with world := world }
  let ending ← run.inSubshell true (s.descriptors.lead 1 writer) (run ⟨false, true⟩ script)
  announce ending
  modify fun s => { s with captured := some (statusOf ending) }
  let text := ((← get).world.contents pipe).filter (· != '\x00')
  return (text.reverse.dropWhile (· == '\n')).reverse

end Runner

end TracePlayer.Host.Shell
