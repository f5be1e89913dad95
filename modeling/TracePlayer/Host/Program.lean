import TracePlayer.Host.Folder
import TracePlayer.Host.Shell.Run

/-!
# Programs

The answer to an attempt to start a program, and what is left of a program when it has run. A program named by a path is looked for at
that path, and any other by its name; none of the files of a working directory may be executed.
-/

namespace TracePlayer.Host

/-- What is left of a process that has ended: what it printed, what it reported, and its exit status unless it was killed. -/
structure Remains where
  output : Octets
  errors : Octets
  status : Option Int
  deriving DecidableEq, Repr

/-- The exit status of a process that was not killed. -/
def Ending.status? : Ending → Option Int
  | .status n => some ((n % 256 : Nat) : Int)
  | .signal _ => none

/-- Runs a program that was started under a name, with arguments and an input, among the files of a tree. -/
def runProgram (tree : Tree) (program name : String) (arguments : List String) (input : Octets) : Remains :=
  let world := World.initial tree input
  let (ending, world) := Shell.start world program (.ofString name) (arguments.map Octets.ofString)
  ⟨world.contents 1, world.contents 2, ending.status?⟩

/-- The host's answer to an attempt to start a program, given what it finds at paths: which program it is. -/
def tryLaunch (folder : Folder) (program : String) (arguments : List String) : Except Fault String :=
  let find (path : Octets) : Except Fault Node := (Octets.text? path).elim (.error .notFound) folder.find
  if (program :: arguments).any (fun s => s.toList.contains '\x00') then .error .nulInProgram
  else (searchProgram find usualDirectories (.ofString program)).map Prod.snd

end TracePlayer.Host
