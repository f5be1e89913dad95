import TracePlayer.Host.Tree

/-!
# What processes share

The pipes between processes, the files they have open, the tree of files, and the signals on their way. A process holds its open
files by descriptors; several descriptors, of several processes, may lead to one open file.
-/

namespace TracePlayer.Host

/-- Bytes on their way from writers to readers. -/
structure Pipe where
  /-- What is read next. -/
  ready : Octets
  /-- What has been written since, the latest first. -/
  written : List Octets
  deriving DecidableEq, Repr

namespace Pipe

/-- All that can be read. -/
def contents (p : Pipe) : Octets := if p.written.isEmpty then p.ready else p.ready ++ p.written.reverse.flatten

/-- Writes. -/
def push (p : Pipe) (s : Octets) : Pipe := { p with written := s :: p.written }

/-- Passes over what has been read. -/
def drop (p : Pipe) (n : Nat) : Pipe := ⟨p.contents.drop n, []⟩

end Pipe

/-- What may be done with an open file. -/
structure Access where
  reads : Bool
  writes : Bool
  /-- Whether all is written at the end. -/
  appends : Bool
  deriving DecidableEq, Repr

/-- An open file. -/
inductive OpenFile where
  | void
  | directory
  | reader (pipe : Nat)
  | writer (pipe : Nat)
  | file (place : Place) (position : Nat) (access : Access)
  deriving DecidableEq, Repr

/-- What the descriptors of a process lead to: open files by their numbers. -/
abbrev Descriptors := List (Nat × Nat)

/-- What processes share. -/
structure World where
  pipes : Array Pipe
  opened : Array OpenFile
  tree : Tree
  /-- The processes that run, and those whose ends have not been noticed. -/
  processes : List Nat
  /-- The number of the last process. -/
  last : Nat
  /-- Signals that have not been noticed, with the processes that they are for. -/
  signals : List (Nat × Nat)

namespace Descriptors

/-- The open file of a descriptor. -/
def get? (fs : Descriptors) (descriptor : Nat) : Option Nat := (fs.find? (fun f => f.1 == descriptor)).map Prod.snd

/-- Closes a descriptor. -/
def close (fs : Descriptors) (descriptor : Nat) : Descriptors := fs.filter (fun f => f.1 != descriptor)

/-- Leads a descriptor to an open file. -/
def lead (fs : Descriptors) (descriptor file : Nat) : Descriptors := (descriptor, file) :: fs.close descriptor

end Descriptors

namespace World

/-- The number of the first process. -/
def firstProcess : Nat := 4194304

/-- A world with one process, whose descriptors lead to a pipe with its input, and to two pipes for what it prints. -/
def initial (tree : Tree) (input : Octets) : World :=
  ⟨#[⟨input, []⟩, ⟨[], []⟩, ⟨[], []⟩], #[.reader 0, .writer 1, .writer 2], tree, [firstProcess], firstProcess, []⟩

/-- The descriptors of the first process. -/
def standard : Descriptors := [(0, 0), (1, 1), (2, 2)]

/-- All that has been written to a pipe and not been read. -/
def contents (w : World) (pipe : Nat) : Octets := ((w.pipes[pipe]?).map Pipe.contents).getD []

/-- Opens a file. -/
def add (w : World) (f : OpenFile) : Nat × World := (w.opened.size, { w with opened := w.opened.push f })

/-- Makes a pipe: its reader, its writer, and the pipe. -/
def addPipe (w : World) (s : Octets) : Nat × Nat × Nat × World :=
  let pipe := w.pipes.size
  let (reader, w) := { w with pipes := w.pipes.push ⟨s, []⟩ }.add (.reader pipe)
  let (writer, w) := w.add (.writer pipe)
  (reader, writer, pipe, w)

/-- Puts text into other text from a position on. -/
def overlay (old : Octets) (position : Nat) (s : Octets) : Octets :=
  old.take position ++ List.replicate (position - old.length) '\x00' ++ s ++ old.drop (position + s.length)

/-- Writes to an open file. -/
def write (w : World) (file : Nat) (s : Octets) : Except Fault World :=
  match w.opened[file]? with
  | some .void => .ok w
  | some (.writer pipe) => .ok { w with pipes := w.pipes.modify pipe (Pipe.push · s) }
  | some (.file place position access) =>
    if access.writes then
      let old := Octets.ofContents (w.tree.contents place)
      let position := if access.appends then old.length else position
      .ok { w with
        tree := w.tree.put place (overlay old position s).contents
        opened := w.opened.modify file (fun _ => .file place (position + s.length) access) }
    else .error .badDescriptor
  | _ => .error .badDescriptor

/-- All that can be read from an open file. -/
def readable (w : World) (file : Nat) : Except Fault Octets :=
  match w.opened[file]? with
  | some .void => .ok []
  | some .directory => .error .isDirectory
  | some (.reader pipe) => .ok (w.contents pipe)
  | some (.file place position access) =>
    if access.reads then .ok ((Octets.ofContents (w.tree.contents place)).drop position) else .error .badDescriptor
  | _ => .error .badDescriptor

/-- Passes over what has been read from an open file. -/
def drop (w : World) (file n : Nat) : World :=
  match w.opened[file]? with
  | some (.reader pipe) => { w with pipes := w.pipes.modify pipe (Pipe.drop · n) }
  | some (.file place position access) =>
    { w with opened := w.opened.modify file (fun _ => .file place (position + n) access) }
  | _ => w

/-- Reads all that is left in an open file. -/
def readAll (w : World) (file : Nat) : Except Fault (Octets × World) :=
  (w.readable file).map (fun s => (s, w.drop file s.length))

/-- The descriptor that a path in the directory of devices stands for. -/
def descriptorAt? (path : Octets) : Option Nat :=
  match String.ofList path with
  | "/dev/stdin" => some 0
  | "/dev/stdout" => some 1
  | "/dev/stderr" => some 2
  | _ =>
    ["/dev/fd/", "/proc/self/fd/"].findSome? fun d =>
      match path.drop d.length with
      | [c] => if d.toList.isPrefixOf path ∧ c.isDigit then some (c.toNat - '0'.toNat) else none
      | _ => none

/-- Opens the file at a path. It is made if it is to be written; `clears` asks for an empty one. -/
def openAt (w : World) (fs : Descriptors) (path : Octets) (access : Access) (clears : Bool) : Except Fault (Nat × World) :=
  match descriptorAt? path with
  | some d =>
    match fs.get? d with
    | some file => .ok (file, w)
    | none => .error .notFound
  | none =>
    if access.writes then do
      let place ← w.tree.placeToWrite path
      match w.tree.node? place with
      | some .void => return w.add .void
      | _ =>
        let contents := if clears then .empty else w.tree.contents place
        return { w with tree := w.tree.put place contents }.add (.file place 0 access)
    else
      (w.tree.walk path).map fun spot => match spot with
        | (_, .directory) => w.add .directory
        | (_, .void) => w.add .void
        | (place, _) => w.add (.file place 0 access)

/-- The access of a file that is only read. -/
def reading : Access := ⟨true, false, false⟩

/-- Starts a process; its number. -/
def start (w : World) : Nat × World := (w.last + 1, { w with last := w.last + 1, processes := (w.last + 1) :: w.processes })

/-- Forgets a process. -/
def forget (w : World) (process : Nat) : World := { w with processes := w.processes.filter (· != process) }

end World

/-- How a process ended: with a status, or by a signal. -/
inductive Ending where
  | status (n : Nat)
  | signal (n : Nat)
  deriving DecidableEq, Repr

end TracePlayer.Host
