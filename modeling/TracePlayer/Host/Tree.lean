import TracePlayer.Host.Fault
import TracePlayer.Host.Octets
import TracePlayer.Text.Lines

/-!
# The tree of files

The directories that every host has, with the programs in one of them, and a working directory that at first holds only the
files it is given. A path is walked name by name, from the root or from the working directory. What it leads to is known by its
place, so two paths to one place find the same file.
-/

namespace TracePlayer.Host

/-- What is found at a path. -/
inductive Node where
  | directory
  | file (contents : ByteArray)
  /-- A program that can be started. -/
  | program (name : String)
  /-- A file that is always empty, and forgets what is written to it. -/
  | void

/-- A place in the tree: the names that lead to it from the root, the last one first. -/
abbrev Place := List Octets

/-- The files of a host that are not the same on every host, and its working directory. -/
structure Tree where
  working : Place
  files : List (Place × ByteArray)
  /-- The directories that have been made. -/
  made : List Place

namespace Tree

/-- The names of the programs. -/
def programs : List String :=
  ["sh", "dash", "cat", "echo", "printf", "true", "false", "sleep", "head", "tail", "wc", "seq", "tee", "basename", "dirname",
    "rev", "tac", "tr", "yes"]

/-- The directories that every host has, by the names that lead to them. -/
def standard : List (List String) :=
  [[], ["boot"], ["dev"], ["dev", "pts"], ["dev", "shm"], ["etc"], ["home"], ["media"], ["mnt"], ["opt"], ["proc"],
    ["proc", "self"], ["proc", "self", "fd"], ["root"], ["run"], ["srv"], ["sys"], ["tmp"], ["usr"], ["usr", "bin"],
    ["usr", "include"], ["usr", "lib"], ["usr", "lib64"], ["usr", "local"], ["usr", "local", "bin"], ["usr", "sbin"],
    ["usr", "share"], ["usr", "src"], ["var"], ["var", "cache"], ["var", "lib"], ["var", "log"], ["var", "tmp"]]

/-- The names that stand for what is found elsewhere, and where: the programs, and the streams of whatever runs. -/
def links : List (List String × List String) :=
  [(["bin"], ["usr", "bin"]), (["lib"], ["usr", "lib"]), (["lib64"], ["usr", "lib64"]), (["sbin"], ["usr", "sbin"]),
    (["dev", "fd"], ["proc", "self", "fd"]), (["dev", "stdin"], ["proc", "self", "fd", "0"]),
    (["dev", "stdout"], ["proc", "self", "fd", "1"]), (["dev", "stderr"], ["proc", "self", "fd", "2"])]

/-- The place that names lead to from the root. -/
def placeOf (names : List String) : Place := (names.map String.toList).reverse

/-- A working directory that holds the given files, and nothing else that is not on every host. -/
def ofFiles (files : List (String × ByteArray)) : Tree :=
  let working := placeOf ["tmp", "work"]
  ⟨working, files.map (fun f => (Octets.ofString f.1 :: working, f.2)), []⟩

/-- The text files that every host has. -/
def known : List (List String × String) :=
  [(["etc", "passwd"], "root:x:0:0:root:/root:/bin/bash\n"), (["etc", "group"], "root:x:0:\n"),
    (["etc", "shadow"], "root:*:1:0:99999:7:::\n"), (["etc", "hosts"], "127.0.0.1\tlocalhost\n"),
    (["etc", "hostname"], "localhost\n"), (["etc", "resolv.conf"], "nameserver 127.0.0.1\n"),
    (["etc", "shells"], "/bin/sh\n/bin/dash\n"), (["etc", "os-release"], "ID=linux\n"), (["etc", "fstab"], "# none\n"),
    (["proc", "version"], "Linux version\n"), (["proc", "cpuinfo"], "processor\t: 0\n"), (["proc", "meminfo"], "MemFree: 0 kB\n"),
    (["proc", "mounts"], "proc /proc proc rw 0 0\n"), (["proc", "uptime"], "1.00 1.00\n"),
    (["proc", "loadavg"], "0.00 0.00 0.00 1/1 1\n"), (["proc", "self", "status"], "State:\tR (running)\n")]

/-- The files that are always empty, and forget what is written to them. The streams of a program that nobody types to are
among them. -/
def voids : List (List String) :=
  [["dev", "null"], ["dev", "zero"], ["dev", "full"], ["dev", "random"], ["dev", "urandom"], ["proc", "self", "fd", "0"],
    ["proc", "self", "fd", "1"], ["proc", "self", "fd", "2"]]

/-- Why no file can be made in a directory: what is below `proc` and `sys` is not for a program to choose. -/
def refusal? (directory : Place) : Option Fault :=
  if directory.getLast? = some "proc".toList then some .notFound
  else if directory.getLast? = some "sys".toList then some .permissionDenied
  else none

/-- What is at a place. -/
def node? (t : Tree) (place : Place) : Option Node :=
  if place = t.working ∨ t.made.contains place ∨ (standard.map placeOf).contains place then some .directory
  else
    match t.files.find? (fun f => f.1 == place) with
    | some f => some (.file f.2)
    | none =>
      if (voids.map placeOf).contains place then some .void
      else
        match known.find? (fun f => placeOf f.1 == place) with
        | some f => some (.file f.2.toUTF8)
        | none => (programs.find? (fun p => placeOf ["usr", "bin", p] == place)).map Node.program

/-- The place of a name in a directory. -/
def child (directory : Place) (name : Octets) : Place :=
  ((links.find? (fun l => placeOf l.1 == name :: directory)).map (fun l => placeOf l.2)).getD (name :: directory)

/-- A place that has been reached, and what is there. -/
abbrev Spot := Place × Node

/-- One name further along a path. -/
def enter (t : Tree) (spot : Spot) (name : Octets) : Except Fault Spot :=
  match spot with
  | (place, .directory) =>
    if name = [] ∨ name = ['.'] then .ok spot
    else if name = ['.', '.'] then .ok (place.tail, .directory)
    else if 255 < name.length then .error .nameTooLong
    else
      match t.node? (child place name) with
      | some node => .ok (child place name, node)
      | none => .error .notFound
  | _ => .error .notDirectory

/-- The names between the slashes of a path. -/
def names (path : Octets) : List Octets := Text.splitAt '/' path

/-- Where the walk along a path starts, unless no path is that short, that long, or holds such a character. -/
def start (t : Tree) (path : Octets) : Except Fault Spot :=
  if path.isEmpty then .error .notFound
  else if path.contains '\x00' then .error .nulInFileName
  else if 4096 ≤ path.length then .error .nameTooLong
  else .ok (if path.head? = some '/' then [] else t.working, .directory)

/-- Walks along a path. -/
def walk (t : Tree) (path : Octets) : Except Fault Spot :=
  (t.start path).bind (fun spot => (names path).foldlM t.enter spot)

/-- What is found at a path. -/
def find (t : Tree) (path : Octets) : Except Fault Node := (t.walk path).map Prod.snd

/-- The names of a path without the slashes at its end, and whether there were any. -/
def trailing (path : Octets) : List Octets × Bool :=
  match (names path).reverse with
  | [] :: rest => ((rest.dropWhile List.isEmpty).reverse, true)
  | all => (all.reverse, false)

/-- The place of a file that is to be written, which need not be there yet, given where the walk to its directory ends. -/
def target (t : Tree) (spot : Spot) (name : Octets) (slash : Bool) : Except Fault Place :=
  match spot with
  | (place, .directory) =>
    if slash ∨ name = ['.'] ∨ name = ['.', '.'] then .error .isDirectory
    else
      match t.enter spot name with
      | .error .notFound =>
        match refusal? place with
        | some fault => .error fault
        | none => .ok (child place name)
      | .error fault => .error fault
      | .ok (_, .directory) => .error .isDirectory
      | .ok (place, _) => .ok place
  | _ => .error .notDirectory

/-- The place of a file that is to be opened for writing at a path. -/
def placeToWrite (t : Tree) (path : Octets) : Except Fault Place := do
  let spot ← t.start path
  let (names, slash) := trailing path
  let directory ← names.dropLast.foldlM t.enter spot
  match names.getLast? with
  | none => .error .isDirectory
  | some name => t.target directory name slash

/-- Puts contents into a file. What forgets all that is written to it, and a program, stay what they are. -/
def put (t : Tree) (place : Place) (contents : ByteArray) : Tree :=
  let others := t.files.filter (fun f => f.1 != place)
  match t.node? place with
  | some .directory => t
  | some .void => t
  | some (.program _) => t
  | _ => { t with files := (place, contents) :: others }

/-- The names in a directory. -/
def namesIn (t : Tree) (place : Place) : List Octets :=
  let places := t.working :: t.made ++ t.files.map Prod.fst ++ standard.map placeOf ++ voids.map placeOf ++
    programs.map (fun p => placeOf ["usr", "bin", p]) ++ known.map (fun f => placeOf f.1)
  ((links.map (fun l => placeOf l.1) ++ places).filter (fun p => p.tail = place)).filterMap List.head? |>.eraseDups

/-- The contents of a file; nothing where there is none. -/
def contents (t : Tree) (place : Place) : ByteArray :=
  match t.node? place with
  | some (.file contents) => contents
  | _ => .empty

/-- Opens a file for writing at its end: an empty one is made when there is none. -/
def touch (t : Tree) (path : Octets) : Except Fault Tree :=
  (t.placeToWrite path).map (fun place => t.put place (t.contents place))

end Tree

/-! ## Programs -/

/-- The program at a path, given what is found at paths. What is no program may not be executed. -/
def programAt (find : Octets → Except Fault Node) (path : Octets) : Except Fault String :=
  match find path with
  | .ok (.program name) => .ok name
  | .ok _ => .error .permissionDenied
  | .error fault => .error fault

/-- The first of several faults that tells more than that there is nothing. -/
def gravest : List Fault → Fault
  | [] => .notFound
  | f :: rest => if f = .notFound ∨ f = .notDirectory then gravest rest else f

/-- The fault of an answer. -/
def faultOf? {α : Type} : Except Fault α → Option Fault
  | .error fault => some fault
  | .ok _ => none

/-- The program of a name, and its path. A name with a slash is a path, and any other is looked for in directories. -/
def searchProgram (find : Octets → Except Fault Node) (directories : List Octets) (name : Octets) :
    Except Fault (Octets × String) :=
  if name.contains '/' then (programAt find name).map (name, ·)
  else if name.isEmpty then .error .notFound
  else
    let paths := directories.map (fun d => if d.isEmpty then name else d ++ '/' :: name)
    match paths.findSome? (fun p => (programAt find p).toOption.map (p, ·)) with
    | some found => .ok found
    | none => .error (gravest (paths.filterMap (fun p => faultOf? (programAt find p))))

/-- The directories in which programs are looked for when nothing else is said. -/
def usualDirectories : List Octets :=
  ["/usr/local/sbin", "/usr/local/bin", "/usr/sbin", "/usr/bin", "/sbin", "/bin"].map String.toList

end TracePlayer.Host
