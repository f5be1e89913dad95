import TracePlayer.Host.Tree

/-!
# Files as the player sees them

`Folder` is what the player can ask about files: what is found at a path, and whether a file can be opened there for writing at
its end. `Folder.ofFiles` answers for a working directory that holds the files given and nothing else.
-/

namespace TracePlayer.Host

/-- What the player can ask about files. -/
structure Folder where
  find : String → Except Fault Node
  /-- Opens a log. It may be a new file, so the answer is what is found at paths from then on. -/
  openLog : String → Except Fault (String → Except Fault Node)

namespace Folder

/-- Whether there is anything at a path. -/
def hasPath (folder : Folder) (path : String) : Bool :=
  match folder.find path with
  | .ok _ => true
  | .error _ => false

/-- The text of a file. A program is no text. -/
def readText (folder : Folder) (path : String) : Except Fault String :=
  match folder.find path with
  | .error fault => .error fault
  | .ok .directory => .error .isDirectory
  | .ok (.program _) => .error .notText
  | .ok .void => .ok ""
  | .ok (.file contents) =>
    match String.fromUTF8? contents with
    | some text => .ok text
    | none => .error .notText

/-- What is found in a tree of files. -/
def findIn (t : Tree) (path : String) : Except Fault Node := t.find (Octets.ofString path)

/-- The files of a tree. -/
def ofTree (t : Tree) : Folder where
  find := findIn t
  openLog := fun path => (t.touch (Octets.ofString path)).map findIn

/-- A working directory that holds the given files and nothing else. -/
def ofFiles (files : List (String × ByteArray)) : Folder := ofTree (.ofFiles files)

end Folder

end TracePlayer.Host
