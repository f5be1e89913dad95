/-!
# Faults of the host

What the operating system answers when a file cannot be read or created, a program cannot be started, or a pipe has no
reader.
-/

namespace TracePlayer.Host

/-- Why the host refused a request. -/
inductive Fault where
  | notFound
  | permissionDenied
  | notDirectory
  | isDirectory
  | brokenPipe
  | nameTooLong
  /-- A descriptor leads nowhere, or not in the wanted direction. -/
  | badDescriptor
  /-- A file name holds a NUL character. -/
  | nulInFileName
  /-- A program name or an argument holds a NUL character. -/
  | nulInProgram
  /-- The bytes of a file are not UTF-8. -/
  | notText
  deriving DecidableEq, Repr

namespace Fault

/-- The number that the operating system gives the fault, if it is one of its own. -/
def code? : Fault → Option Nat
  | notFound => some 2
  | permissionDenied => some 13
  | notDirectory => some 20
  | isDirectory => some 21
  | brokenPipe => some 32
  | nameTooLong => some 36
  | badDescriptor => some 9
  | nulInFileName => none
  | nulInProgram => none
  | notText => none

/-- The kind of the fault in one word. -/
def kind : Fault → String
  | notFound => "NotFound"
  | permissionDenied => "PermissionDenied"
  | notDirectory => "NotADirectory"
  | isDirectory => "IsADirectory"
  | brokenPipe => "BrokenPipe"
  | nameTooLong => "InvalidFilename"
  | badDescriptor => "Uncategorized"
  | nulInFileName => "InvalidInput"
  | nulInProgram => "InvalidInput"
  | notText => "InvalidData"

/-- The fault in words. -/
def reason : Fault → String
  | notFound => "No such file or directory"
  | permissionDenied => "Permission denied"
  | notDirectory => "Not a directory"
  | isDirectory => "Is a directory"
  | brokenPipe => "Broken pipe"
  | nameTooLong => "File name too long"
  | badDescriptor => "Bad file descriptor"
  | nulInFileName => "file name contained an unexpected NUL byte"
  | nulInProgram => "nul byte found in provided data"
  | notText => "stream did not contain valid UTF-8"

/-- The message of a fault: the words, and the number if there is one. -/
def message (f : Fault) : String :=
  match f.code? with
  | some code => s!"{f.reason} (os error {code})"
  | none => f.reason

/-- A fault in full, with the names of its parts. -/
def detail (f : Fault) : String :=
  match f.code? with
  | some code => s!"Os \x7b code: {code}, kind: {f.kind}, message: \"{f.reason}\" \x7d"
  | none => s!"Error \x7b kind: {f.kind}, message: \"{f.reason}\" \x7d"

end Fault

end TracePlayer.Host
