import TracePlayer.Host.Octets

/-!
# Signals

What can be sent to a process to interrupt it, by number.
-/

namespace TracePlayer.Host.Signal

/-- The signals in the order of their numbers, from one on: a name, and what is said of a process that one of them ended. -/
def all : List (String × String) :=
  [("HUP", "Hangup"), ("INT", "Interrupt"), ("QUIT", "Quit"), ("ILL", "Illegal instruction"),
    ("TRAP", "Trace/breakpoint trap"), ("ABRT", "Aborted"), ("BUS", "Bus error"), ("FPE", "Floating point exception"),
    ("KILL", "Killed"), ("USR1", "User defined signal 1"), ("SEGV", "Segmentation fault"),
    ("USR2", "User defined signal 2"), ("PIPE", "Broken pipe"), ("ALRM", "Alarm clock"), ("TERM", "Terminated"),
    ("STKFLT", "Stack fault"), ("CHLD", "Child exited"), ("CONT", "Continued"), ("STOP", "Stopped (signal)"),
    ("TSTP", "Stopped"), ("TTIN", "Stopped (tty input)"), ("TTOU", "Stopped (tty output)"), ("URG", "Urgent I/O condition"),
    ("XCPU", "CPU time limit exceeded"), ("XFSZ", "File size limit exceeded"), ("VTALRM", "Virtual timer expired"),
    ("PROF", "Profiling timer expired"), ("WINCH", "Window changed"), ("IO", "I/O possible"), ("PWR", "Power failure"),
    ("SYS", "Bad system call")]

/-- The number of a signal that is named, in letters of either case. -/
def ofName? (name : Octets) : Option Nat :=
  ((all.map Prod.fst).findIdx? (fun n => n.toList == name.map Char.toUpper)).map (· + 1)

/-- The name of a signal. -/
def name? (signal : Nat) : Option String := if signal = 0 then none else (all[signal - 1]?).map Prod.fst

/-- What is said of a process that a signal ended. -/
def description (signal : Nat) : String := ((all[signal - 1]?).map Prod.snd).getD s!"Unknown signal {signal}"

/-- Whether a signal ends a process that does not mind it. -/
def ends (signal : Nat) : Bool := 0 < signal && !([17, 18, 19, 20, 21, 22, 23, 28].contains signal)

/-- Whether the end of a process by a signal goes without saying. -/
def isSilent (signal : Nat) : Bool := signal == 2 || signal == 13

/-- What is added to the number of a signal in the status of the process that it ended. -/
def statusBase : Nat := 128

end TracePlayer.Host.Signal
