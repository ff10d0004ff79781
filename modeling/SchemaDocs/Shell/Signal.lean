import SchemaDocs.Shell.ByteText
/-!
# Signals

What can be sent to a process, by number and by name.
-/

namespace SchemaDocs.Shell

namespace Signal

/-- The names of the signals from one on. -/
def names : List String :=
  ["HUP", "INT", "QUIT", "ILL", "TRAP", "ABRT", "BUS", "FPE", "KILL", "USR1", "SEGV", "USR2",
   "PIPE", "ALRM", "TERM", "STKFLT", "CHLD", "CONT", "STOP", "TSTP", "TTIN", "TTOU", "URG", "XCPU",
   "XFSZ", "VTALRM", "PROF", "WINCH", "IO", "PWR", "SYS"]

/-- The greatest number of a signal. -/
def greatest : Nat := 64

/-- The name of a signal. -/
def name? (signal : Nat) : Option String :=
  if signal = 0 then none else names[signal - 1]?

/-- The number of a signal with a name, in letters of any case. -/
def ofName? (name : ByteText) : Option Nat :=
  (names.findIdx? fun other => ascii other = name.map Char.toUpper).map (· + 1)

/-- What a shell says of a process that a signal ended.  Of some it says nothing. -/
def obituary (signal : Nat) : Option String :=
  match signal with
  | 1 => some "Hangup"
  | 2 => none
  | 3 => some "Quit"
  | 4 => some "Illegal instruction"
  | 5 => some "Trace/breakpoint trap"
  | 6 => some "Aborted"
  | 7 => some "Bus error"
  | 8 => some "Floating point exception"
  | 9 => some "Killed"
  | 10 => some "User defined signal 1"
  | 11 => some "Segmentation fault"
  | 12 => some "User defined signal 2"
  | 13 => none
  | 14 => some "Alarm clock"
  | 15 => some "Terminated"
  | 16 => some "Stack fault"
  | 24 => some "CPU time limit exceeded"
  | 25 => some "File size limit exceeded"
  | 26 => some "Virtual timer expired"
  | 27 => some "Profiling timer expired"
  | 29 => some "I/O possible"
  | 30 => some "Power failure"
  | 31 => some "Bad system call"
  | _ => none

/-- Whether a process that does not care for a signal goes on. -/
def isHarmless (signal : Nat) : Bool :=
  signal = 0 || signal = 17 || signal = 18 || signal = 23 || signal = 28

/-- Whether a signal makes a process wait until it is told to go on. -/
def stops (signal : Nat) : Bool := 19 ≤ signal && signal ≤ 22

/-- Whether a process cannot care for a signal. -/
def isFinal (signal : Nat) : Bool := signal = 9 || signal = 19

end Signal

end SchemaDocs.Shell
