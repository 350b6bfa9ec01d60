/-!
Signals: their names, the wording by which a shell tells that one has ended a process, and which of them
do so.
-/

namespace ServerTrials.Client

/-- A signal that has a name. -/
structure Signal where
  number : Nat
  name : String
  wording : String
  deriving DecidableEq, Repr

namespace Signal

/-- The named signals in the order of their numbers. -/
def all : List Signal :=
  [⟨1, "HUP", "Hangup"⟩, ⟨2, "INT", "Interrupt"⟩, ⟨3, "QUIT", "Quit"⟩,
    ⟨4, "ILL", "Illegal instruction"⟩, ⟨5, "TRAP", "Trace/breakpoint trap"⟩, ⟨6, "ABRT", "Aborted"⟩,
    ⟨7, "BUS", "Bus error"⟩, ⟨8, "FPE", "Floating point exception"⟩, ⟨9, "KILL", "Killed"⟩,
    ⟨10, "USR1", "User defined signal 1"⟩, ⟨11, "SEGV", "Segmentation fault"⟩,
    ⟨12, "USR2", "User defined signal 2"⟩, ⟨13, "PIPE", "Broken pipe"⟩, ⟨14, "ALRM", "Alarm clock"⟩,
    ⟨15, "TERM", "Terminated"⟩, ⟨16, "STKFLT", "Stack fault"⟩, ⟨17, "CHLD", "Child exited"⟩,
    ⟨18, "CONT", "Continued"⟩, ⟨19, "STOP", "Stopped (signal)"⟩, ⟨20, "TSTP", "Stopped"⟩,
    ⟨21, "TTIN", "Stopped (tty input)"⟩, ⟨22, "TTOU", "Stopped (tty output)"⟩,
    ⟨23, "URG", "Urgent I/O condition"⟩, ⟨24, "XCPU", "CPU time limit exceeded"⟩,
    ⟨25, "XFSZ", "File size limit exceeded"⟩, ⟨26, "VTALRM", "Virtual timer expired"⟩,
    ⟨27, "PROF", "Profiling timer expired"⟩, ⟨28, "WINCH", "Window changed"⟩,
    ⟨29, "IO", "I/O possible"⟩, ⟨30, "PWR", "Power failure"⟩, ⟨31, "SYS", "Bad system call"⟩]

/-- The signal with that number, if it has a name. -/
def ofNumber? (n : Nat) : Option Signal := all.find? (·.number == n)

/-- The signal with that name. -/
def ofName? (name : String) : Option Signal := all.find? (·.name == name)

/-- The largest number of a signal. -/
def largest : Nat := 64

/-- The signals that do not end a process by themselves. -/
def harmless : List Nat := [0, 17, 18, 19, 20, 21, 22, 23, 28]

/-- The signals that nobody can catch. -/
def uncatchable : List Nat := [9, 19]

/-- The wording by which a shell tells that a signal has ended a process. -/
def wordingOf (n : Nat) : String :=
  match ofNumber? n with
  | some s => s.wording
  | none => if 34 ≤ n then "Real-time signal " ++ toString (n - 34) else "Unknown signal " ++ toString n

end Signal
end ServerTrials.Client
