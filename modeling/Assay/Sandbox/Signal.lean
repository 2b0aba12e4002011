/-! # Signals

The signals a process can be sent, by number.  Most of them end a process that
has not said otherwise.
-/

namespace Assay.Sandbox.Signal

/-- The names of the signals, from number one on. -/
def names : List String :=
  ["HUP", "INT", "QUIT", "ILL", "TRAP", "ABRT", "BUS", "FPE", "KILL", "USR1", "SEGV", "USR2", "PIPE",
    "ALRM", "TERM", "16", "CHLD", "CONT", "STOP", "TSTP", "TTIN", "TTOU", "URG", "XCPU", "XFSZ",
    "VTALRM", "PROF", "WINCH", "IO", "PWR", "SYS"]

/-- The greatest number of a signal. -/
def last : Nat := 64

/-- The signals for use in real time, numbers 32 and 33 being withheld. -/
def realTimeName (n : Nat) : String :=
  if n < 34 then toString n
  else if n = 34 then "RTMIN"
  else if n < 50 then "RTMIN+" ++ toString (n - 34)
  else if n < last then "RTMAX-" ++ toString (last - n)
  else "RTMAX"

/-- The name of a signal; zero stands for the end of the shell. -/
def name (n : Nat) : String :=
  if n = 0 then "EXIT"
  else if n ≤ names.length then names[n - 1]?.getD ""
  else realTimeName n

/-- What the end by a signal is called, from number one on. -/
def descriptions : List String :=
  ["Hangup", "Interrupt", "Quit", "Illegal instruction", "Trace/breakpoint trap", "Aborted",
    "Bus error", "Floating point exception", "Killed", "User defined signal 1", "Segmentation fault",
    "User defined signal 2", "Broken pipe", "Alarm clock", "Terminated", "Stack fault",
    "Child exited", "Continued", "Stopped (signal)", "Stopped", "Stopped (tty input)",
    "Stopped (tty output)", "Urgent I/O condition", "CPU time limit exceeded",
    "File size limit exceeded", "Virtual timer expired", "Profiling timer expired", "Window changed",
    "I/O possible", "Power failure", "Bad system call"]

/-- What the end by a signal is called. -/
def describe (n : Nat) : String :=
  if 0 < n && n ≤ descriptions.length then descriptions[n - 1]?.getD ""
  else if 34 ≤ n && n ≤ last then "Real-time signal " ++ toString (n - 34)
  else "Unknown signal " ++ toString n

def hangup : Nat := 1
def interrupt : Nat := 2
def quit : Nat := 3
def kill : Nat := 9
def segmentation : Nat := 11
def brokenPipe : Nat := 13
def terminate : Nat := 15
def child : Nat := 17
def continue_ : Nat := 18
def stop : Nat := 19

/-- Nothing happens to a process that has said nothing about the signal. -/
def isHarmless (n : Nat) : Bool := [child, continue_, 23, 28].contains n

/-- The signal halts a process instead of ending it. -/
def halts (n : Nat) : Bool := [stop, 20, 21, 22].contains n

/-- No process can have a say about the signal. -/
def isUnconditional (n : Nat) : Bool := n = kill || n = stop

end Assay.Sandbox.Signal
