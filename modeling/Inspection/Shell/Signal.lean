import Inspection.Shell.Number

/-!
# Shell — Signals

Signals have numbers and names; the first one stands for the end of the shell.

* `Signal.read?`: the signal that a text names.
-/

namespace Inspection.Shell.Signal

/-- The signals and what is told of a command that one of them has ended, from zero on.  The first
one without a name of its own is called by its number. -/
def table : List (String × String) :=
  [("EXIT", ""), ("HUP", "Hangup"), ("INT", "Interrupt"), ("QUIT", "Quit"),
    ("ILL", "Illegal instruction"), ("TRAP", "Trace/breakpoint trap"), ("ABRT", "Aborted"),
    ("BUS", "Bus error"), ("FPE", "Floating point exception"), ("KILL", "Killed"),
    ("USR1", "User defined signal 1"), ("SEGV", "Segmentation fault"),
    ("USR2", "User defined signal 2"), ("PIPE", "Broken pipe"), ("ALRM", "Alarm clock"),
    ("TERM", "Terminated"), ("16", "Stack fault"), ("CHLD", "Child exited"),
    ("CONT", "Continued"), ("STOP", "Stopped (signal)"), ("TSTP", "Stopped"),
    ("TTIN", "Stopped (tty input)"), ("TTOU", "Stopped (tty output)"),
    ("URG", "Urgent I/O condition"), ("XCPU", "CPU time limit exceeded"),
    ("XFSZ", "File size limit exceeded"), ("VTALRM", "Virtual timer expired"),
    ("PROF", "Profiling timer expired"), ("WINCH", "Window changed"), ("IO", "I/O possible"),
    ("PWR", "Power failure"), ("SYS", "Bad system call")]

/-- The first and the last of the signals that are numbered among themselves. -/
def realTime : Nat × Nat := (34, 64)

/-- How many signals there are, those without a name being counted. -/
def count : Nat := 65

/-- The signal that is sent unless another one is named. -/
def usual : Nat := 15

/-- The name of a signal. -/
def name (n : Nat) : String :=
  let (first, last) := realTime
  let apart (mark : String) (k : Nat) : String := if k = 0 then "" else mark ++ Text.natText k
  match table[n]? with
  | some (name, _) => name
  | none =>
    if n < first || last < n then Text.natText n
    else if n ≤ (first + last) / 2 then "RTMIN" ++ apart "+" (n - first)
    else "RTMAX" ++ apart "-" (last - n)

/-- The signal that a text names, by its number or in letters of any case; the end of the shell only
where it may be one. -/
def read? (withEnd : Bool) (s : String) : Option Nat :=
  match Text.ofDigits? s.toList with
  | some n => if n < count then some n else none
  | none =>
    let upper := String.ofList (s.toList.map Char.toUpper)
    ((List.range count).find? fun n => name n == upper).filter fun n => withEnd || n != 0

/-- The signal does nothing to a shell that has no use for it. -/
def isHarmless (n : Nat) : Bool := [0, 17, 18, 23, 28].contains n

/-- The signal halts a shell. -/
def isHalting (n : Nat) : Bool := [19, 20, 21, 22].contains n

/-- What a signal is called where commands are listed that it has ended. -/
def title (n : Nat) : String :=
  match table[n]? with
  | some (_, title) => title
  | none =>
    if realTime.1 ≤ n then "Real-time signal " ++ Text.natText (n - realTime.1)
    else "Unknown signal " ++ Text.natText n

/-- What is told of a command that a signal has ended; nothing of some. -/
def obituary (n : Nat) : Option String := if [0, 2, 13].contains n then none else some (title n)

end Inspection.Shell.Signal
