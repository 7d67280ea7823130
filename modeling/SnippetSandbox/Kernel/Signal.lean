import SnippetSandbox.Text.Digits

/-!
# Signals

Signals have numbers, names and descriptions.  Most of them end a process that
does nothing about them.
-/

namespace SnippetSandbox.Kernel.Signal

open Text

/-- The names from zero on; zero stands for the end of a script. -/
def named : List String :=
  ["EXIT", "HUP", "INT", "QUIT", "ILL", "TRAP", "ABRT", "BUS", "FPE", "KILL", "USR1", "SEGV",
    "USR2", "PIPE", "ALRM", "TERM", "16", "CHLD", "CONT", "STOP", "TSTP", "TTIN", "TTOU", "URG",
    "XCPU", "XFSZ", "VTALRM", "PROF", "WINCH", "IO", "PWR", "SYS", "32", "33", "RTMIN"] ++
    (List.range 15).map (fun place => "RTMIN+" ++ decimal (place + 1)) ++
    (List.range 14).map (fun place => "RTMAX-" ++ decimal (14 - place)) ++ ["RTMAX"]

/-- How many signals there are, zero among them. -/
def count : Nat := 65

def name (signal : Nat) : String := (named[signal]?).getD (decimal signal)

/-- The signal of a number or a name, the one for the end among them. -/
def ofText? (text : String) : Option Nat :=
  if text ≠ "" && text.toList.all Char.isDigit then
    if number text.toList < count then some (number text.toList) else none
  else
    let upper := text.map Char.toUpper
    named.findIdx? (· = upper)

def kill : Nat := 9

def memory : Nat := 11

def pipe : Nat := 13

def child : Nat := 17

def resume : Nat := 18

/-- The signals that end nothing unless something is done on them. -/
def harmless : List Nat := [0, 17, 18, 23, 28]

def halting : List Nat := [19, 20, 21, 22]

def unstoppable : List Nat := [9, 19]

def ignoredBehind : List Nat := [2, 3]

def descriptions : Array String :=
  #["Hangup", "Interrupt", "Quit", "Illegal instruction", "Trace/breakpoint trap", "Aborted",
    "Bus error", "Floating point exception", "Killed", "User defined signal 1",
    "Segmentation fault", "User defined signal 2", "Broken pipe", "Alarm clock", "Terminated",
    "Stack fault", "Child exited", "Continued", "Stopped (signal)", "Stopped",
    "Stopped (tty input)", "Stopped (tty output)", "Urgent I/O condition",
    "CPU time limit exceeded", "File size limit exceeded", "Virtual timer expired",
    "Profiling timer expired", "Window changed", "I/O possible", "Power failure",
    "Bad system call"]

def description (signal : Nat) : String :=
  match descriptions[signal - 1]? with
  | some text => text
  | none =>
      if 34 ≤ signal then "Real-time signal " ++ decimal (signal - 34)
      else "Unknown signal " ++ decimal signal

end SnippetSandbox.Kernel.Signal
