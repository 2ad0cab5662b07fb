import Modlet.Text.Integer

/-!
# Signals

Signals have numbers and names. Most end the process that they are sent to.
-/

namespace Modlet.Signal

/-- The names of signals, from one on. -/
def names : List String :=
  ["HUP", "INT", "QUIT", "ILL", "TRAP", "ABRT", "BUS", "FPE", "KILL", "USR1", "SEGV", "USR2",
    "PIPE", "ALRM", "TERM", "16", "CHLD", "CONT", "STOP", "TSTP", "TTIN", "TTOU", "URG",
    "XCPU", "XFSZ", "VTALRM", "PROF", "WINCH", "IO", "PWR", "SYS", "32", "33", "RTMIN"]
    ++ (List.range 15).map (fun n => "RTMIN+" ++ (n + 1).repr)
    ++ (List.range 14).reverse.map (fun n => "RTMAX-" ++ (n + 1).repr)
    ++ ["RTMAX"]

/-- The number of signals, and one more. -/
def bound : Nat := 65

/-- What is told when a signal has ended a command. -/
def description (number : Nat) : String :=
  let known := ["Hangup", "Interrupt", "Quit", "Illegal instruction", "Trace/breakpoint trap",
    "Aborted", "Bus error", "Floating point exception", "Killed", "User defined signal 1",
    "Segmentation fault", "User defined signal 2", "Broken pipe", "Alarm clock", "Terminated",
    "Stack fault", "Child exited", "Continued", "Stopped (signal)", "Stopped",
    "Stopped (tty input)", "Stopped (tty output)", "Urgent I/O condition",
    "CPU time limit exceeded", "File size limit exceeded", "Virtual timer expired",
    "Profiling timer expired", "Window changed", "I/O possible", "Power failure",
    "Bad system call"]
  match number with
  | 0 => "Unknown signal 0"
  | n + 1 =>
    match known[n]? with
    | some text => text
    | none => if n < 33 then "Unknown signal " ++ (n + 1).repr
      else "Real-time signal " ++ (n - 33).repr

/-- The name of a signal. -/
def name (number : Nat) : String :=
  match number with
  | 0 => "EXIT"
  | n + 1 => names[n]?.getD ""

/-- The signal that a text names, by its number or by its name in any case. -/
def ofText? (least : Nat) (text : String) : Option Nat :=
  if text ≠ "" && text.toList.all Char.isDigit then
    let n := Integer.digitsValue 10 text.toList
    if n < bound then some n else none
  else
    (List.range bound).find? fun n =>
      n ≥ least && (name n).toList = text.toList.map Char.toUpper

/-- The signal that a process gets when one that it has begun ends. -/
def childEnded : Nat := 17

/-- Whether a signal makes no difference to a process that is not prepared for it. -/
def isHarmless (number : Nat) : Bool := [17, 18, 23, 28].contains number

/-- Whether a process can do anything about a signal. -/
def isCertain (number : Nat) : Bool := number = 9 || number = 19

end Modlet.Signal
