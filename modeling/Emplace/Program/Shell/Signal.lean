import Emplace.Text.Numeral

namespace Emplace.Program.Signal

def freeNames : List String :=
  "RTMIN" :: (List.range 15).map (fun i => s!"RTMIN+{i + 1}") ++ (List.range 14).map (fun i => s!"RTMAX-{14 - i}") ++
    ["RTMAX"]

def names : List String :=
  ["HUP", "INT", "QUIT", "ILL", "TRAP", "ABRT", "BUS", "FPE", "KILL", "USR1", "SEGV", "USR2", "PIPE", "ALRM",
    "TERM", "16", "CHLD", "CONT", "STOP", "TSTP", "TTIN", "TTOU", "URG", "XCPU", "XFSZ", "VTALRM", "PROF",
    "WINCH", "IO", "PWR", "SYS", "32", "33"] ++ freeNames

def kill : Nat := 9

def terminate : Nat := 15

def last : Nat := 64

def ofText? (text : String) : Option Nat :=
  match Text.digits? text.toList with
  | some n => if n ≤ last then some n else none
  | none => (names.idxOf? (String.ofList (text.toList.map Char.toUpper))).map (· + 1)

def nameOf? (signal : Nat) : Option String := if signal = 0 then none else names[signal - 1]?

/-- Whether a program outlives a signal that it does nothing about: the question whether it is there, a change of its
children, going on, urgent input and a new size of the window. -/
def isOutlived (signal : Nat) : Bool := [0, 17, 18, 23, 28].contains signal

def obituary : Nat → Option String
  | 1 => some "Hangup"
  | 2 => none
  | 3 => some "Quit"
  | 4 => some "Illegal instruction"
  | 5 => some "Trace/breakpoint trap"
  | 6 => some "Aborted"
  | 7 => some "Bus error"
  | 8 => some "Floating point exception"
  | 9 => some "Killed"
  | 10 => some "User defined signal 1"
  | 11 => some "Segmentation fault"
  | 12 => some "User defined signal 2"
  | 13 => none
  | 14 => some "Alarm clock"
  | 15 => some "Terminated"
  | 16 => some "Stack fault"
  | 24 => some "CPU time limit exceeded"
  | 25 => some "File size limit exceeded"
  | 26 => some "Virtual timer expired"
  | 27 => some "Profiling timer expired"
  | 29 => some "I/O possible"
  | 30 => some "Power failure"
  | 31 => some "Bad system call"
  | n => some (if n < 34 then s!"Unknown signal {n}" else s!"Real-time signal {n - 34}")

def status (signal : Nat) : Nat := 128 + signal

end Emplace.Program.Signal
