namespace PatchSearch.Shell.Signal

/-- Names from number one on; those without a name have their number. -/
def names : List String :=
  ["HUP", "INT", "QUIT", "ILL", "TRAP", "ABRT", "BUS", "FPE", "KILL", "USR1", "SEGV", "USR2", "PIPE",
    "ALRM", "TERM", "16", "CHLD", "CONT", "STOP", "TSTP", "TTIN", "TTOU", "URG", "XCPU", "XFSZ", "VTALRM",
    "PROF", "WINCH", "IO", "PWR", "SYS", "32", "33", "RTMIN", "RTMIN+1", "RTMIN+2", "RTMIN+3", "RTMIN+4",
    "RTMIN+5", "RTMIN+6", "RTMIN+7", "RTMIN+8", "RTMIN+9", "RTMIN+10", "RTMIN+11", "RTMIN+12",
    "RTMIN+13", "RTMIN+14", "RTMIN+15", "RTMAX-14", "RTMAX-13", "RTMAX-12", "RTMAX-11", "RTMAX-10",
    "RTMAX-9", "RTMAX-8", "RTMAX-7", "RTMAX-6", "RTMAX-5", "RTMAX-4", "RTMAX-3", "RTMAX-2", "RTMAX-1",
    "RTMAX"]

/-- The name of a signal; the end of a shell counts as number zero. -/
def name (n : Nat) : String :=
  if n = 0 then "EXIT" else (names[n - 1]?).getD (toString n)

def number? (s : String) : Option Nat :=
  if s ≠ "" ∧ s.toList.all Char.isDigit then
    let n := s.toList.foldl (fun n c => n * 10 + (c.toNat - 48)) 0
    if n ≤ 64 then some n else none
  else
    let wanted := s.toList.map Char.toUpper
    if wanted = "EXIT".toList then some 0
    else (names.findIdx? fun n => n.toList = wanted).map (· + 1)

def child : Nat := 17

/-- Signals that do nothing to a program that has not asked for them. -/
def isHarmless (n : Nat) : Bool :=
  [0, 17, 18, 23, 28].contains n

/-- What is said about a program that a signal ended; about some nothing. -/
def words (n : Nat) : String :=
  match n with
  | 1 => "Hangup"
  | 3 => "Quit"
  | 4 => "Illegal instruction"
  | 5 => "Trace/breakpoint trap"
  | 6 => "Aborted"
  | 7 => "Bus error"
  | 8 => "Floating point exception"
  | 9 => "Killed"
  | 10 => "User defined signal 1"
  | 11 => "Segmentation fault"
  | 12 => "User defined signal 2"
  | 14 => "Alarm clock"
  | 15 => "Terminated"
  | 16 => "Stack fault"
  | 24 => "CPU time limit exceeded"
  | 25 => "File size limit exceeded"
  | 26 => "Virtual timer expired"
  | 27 => "Profiling timer expired"
  | 29 => "I/O possible"
  | 30 => "Power failure"
  | 31 => "Bad system call"
  | _ => ""

end PatchSearch.Shell.Signal
