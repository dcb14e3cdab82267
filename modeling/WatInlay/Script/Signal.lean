/-
Signals: their numbers, their names and what they do to a program that has made
no provision for them.
-/

import WatInlay.Script.Language

namespace WatInlay.Script

/-- A signal, by its number. -/
abbrev Signal := Nat

namespace Signal

/-- The signals with a meaning of their own: the name, and what is said of a
program that one has ended. -/
def described : List (Signal × String × String) :=
  [(1, "HUP", "Hangup"), (2, "INT", "Interrupt"), (3, "QUIT", "Quit"),
    (4, "ILL", "Illegal instruction"), (5, "TRAP", "Trace/breakpoint trap"),
    (6, "ABRT", "Aborted"), (7, "BUS", "Bus error"), (8, "FPE", "Floating point exception"),
    (9, "KILL", "Killed"), (10, "USR1", "User defined signal 1"),
    (11, "SEGV", "Segmentation fault"), (12, "USR2", "User defined signal 2"),
    (13, "PIPE", "Broken pipe"), (14, "ALRM", "Alarm clock"), (15, "TERM", "Terminated"),
    (16, "16", "Stack fault"), (17, "CHLD", "Child exited"), (18, "CONT", "Continued"),
    (19, "STOP", "Stopped (signal)"), (20, "TSTP", "Stopped"), (21, "TTIN", "Stopped (tty input)"),
    (22, "TTOU", "Stopped (tty output)"), (23, "URG", "Urgent I/O condition"),
    (24, "XCPU", "CPU time limit exceeded"), (25, "XFSZ", "File size limit exceeded"),
    (26, "VTALRM", "Virtual timer expired"), (27, "PROF", "Profiling timer expired"),
    (28, "WINCH", "Window changed"), (29, "IO", "I/O possible"), (30, "PWR", "Power failure"),
    (31, "SYS", "Bad system call")]

/-- Signals are below this number. -/
def limit : Nat :=
  65

/-- The signals for real-time use, but for the two lowest, which have no names. -/
def firstRealTime : Nat :=
  34

/-- The name of a signal. Those for real-time use are counted up from the lowest,
and from the middle on down from the highest. -/
def name (n : Signal) : Text :=
  match described.lookup n with
  | some (name, _) => name.toList
  | none =>
    if n = 0 then "EXIT".toList
    else if n < firstRealTime then Text.ofNat n
    else if n = firstRealTime then "RTMIN".toList
    else if n < 50 then "RTMIN+".toList ++ Text.ofNat (n - firstRealTime)
    else if n + 1 < limit then "RTMAX-".toList ++ Text.ofNat (limit - 1 - n)
    else "RTMAX".toList

/-- All numbers of signals, in order; the first, zero, is none. -/
def all : List Signal :=
  List.range limit

/-- What is said of a program that a signal has ended. -/
def description (n : Signal) : Text :=
  match described.lookup n with
  | some (_, text) => text.toList
  | none =>
    if n < firstRealTime then "Unknown signal ".toList ++ Text.ofNat n
    else "Real-time signal ".toList ++ Text.ofNat (n - firstRealTime)

/-- Whether nothing is said of a program that the signal has ended. -/
def isSilent (n : Signal) : Bool :=
  n == 2 || n == 13

/-- Whether a program that has made no provision goes on after the signal. One that
only stops a program counts as harmless. -/
def isHarmless (n : Signal) : Bool :=
  n == 0 || (17 ≤ n && n ≤ 23) || n == 28

/-- Whether no program can make provision for the signal. -/
def isInexorable (n : Signal) : Bool :=
  n == 9 || n == 19

/-- The signal that ends a program that has divided by zero or too far. -/
def arithmetic : Signal :=
  8

/-- The signal that ends a program that writes what nobody reads. -/
def brokenPipe : Signal :=
  13

/-- The signal that asks a program to end. -/
def termination : Signal :=
  15

/-- The signal that ends a program that writes to a file that is as large as may be. -/
def fileTooLarge : Signal :=
  25

/-- The signal that a program's child has ended. -/
def childEnded : Signal :=
  17

/-- A signal given by its number or, in letters of either case, its name. The
number zero counts only if `zero`. -/
def ofText? (zero : Bool) (t : Raw) : Option Signal :=
  if !t.isEmpty && t.all Char.isDigit then
    let n := Text.decimalValue t
    if n < limit then some n else none
  else
    let upper := t.map Char.toUpper
    all.find? fun n => (zero || n != 0) && name n == upper

end Signal

/-- How a program ended. -/
inductive Ending where
  | exited (status : Nat)
  | killed (signal : Signal)
  deriving DecidableEq, Repr

namespace Ending

/-- The status that a shell sees. -/
def status : Ending → Nat
  | exited n => n % 256
  | killed s => 128 + s

/-- How it ended, in a list of jobs. -/
def description : Ending → Text
  | exited n =>
    if n % 256 = 0 then "Done".toList
    else "Done(".toList ++ Text.ofNat (n % 256) ++ [')']
  | killed s => s.description

end Ending

end WatInlay.Script
