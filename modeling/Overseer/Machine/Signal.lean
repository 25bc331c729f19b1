import Overseer.Text.Bytes

/-!
# Signals

The signals with their names, what they do to a process that has made no
arrangements for them, and what is said of a process that one of them has ended.
-/

namespace Overseer.Machine

/-- The names of the signals from the first on.  Some have none but their numbers. -/
def signalNames : List String :=
  ["HUP", "INT", "QUIT", "ILL", "TRAP", "ABRT", "BUS", "FPE", "KILL", "USR1", "SEGV", "USR2",
    "PIPE", "ALRM", "TERM", "16", "CHLD", "CONT", "STOP", "TSTP", "TTIN", "TTOU", "URG", "XCPU",
    "XFSZ", "VTALRM", "PROF", "WINCH", "IO", "PWR", "SYS", "32", "33", "RTMIN"] ++
    (List.range 15).map (fun n => "RTMIN+" ++ toString (n + 1)) ++
    (List.range 14).map (fun n => "RTMAX-" ++ toString (14 - n)) ++ ["RTMAX"]

/-- What a program is said to have been ended by. -/
def signalDescriptions : List (Nat × String) :=
  [(1, "Hangup"), (2, "Interrupt"), (3, "Quit"), (4, "Illegal instruction"),
    (5, "Trace/breakpoint trap"), (6, "Aborted"), (7, "Bus error"), (8, "Floating point exception"),
    (9, "Killed"), (10, "User defined signal 1"), (11, "Segmentation fault"),
    (12, "User defined signal 2"), (13, "Broken pipe"), (14, "Alarm clock"), (15, "Terminated"),
    (16, "Stack fault"), (24, "CPU time limit exceeded"), (25, "File size limit exceeded"),
    (26, "Virtual timer expired"), (27, "Profiling timer expired"), (29, "I/O possible"),
    (30, "Power failure"), (31, "Bad system call")]

/-- The number of the first signal for programs to use as they like. -/
def firstFreeSignal : Nat :=
  34

/-- What a program is said to have been ended by, given a signal. -/
def signalDescription (number : Nat) : String :=
  match signalDescriptions.find? (fun entry => entry.1 = number) with
  | some (_, text) => text
  | none =>
      if number < firstFreeSignal then "Unknown signal " ++ toString number
      else "Real-time signal " ++ toString (number - firstFreeSignal)

/-- What is added to the number of a signal to make the code of a program that it
has ended. -/
def signalCode : Nat :=
  128

/-- The greatest signal number. -/
def lastSignal : Nat :=
  64

/-- The signal that ends programs unless something else is asked for. -/
def terminate : Nat :=
  15

/-- The signal that ends a process whatever it has arranged. -/
def killSignal : Nat :=
  9

/-- The signal that an interruption from outside sends. -/
def interruptSignal : Nat :=
  2

/-- The signal that a demand to quit from outside sends. -/
def quitSignal : Nat :=
  3

/-- The signal for arithmetic that has no result. -/
def arithmeticSignal : Nat :=
  8

/-- The signal for a write that nobody reads. -/
def pipeSignal : Nat :=
  13

/-- The signal for a file that grows beyond a limit. -/
def fileSizeSignal : Nat :=
  25

/-- The signal that tells a process of the end of one that it started. -/
def childSignal : Nat :=
  17

/-- The signal that lets a stopped process go on. -/
def continueSignal : Nat :=
  18

/-- A text with small letters in place of capital ones. -/
def withSmallLetters (text : Bytes) : Bytes :=
  text.map (fun b => if 0x41 ≤ b && b ≤ 0x5a then b + 0x20 else b)

/-- The number of a signal given by name. -/
def signalNumber? (name : Bytes) : Option Nat :=
  (signalNames.findIdx? (fun known =>
    withSmallLetters (utf8 known) = withSmallLetters name)).map (· + 1)

/-- The name of a signal. -/
def signalName? (number : Nat) : Option String :=
  if number = 0 then none else signalNames[number - 1]?

/-- Whether a program may make arrangements for a signal. -/
def isTrappable (number : Nat) : Bool :=
  number ≠ 9 && number ≠ 19

/-- What a signal does to a program. -/
inductive SignalEffect
  /-- Nothing. -/
  | none
  /-- It ends the program. -/
  | ends
  /-- It stops the program until it is told to go on. -/
  | stops
deriving DecidableEq, Repr

/-- What a signal does to a program that has made no arrangements for it. -/
def signalEffect (number : Nat) : SignalEffect :=
  if number = 0 || number = childSignal || number = continueSignal || number = 23 ||
      number = 28 then .none
  else if 19 ≤ number && number ≤ 22 then .stops
  else .ends

end Overseer.Machine
