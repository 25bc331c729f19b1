import Overseer.Text.Bytes

/-!
# Wait statuses

How a finished process is reported.  The low seven bits of a wait status hold
the signal that ended the process; zero stands for a process that exited by
itself, whose exit code is then in bits 8 to 15, and 127 for one that did not
end at all.
-/

namespace Overseer

/-- How a process ended, according to its wait status. -/
inductive Ending
  /-- It exited by itself with a code. -/
  | exited (code : Nat)
  /-- A signal ended it. -/
  | signalled (signal : Nat)
  /-- It has not ended. -/
  | unfinished
deriving DecidableEq, Repr

/-- The exit value of an execution that has none of its own. -/
def noExitValue : Int :=
  -2147483648

namespace Ending

/-- Read a 32-bit wait status. -/
def ofStatus (status : Int) : Ending :=
  let word := (status % 4294967296).toNat
  match word % 128 with
  | 0 => exited (word / 256 % 256)
  | 127 => unfinished
  | signal => signalled signal

/-- The wait status of an ending. -/
def status : Ending → Int
  | exited code => Int.ofNat (code % 256 * 256)
  | signalled signal => Int.ofNat (signal % 128)
  | unfinished => 127

/-- What is added to a signal number to make an exit value. -/
def signalBase : Int :=
  128

/-- The exit value of an ending: the code itself, or 128 more than the signal. -/
def exitValue : Ending → Int
  | exited code => Int.ofNat code
  | signalled signal => signalBase + Int.ofNat signal
  | unfinished => noExitValue

/-- The exit value of a wait status. -/
def exitValueOfStatus (status : Int) : Int :=
  (ofStatus status).exitValue

end Ending

end Overseer
