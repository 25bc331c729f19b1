import Overseer.Errno
import Overseer.ExitStatus

/-!
# Faults

A `Fault` is what an operation raises instead of returning a value.  Every kind
carries its cause; the wording is produced only by `Fault.message`.

Most faults are *standard*: they describe themselves, and cleanup code that
handles "any error" handles them.  An `alien` fault is a raised value of no
known kind; it has no description and passes by every such handler.
-/

namespace Overseer

/-- What an operation raises instead of returning. -/
inductive Fault
  /-- An execution failed with an exit value. -/
  | execution (reason : Bytes) (exitValue : Int)
  /-- An execution failed because of another fault. -/
  | causedExecution (summary : Bytes) (exitValue : Int) (cause : Fault)
  /-- A system call failed while doing what `context` says. -/
  | system (errno : Errno) (context : Bytes)
  /-- A wait for a process was interrupted by a signal. -/
  | interrupted
  /-- An argument was not acceptable. -/
  | invalidArgument (reason : Bytes)
  /-- An operation was called at the wrong time. -/
  | logic (reason : Bytes)
  /-- An error only detectable when running. -/
  | runtime (reason : Bytes)
  /-- A raised value of no known kind. -/
  | alien
deriving DecidableEq, Inhabited

namespace Fault

/-- Whether handlers of "any error" handle the fault. -/
def isStandard : Fault → Bool
  | alien => false
  | _ => true

/-- The description of a fault, which ends before its first NUL.  A caused
execution failure names its cause in parentheses, and a failed system call ends
with the description of its number. -/
def message : Fault → Bytes
  | execution reason _ => Bytes.untilNul reason
  | causedExecution summary _ cause =>
      Bytes.untilNul (summary ++ utf8 " (" ++ cause.message ++ utf8 ")")
  | system errno context => Bytes.untilNul (context ++ utf8 ": " ++ errno.description)
  | interrupted => utf8 "wait for process interrupted"
  | invalidArgument reason => Bytes.untilNul reason
  | logic reason => Bytes.untilNul reason
  | runtime reason => Bytes.untilNul reason
  | alien => utf8 "unknown error"

/-! ## The faults this library raises -/

/-- A quoted run was not closed. -/
def unterminatedQuote : Fault :=
  runtime (utf8 "unterminated quote")

/-- A command line needs at least one word. -/
def emptyCommandLine : Fault :=
  invalidArgument (utf8 "command line can not be empty")

/-- A command line needs a program to run. -/
def emptyExecutable : Fault :=
  invalidArgument (utf8 "executable can not be empty")

/-- A watchdog cannot expire before it starts. -/
def badTimeout : Fault :=
  invalidArgument (utf8 "watchdog timeout must be positive or infinite")

/-- A watchdog watches one process at a time. -/
def alreadyWatching : Fault :=
  logic (utf8 "watchdog is already running")

/-- A result was asked for before there was one. -/
def noResult : Fault :=
  logic (utf8 "the process has not exited yet therefore no result is available")

/-- A supervisor needs something to launch with. -/
def missingLauncher : Fault :=
  invalidArgument (utf8 "command launcher can not be null")

/-- A supervisor needs a stream handler. -/
def missingStreamHandler : Fault :=
  invalidArgument (utf8 "stream handler can not be null")

/-- A supervisor needs a logger. -/
def missingLogger : Fault :=
  invalidArgument (utf8 "logger can not be null")

/-- A background execution needs a receiver for its result. -/
def missingReceiver : Fault :=
  invalidArgument (utf8 "result handler can not be null")

/-- The working directory does not exist. -/
def missingDirectory (directory : Bytes) : Fault :=
  system .noEntry (directory ++ utf8 " doesn't exist.")

/-- No directory of the search path holds the program. -/
def commandNotFound (program : Bytes) : Fault :=
  system .noEntry (program ++ utf8 ": command not found")

/-- The program was found but could not be started. -/
def notStarted (errno : Errno) (program : Bytes) : Fault :=
  system errno (utf8 "failed to execute '" ++ program ++ utf8 "'")

/-- The exit value counts as a failure. -/
def badExitValue (exitValue : Int) : Fault :=
  execution (utf8 "Process exited with an error: " ++ decimal exitValue) exitValue

/-- The failure delivered for a background execution that ended with a fault
which is not itself an execution failure. -/
def executionFailed (cause : Fault) : Fault :=
  causedExecution (utf8 "Execution failed") noExitValue cause

/-- The fault as a receiver gets it: an execution failure as it is, and any
other fault as the cause of one. -/
def forReceiver : Fault → Fault
  | fault@(execution _ _) => fault
  | fault@(causedExecution _ _ _) => fault
  | fault => executionFailed fault

/-- The exit value that goes with a fault. -/
def exitValue : Fault → Int
  | execution _ value => value
  | causedExecution _ value _ => value
  | _ => noExitValue

/-- The fault of an execution whose watchdog could not do its work: a failed
system call as it is, and any other standard fault as an input/output error. -/
def ofWatchdog : Fault → Fault
  | fault@(system _ _) => fault
  | alien => alien
  | fault => system .inputOutput fault.message

@[simp]
theorem isStandard_alien : alien.isStandard = false :=
  rfl

@[simp]
theorem isStandard_system (errno : Errno) (context : Bytes) :
    (system errno context).isStandard = true :=
  rfl

/-- A description holds no NUL. -/
theorem nul_notMem_message (fault : Fault) : 0 ∉ fault.message := by
  cases fault with
  | interrupted | alien => exact Bytes.nul_notMem_of_untilNul_eq rfl
  | _ => exact Bytes.nul_notMem_untilNul _

/-- Nothing of the cause is lost when an execution fails because of it. -/
@[simp]
theorem message_executionFailed (cause : Fault) :
    (executionFailed cause).message =
      utf8 "Execution failed" ++ utf8 " (" ++ cause.message ++ utf8 ")" := by
  have hcause := nul_notMem_message cause
  have hfirst : 0 ∉ utf8 "Execution failed" ++ utf8 " (" := Bytes.nul_notMem_of_untilNul_eq rfl
  have hlast : 0 ∉ utf8 ")" := Bytes.nul_notMem_of_untilNul_eq rfl
  apply Bytes.untilNul_of_nul_notMem
  simp only [List.mem_append] at hfirst ⊢
  simp only [hcause, hlast, hfirst, or_false, not_false_eq_true]

end Fault

end Overseer
