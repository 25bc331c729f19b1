import Overseer.Fault
import Overseer.Journal.Line
import Overseer.Watchdog.Deadline

/-!
# Notices

What the supervisor writes to its journals.  A notice is kept as the event it
tells of; its level and its text are functions of that event.
-/

namespace Overseer

/-- An event worth a line in a journal. -/
inductive Notice
  /-- A command is about to be launched in a directory. -/
  | launching (command directory : Bytes)
  /-- A process was started. -/
  | started (pid : Int)
  /-- A process ended with an exit value. -/
  | exited (pid exitValue : Int)
  /-- The wait for a process was interrupted, so the process is destroyed. -/
  | waitInterrupted (pid : Int)
  /-- A process could not be destroyed. -/
  | notDestroyed (pid : Int) (fault : Fault)
  /-- A process could not be taken off a registry. -/
  | notDelisted (pid : Int) (fault : Fault)
  /-- The stream handler failed while an execution was being given up. -/
  | streamsFailed (fault : Fault)
  /-- A fault of the cleanup gave way to an earlier one. -/
  | dropped (fault : Fault)
  /-- A background execution failed. -/
  | failed (command : Bytes) (fault : Fault)
  /-- The receiver of a result failed. -/
  | receiverFailed (fault : Fault)
  /-- A watchdog destroys its process. -/
  | watchdogKills (pid : Int) (timeout : Timeout)
  /-- A process could not be destroyed at shutdown. -/
  | notTerminated (pid : Int) (fault : Fault)
deriving DecidableEq

namespace Notice

/-- The level of a notice: steps are for debugging, faults that are overcome are
warnings and the others are errors. -/
def level : Notice → Level
  | launching _ _ | started _ | exited _ _ => .debug
  | waitInterrupted _ | streamsFailed _ | dropped _ | watchdogKills _ _ => .warning
  | notDestroyed _ _ | notDelisted _ _ | failed _ _ | receiverFailed _ | notTerminated _ _ => .error

/-- The arguments that the text of a notice is put together from. -/
def arguments : Notice → List Journal.Argument
  | launching command directory =>
      [.text (utf8 "launching '"), .text command, .text (utf8 "' in "), .path directory]
  | started pid => [.text (utf8 "started process "), .int pid]
  | exited pid exitValue =>
      [.text (utf8 "process "), .int pid, .text (utf8 " exited with "), .int exitValue]
  | waitInterrupted pid =>
      [.text (utf8 "wait for process "), .int pid, .text (utf8 " interrupted, destroying it")]
  | notDestroyed pid fault =>
      [.text (utf8 "unable to destroy process "), .int pid, .text (utf8 ": "), .text fault.message]
  | notDelisted pid fault =>
      [.text (utf8 "unable to unregister process "), .int pid, .text (utf8 ": "),
        .text fault.message]
  | streamsFailed fault =>
      [.text (utf8 "stream handler failed while aborting: "), .text fault.message]
  | dropped fault =>
      [.text (utf8 "dropping cleanup error after an earlier one: "), .text fault.message]
  | failed command fault =>
      [.text (utf8 "process '"), .text command, .text (utf8 "' failed: "), .text fault.message]
  | receiverFailed .alien => [.text (utf8 "result handler threw a non-standard exception")]
  | receiverFailed fault => [.text (utf8 "result handler threw: "), .text fault.message]
  | watchdogKills pid timeout =>
      [.text (utf8 "watchdog destroys process "), .int pid, .text (utf8 " after "),
        .int timeout.toInt, .text (utf8 " ms")]
  | notTerminated pid fault =>
      [.text (utf8 "unable to terminate process "), .int pid, .text (utf8 " during shutdown: "),
        .text fault.message]

/-- The line of a notice. -/
def line (notice : Notice) : Bytes :=
  Journal.line notice.level (Journal.body notice.arguments)

end Notice

/-- A journal: the least level it writes, and what it has written. -/
structure Journal where
  /-- The least level that is written. -/
  minimum : Level
  /-- The notices written so far. -/
  notices : List Notice := []
deriving DecidableEq

namespace Journal

/-- Write a notice if its level is written. -/
def add (journal : Journal) (notice : Notice) : Journal :=
  if Level.isWritten journal.minimum notice.level then
    { journal with notices := journal.notices ++ [notice] }
  else journal

/-- All lines written so far. -/
def text (journal : Journal) : Bytes :=
  journal.notices.flatMap Notice.line

@[simp]
theorem minimum_add (journal : Journal) (notice : Notice) :
    (journal.add notice).minimum = journal.minimum := by
  unfold add
  split <;> rfl

end Journal

end Overseer
