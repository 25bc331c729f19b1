import Overseer.Fault
import Overseer.Process

/-!
# Handles of child processes

The system keeps an entry for a child until somebody collects its status; from
then on its number may be used for another process.  A handle collects the
status at most once, remembers it, and sends no signal afterwards.

Waiting takes three sections: look whether the status is known, wait without
collecting, and collect.  Between them others may use the same handle.
-/

namespace Overseer.Machine

/-- What the system keeps of a child. -/
inductive Entry
  /-- The child runs. -/
  | running
  /-- The child has ended, and its status was not collected. -/
  | ended (status : Int)
  /-- The status was collected. -/
  | gone
deriving DecidableEq, Repr

namespace Entry

/-- Wait for the end without collecting; nothing comes back while the child
runs. -/
def awaitEnd? : Entry → Option (Except Errno Unit)
  | running => none
  | ended _ => some (.ok ())
  | gone => some (.error .noChild)

/-- Collect the status; nothing comes back while the child runs. -/
def collect? : Entry → Option (Except Errno Int)
  | running => none
  | ended status => some (.ok status)
  | gone => some (.error .noChild)

/-- The answer to a signal that ends the child. -/
def killReply : Entry → Except Errno Unit
  | running | ended _ => .ok ()
  | gone => .error .noProcess

end Entry

/-- What a program knows of its child. -/
structure Handle where
  /-- The exit value, once it was collected. -/
  exitValue? : Option Int := none
deriving DecidableEq, Repr

namespace Handle

/-- What waiting without collecting comes to: being interrupted is a fault, and
that somebody else has collected is not. -/
def afterWait : Except Errno Unit → Except Fault Unit
  | .ok () => .ok ()
  | .error errno =>
      if errno = .interrupted then .error .interrupted
      else if errno = .noChild then .ok ()
      else .error (.system errno (utf8 "waitid"))

/-- Collect the status, unless it is known. -/
def collect (h : Handle) (reply : Except Errno Int) : Except Fault Int × Handle :=
  match h.exitValue? with
  | some value => (.ok value, h)
  | none =>
      match reply with
      | .ok status =>
          let value := Ending.exitValueOfStatus status
          (.ok value, { exitValue? := some value })
      | .error errno => (.error (.system errno (utf8 "waitpid")), h)

/-- Whether destroying the child sends a signal. -/
def maySignal (h : Handle) : Bool :=
  h.exitValue?.isNone

/-- What destroying the child comes to when a signal was sent: that there is no
such process is fine. -/
def afterSignal : Except Errno Unit → Except Fault Unit
  | .ok () => .ok ()
  | .error errno =>
      if errno = .noProcess then .ok () else .error (.system errno (utf8 "kill"))

/-- Wait for a child whose entry does not change in between. -/
def wait (h : Handle) (entry : Entry) : WaitReply Fault × Handle :=
  match h.exitValue? with
  | some value => (.exited value, h)
  | none =>
      match entry.awaitEnd?, entry.collect? with
      | some reply, some status =>
          match afterWait reply with
          | .error fault => (.failed fault, h)
          | .ok () =>
              match h.collect status with
              | (.ok value, h) => (.exited value, h)
              | (.error fault, h) => (.failed fault, h)
      | _, _ => (.pending, h)

end Handle

end Overseer.Machine
