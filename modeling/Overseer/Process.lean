import Overseer.Text.Bytes

/-!
# Processes as the supervisor names them

The supervisor tells processes apart by where they came from, not by their
numbers: the system may use a number again.
-/

namespace Overseer

/-- A process the supervisor or somebody else started. -/
inductive ProcessRef
  /-- The process of the launch with this index. -/
  | launched (index : Nat)
  /-- A process that somebody else started. -/
  | outsider
deriving DecidableEq, Inhabited, Repr

/-- The three standard streams, named as the child sees them. -/
inductive StandardStream
  /-- The stream the child reads. -/
  | input
  /-- The stream the child writes its output to. -/
  | output
  /-- The stream the child writes its diagnostics to. -/
  | error
deriving DecidableEq, Inhabited, Repr

/-- What a wait for a process comes to. -/
inductive WaitReply (ε : Type)
  /-- The process ended with an exit value. -/
  | exited (exitValue : Int)
  /-- The wait failed. -/
  | failed (fault : ε)
  /-- The process has not ended. -/
  | pending
deriving DecidableEq

end Overseer
