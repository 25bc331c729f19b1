import Overseer.Execution.Run
import Overseer.Supervisor.Signal

/-!
# Background workers

A worker carries out one execution and delivers its outcome to a receiver.  The
receiver may do things of its own when it is called: raise a fault, wait for
other workers, or ask for another execution.  The phase of a worker says what it
does next.
-/

namespace Overseer

/-- The index of a worker, in the order of their creation. -/
abbrev WorkerId := Nat

/-- What a receiver does when it is called. -/
inductive Reaction
  /-- Raise a fault. -/
  | raise (fault : Fault)
  /-- Wait for the workers there are. -/
  | awaitWorkers
  /-- Ask for the background execution of a command, with a receiver that only
  keeps the outcome. -/
  | follow (command : CommandLine) (receiver : ReceiverId)
deriving DecidableEq

/-- Who gets the outcome of a background execution. -/
structure Receiver where
  /-- Which receiver this is. -/
  id : ReceiverId
  /-- What it does when it is called, after it has kept the outcome. -/
  reactions : List Reaction := []
deriving DecidableEq

/-- What the next step of a worker does. -/
inductive Phase
  /-- Take a step of the execution. -/
  | executing
  /-- Tell the caller once more that the launch was tried. -/
  | announcing (outcome : Outcome)
  /-- Wait until the caller has seen it. -/
  | holding (outcome : Outcome)
  /-- Deliver the outcome. -/
  | delivering (outcome : Outcome)
  /-- Carry out what the receiver still does. -/
  | reacting (rest : List Reaction)
  /-- Wait, on behalf of the receiver, for workers to finish. -/
  | joining (others : List WorkerId) (rest : List Reaction)
  /-- Wait, on behalf of the receiver, for a worker to try its launch. -/
  | starting (other : WorkerId) (rest : List Reaction)
  /-- Nothing is left to do. -/
  | finished
deriving DecidableEq

/-- A background worker. -/
structure Worker where
  /-- Its execution. -/
  run : Run
  /-- Who gets the outcome. -/
  receiver : Receiver
  /-- The signal between it and its caller. -/
  signal : StartSignal := {}
  /-- What it does next. -/
  phase : Phase := .executing
deriving DecidableEq

namespace Worker

/-- Whether the worker has nothing left to do. -/
def isFinished (w : Worker) : Bool :=
  decide (w.phase = .finished)

/-- What a receiver is given for an outcome: an exit value, or an execution
failure. -/
def delivery : Outcome → Except Fault Int
  | .value exitValue => .ok exitValue
  | .fault fault => .error fault.forReceiver

@[simp]
theorem isFinished_iff {w : Worker} : w.isFinished = true ↔ w.phase = .finished := by
  simp [isFinished]

end Worker

end Overseer
