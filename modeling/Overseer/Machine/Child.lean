import Overseer.Machine.Handle
import Overseer.Machine.Kernel
import Overseer.Stream.Owned

/-!
# Children

A child of the supervisor is a process of a kernel, together with what the
supervisor holds of it: its handle, and its own ends of the pipes that are the
child's standard streams.
-/

namespace Overseer.Machine

namespace Kernel

/-- The entry that the system keeps for a process. -/
def entry (k : Kernel) (pid : Nat) : Entry :=
  match k.task? pid with
  | none => .gone
  | some t =>
      match t.ending with
      | some ending => .ended ending.status
      | none => .running

/-- Whether a process has ended. -/
def hasEnded (k : Kernel) (pid : Nat) : Bool :=
  k.entry pid ≠ .running

/-- Send a signal to a process. -/
def sendSignal (k : Kernel) (pid number : Nat) : Kernel :=
  (k.signal (Int.ofNat pid) number).2

end Kernel

/-- A child of the supervisor. -/
structure Child where
  /-- Its number. -/
  pid : Nat
  /-- The supervisor's ends of its input, output and errors. -/
  streams : Ownership
  /-- What the supervisor knows of its end. -/
  handle : Handle := {}

namespace Child

/-- The place of a stream among the supervisor's ends. -/
def streamPlace : StandardStream → Nat
  | .input => 0
  | .output => 1
  | .error => 2

/-- The supervisor's end of a stream. -/
def stream (child : Child) (stream : StandardStream) : OwnedStream :=
  child.streams.stream (streamPlace stream)

/-- The pipe that a stream is. -/
def pipe? (child : Child) (k : Kernel) (stream : StandardStream) : Option Nat :=
  match k.outer.find? (child.stream stream).descriptor with
  | some { resource := .reading pipe, .. } | some { resource := .writing pipe, .. } => some pipe
  | _ => none

/-- Wait for the child, as far as it has ended. -/
def wait (child : Child) (k : Kernel) : WaitReply Fault × Child × Kernel :=
  let (reply, handle) := child.handle.wait (k.entry child.pid)
  let child := { child with handle }
  (reply, child, if handle.exitValue?.isSome then k.forget child.pid else k)

/-- Destroy the child. -/
def destroy (child : Child) (k : Kernel) : Except Fault Unit × Kernel :=
  if child.handle.maySignal then
    (Handle.afterSignal (k.entry child.pid).killReply, k.sendSignal child.pid killSignal)
  else (.ok (), k)

/-- Let go of the child: one whose status was not collected is killed, and its
status is collected. -/
def release (child : Child) (k : Kernel) : Kernel :=
  if child.handle.maySignal then (k.sendSignal child.pid killSignal).forget child.pid else k

/-- Collect the status behind the handle's back: the exit value, if the child
has ended. -/
def collectElsewhere (child : Child) (k : Kernel) : Option Int × Kernel :=
  match (k.entry child.pid).collect? with
  | some (.ok status) => (some (Ending.exitValueOfStatus status), k.forget child.pid)
  | _ => (none, k)

/-- Write to the child's input, as far as there is room: how many bytes were
taken. -/
def write (child : Child) (k : Kernel) (data : Bytes) : Except Errno Nat × Kernel :=
  match child.pipe? k .input with
  | none => (.error .badDescriptor, k)
  | some pipe =>
      if k.hasReader pipe then
        let count := (k.pipes.getD pipe .empty).accepts data
        (.ok count, { k with pipes := k.pipes.modify pipe (·.write (data.take count)) })
      else (.error .brokenPipe, k)

/-- Read at most `count` bytes of one of the child's outputs: nothing if it has to
be waited for, and no bytes at the end. -/
def read? (child : Child) (k : Kernel) (stream : StandardStream) (count : Nat) :
    Option (Bytes × Kernel) :=
  match child.pipe? k stream with
  | none => some ([], k)
  | some pipe =>
      let content := k.pipes.getD pipe .empty
      if content.isEmpty then if k.hasWriter pipe then none else some ([], k)
      else
        let (data, content) := content.read count
        some (data, { k with pipes := k.pipes.setIfInBounds pipe content })

/-- Close the supervisor's end of a stream. -/
def close (child : Child) (k : Kernel) (stream : StandardStream) :
    Except Fault Unit × Child × Kernel :=
  if (child.stream stream).isOpen then
    let (reply, outer) := k.outer.close (child.stream stream).descriptor
    let (result, streams) := child.streams.close (streamPlace stream) reply
    (result, { child with streams }, { k with outer })
  else (.ok (), child, k)

end Child

end Overseer.Machine
