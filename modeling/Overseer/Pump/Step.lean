import Overseer.Pump.Reservoir

/-!
# Pumps step by step

Pumps work beside each other.  In one step a pump makes a call on the stream of its process, or it
does one thing with the sink or the source that it shares with others.  Once it has ended, its
session takes note of its fault.
-/

namespace Overseer.Pump

/-- Where an input pump is. -/
inductive Feeding
  /-- It writes what is left of a chunk; when nothing is left it takes the next one. -/
  | writing (left : Bytes)
  /-- It closes its stream. -/
  | closing
  /-- It has ended. -/
  | ended (fault : Option Fault)
deriving DecidableEq

namespace Feeding

/-- What comes of taking the next chunk from a source. -/
def take (source : Source) : Feeding × Source :=
  (if source.take.1 = [] then closing else writing source.take.1, source.take.2)

/-- What comes of writing what is left of a chunk. -/
def written (left : Bytes) : WriteReply → Feeding
  | .taken count => writing (left.drop count)
  | .failed errno =>
      if errno = .interrupted then writing left
      else if errno = .brokenPipe then closing
      else ended (some (writeFault errno))

/-- What comes of closing the stream. -/
def closed : Except Fault Unit → Feeding
  | .ok () => ended none
  | .error fault => ended (some fault)

@[simp]
theorem written_taken (left : Bytes) (count : Nat) :
    written left (.taken count) = writing (left.drop count) :=
  rfl

@[simp]
theorem written_interrupted (left : Bytes) :
    written left (.failed .interrupted) = writing left := by
  simp [written]

@[simp]
theorem written_unread (left : Bytes) : written left (.failed .brokenPipe) = closing := by
  have hother : Errno.brokenPipe ≠ .interrupted := by decide
  simp [written, hother]

theorem written_failed (left : Bytes) {errno : Errno} (hinterrupted : errno ≠ .interrupted)
    (hunread : errno ≠ .brokenPipe) :
    written left (.failed errno) = ended (some (writeFault errno)) := by
  simp [written, hinterrupted, hunread]

end Feeding

/-- Where an output pump is. -/
inductive Draining
  /-- It reads. -/
  | reading
  /-- It writes a chunk to its sink. -/
  | holding (chunk : Bytes)
  /-- It flushes its sink. -/
  | flushing
  /-- It has ended. -/
  | ended (fault : Option Fault)
deriving DecidableEq

namespace Draining

variable {σ : Type}

/-- What comes of a read. -/
def read : ReadReply → Draining
  | .data chunk => holding chunk
  | .interrupted => reading
  | .ended => flushing
  | .failed errno => ended (some (readFault errno))

/-- What comes of writing a chunk to a sink. -/
def write (kind : SinkKind σ) (chunk : Bytes) (sink : σ) : Draining × σ :=
  match kind.write chunk sink with
  | (true, sink) => (reading, sink)
  | (false, sink) => (ended (some sinkFault), sink)

theorem write_of_taken {kind : SinkKind σ} {chunk : Bytes} {sink : σ}
    (htaken : (kind.write chunk sink).1 = true) :
    write kind chunk sink = (reading, (kind.write chunk sink).2) := by
  rw [write]
  split
  · next hanswer => rw [hanswer]
  · next hanswer => simp [hanswer] at htaken

theorem write_of_refused {kind : SinkKind σ} {chunk : Bytes} {sink : σ}
    (hrefused : (kind.write chunk sink).1 = false) :
    write kind chunk sink = (ended (some sinkFault), (kind.write chunk sink).2) := by
  rw [write]
  split
  · next hanswer => simp [hanswer] at hrefused
  · next hanswer => rw [hanswer]

/-- What comes of flushing a sink, which is not asked how it went. -/
def flush (kind : SinkKind σ) (sink : σ) : Draining × σ :=
  (ended none, (kind.flush sink).2)

end Draining

/-- What a pump is at. -/
inductive Work
  /-- It feeds a process. -/
  | feeding (stage : Feeding)
  /-- It drains a process. -/
  | draining (stage : Draining)
deriving DecidableEq

namespace Work

/-- What the pump of a stream begins with. -/
def begin : StandardStream → Work
  | .input => feeding (.writing [])
  | .output | .error => draining .reading

/-- The end of a pump, with the fault that its session has yet to take note of. -/
def ending? : Work → Option (Option Fault)
  | feeding (.ended fault) | draining (.ended fault) => some fault
  | _ => none

/-- Whether a pump has ended, and its session has taken note of its fault. -/
def isDone (w : Work) : Bool :=
  w.ending? = some none

/-- A pump whose fault its session has taken note of. -/
def done : Work → Work
  | feeding _ => feeding (.ended none)
  | draining _ => draining (.ended none)

end Work

end Overseer.Pump
