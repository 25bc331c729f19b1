import Overseer.Fault
import Overseer.Stream.Descriptor

/-!
# Owned streams

An owned stream holds at most one descriptor and is the only one to hold it.
Moving a stream empties the place it came from, and a descriptor that is let go
of is closed exactly once: also a close that fails has freed the descriptor, so
it is never tried again.
-/

namespace Overseer

/-- A stream that owns its descriptor. -/
structure OwnedStream where
  /-- The descriptor, unless the stream is closed. -/
  descriptor? : Option Descriptor := none
deriving DecidableEq, Inhabited

namespace OwnedStream

/-- The number that stands for no descriptor. -/
def noDescriptor : Descriptor :=
  -1

/-- The stream of a descriptor. -/
def ofDescriptor (d : Descriptor) : OwnedStream :=
  if d = noDescriptor then {} else { descriptor? := some d }

/-- The descriptor, or the number that stands for none. -/
def descriptor (s : OwnedStream) : Descriptor :=
  s.descriptor?.getD noDescriptor

/-- Whether the stream holds a descriptor. -/
def isOpen (s : OwnedStream) : Bool :=
  s.descriptor?.isSome

/-- What closing a stream raises when the system answered the close: that it
was interrupted does not count. -/
def closeReply : Except Errno Unit → Except Fault Unit
  | .ok () => .ok ()
  | .error errno =>
      if errno = .interrupted then .ok () else .error (.system errno (utf8 "close"))

end OwnedStream

/-- Several owned streams, and the calls they have made to close descriptors. -/
structure Ownership where
  /-- The streams; one that was dropped stays in its place, closed. -/
  streams : List OwnedStream
  /-- The descriptors that were closed, in order. -/
  closeCalls : List Descriptor := []
deriving DecidableEq

namespace Ownership

/-- A stream. -/
def stream (o : Ownership) (i : Nat) : OwnedStream :=
  o.streams.getD i {}

/-- Replace a stream without looking at it. -/
def setStream (o : Ownership) (i : Nat) (s : OwnedStream) : Ownership :=
  { o with streams := o.streams.set i s }

/-- Take note of the call that closes what a stream holds. -/
def noteClose (o : Ownership) (s : OwnedStream) : Ownership :=
  { o with closeCalls := o.closeCalls ++ s.descriptor?.toList }

/-- Add a stream for a descriptor. -/
def adopt (o : Ownership) (d : Descriptor) : Ownership :=
  { o with streams := o.streams ++ [.ofDescriptor d] }

/-- Add a stream that takes over what another one holds. -/
def takeOver (o : Ownership) (i : Nat) : Ownership :=
  let taken := o.stream i
  { o with streams := o.streams.set i {} ++ [taken] }

/-- Let a stream take over what another one holds, after closing what it held
itself.  Onto itself this does nothing. -/
def assign (o : Ownership) (target source : Nat) : Ownership :=
  if target = source then o
  else
    let taken := o.stream source
    ((o.noteClose (o.stream target)).setStream source {}).setStream target taken

/-- Close a stream; `reply` is what the system answers if there is anything to
close. -/
def close (o : Ownership) (i : Nat) (reply : Except Errno Unit) : Except Fault Unit × Ownership :=
  let s := o.stream i
  (if s.isOpen then OwnedStream.closeReply reply else .ok (), (o.noteClose s).setStream i {})

/-- Drop a stream, closing what it holds. -/
def drop (o : Ownership) (i : Nat) : Ownership :=
  (o.noteClose (o.stream i)).setStream i {}

@[simp]
theorem assign_self (o : Ownership) (i : Nat) : o.assign i i = o := by
  simp [assign]

end Ownership

end Overseer
