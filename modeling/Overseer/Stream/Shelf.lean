import Overseer.Stream.Owned

/-!
# Shelves of streams

A shelf holds owned streams over a table of descriptors and the contents of the
pipes.  It carries the calls of the owned streams out on the table.
-/

namespace Overseer

/-- Owned streams with the descriptors and pipes behind them. -/
structure Shelf where
  /-- The streams. -/
  ownership : Ownership
  /-- The descriptors. -/
  table : DescriptorTable := .initial
  /-- What each pipe holds. -/
  contents : List Bytes := []

namespace Shelf

/-- A shelf of closed streams. -/
def ofSize (n : Nat) : Shelf :=
  { ownership := { streams := List.replicate n {} } }

/-- Which streams are open. -/
def openings (s : Shelf) : List Bool :=
  s.ownership.streams.map OwnedStream.isOpen

/-- Carry out the closes that streams have called for since `before`. -/
def carryOut (s : Shelf) (before : Nat) : Shelf :=
  { s with
    table := (s.ownership.closeCalls.drop before).foldl (fun t d => (t.close d).2) s.table }

/-- Let the streams do something, and carry out the closes they call for. -/
def act (s : Shelf) (f : Ownership → Ownership) : Shelf :=
  carryOut { s with ownership := f s.ownership } s.ownership.closeCalls.length

/-- Close a stream. -/
def close (s : Shelf) (i : Nat) : Except Fault Unit × Shelf :=
  let answer := (s.table.close (s.ownership.stream i).descriptor).1
  ((s.ownership.close i answer).1, s.act (fun o => (o.close i answer).2))

/-- Let a stream take over what another one holds. -/
def assign (s : Shelf) (target source : Nat) : Shelf :=
  s.act (·.assign target source)

/-- Let a stream hold a descriptor from then on. -/
def hold (s : Shelf) (i : Nat) (d : Descriptor) : Shelf :=
  s.act (fun o =>
    let o := o.noteClose (o.stream i)
    o.setStream i (.ofDescriptor d))

/-- Move a stream into a temporary one and drop that; whether it was open. -/
def takeAndDrop (s : Shelf) (i : Nat) : Bool × Shelf :=
  ((s.ownership.stream i).isOpen, s.act (fun o => (o.noteClose (o.stream i)).setStream i {}))

/-- Make a pipe; `writer` holds the writing end and `reader` the reading end. -/
def openPipe (s : Shelf) (writer reader : Nat) : Shelf :=
  let (reading, writing, table) := s.table.openPipe
  let s := { s with table, contents := s.contents ++ [[]] }
  (s.hold writer writing).hold reader reading

/-- Close the descriptor of a stream without the stream knowing. -/
def closeBehind (s : Shelf) (i : Nat) : Shelf :=
  { s with table := (s.table.close (s.ownership.stream i).descriptor).2 }

/-- Whether a pipe can be read from somewhere. -/
def hasReader (s : Shelf) (pipe : Nat) : Bool :=
  s.table.openings.any (fun entry => entry.2.resource = .reading pipe)

/-- Write bytes to a stream. -/
def write (s : Shelf) (i : Nat) (data : Bytes) : Except Errno Unit × Shelf :=
  match s.table.find? (s.ownership.stream i).descriptor with
  | some { resource := .writing pipe, .. } =>
      if s.hasReader pipe then
        (.ok (), { s with contents := s.contents.modify pipe (· ++ data) })
      else (.error .brokenPipe, s)
  | _ => (.error .badDescriptor, s)

/-- Read all that is in the pipe of a stream; a closed stream has nothing. -/
def readAll (s : Shelf) (i : Nat) : Except Errno Bytes × Shelf :=
  if (s.ownership.stream i).isOpen then
    match s.table.find? (s.ownership.stream i).descriptor with
    | some { resource := .reading pipe, .. } =>
        (.ok (s.contents.getD pipe []), { s with contents := s.contents.set pipe [] })
    | _ => (.error .badDescriptor, s)
  else (.ok [], s)

end Shelf

end Overseer
