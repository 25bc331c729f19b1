import Overseer.Text.Bytes

/-!
# Pipes

A pipe holds the bytes that were written to it and not read yet, up to a capacity.
What was written last is kept apart, and the number of bytes is kept as well, so
that many small writes cost little.
-/

namespace Overseer.Machine

/-- The bytes in a pipe. -/
structure Pipe where
  /-- The bytes that are read next. -/
  front : Bytes := []
  /-- What was written after them, the latest first. -/
  back : List Bytes := []
  /-- How many bytes there are. -/
  size : Nat := 0
  /-- The number of bytes is the right one. -/
  size_eq : size = (front ++ back.reverse.flatten).length

namespace Pipe

/-- The pipe with nothing in it. -/
def empty : Pipe where
  size_eq := rfl

instance : Inhabited Pipe where
  default := empty

/-- How many bytes a pipe holds at most. -/
def capacity : Nat :=
  65536

/-- Up to which length a write is not cut into parts. -/
def atomicLength : Nat :=
  4096

/-- All bytes in the pipe, in order. -/
def content (p : Pipe) : Bytes :=
  p.front ++ p.back.reverse.flatten

/-- Whether there is nothing to read. -/
def isEmpty (p : Pipe) : Bool :=
  p.size = 0

/-- How many more bytes the pipe takes. -/
def room (p : Pipe) : Nat :=
  capacity - p.size

/-- Write to the pipe. -/
def write (p : Pipe) (data : Bytes) : Pipe where
  front := p.front
  back := data :: p.back
  size := p.size + data.length
  size_eq := by simp [p.size_eq]; omega

/-- Read at most `count` bytes. -/
def read (p : Pipe) (count : Nat) : Bytes × Pipe :=
  let content := if p.back.isEmpty then p.front else p.content
  let left := content.drop count
  (content.take count, { front := left, size := left.length, size_eq := by simp })

/-- How much of some data a write puts into the pipe at once: all of it if there is
room, otherwise nothing of data that is not cut, and as much as fits of other
data. -/
def accepts (p : Pipe) (data : Bytes) : Nat :=
  if data.length ≤ p.room then data.length
  else if data.length ≤ atomicLength then 0
  else p.room

end Pipe

end Overseer.Machine
